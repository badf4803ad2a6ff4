/-
# The tokens of a YAML text

Reads a text into its tokens.  Indentation becomes tokens as well: a block
starts where a hyphen or a key stands further to the right than the block
around it, and ends where something stands further to the left.  That a
scalar is a key shows only at the colon behind it, so every place where a
key may start is remembered, one for each open bracket.
-/
import PipelineScript.Yaml.Token

namespace PipelineScript.Yaml

/-- A place where a key may have started. -/
structure Candidate where
  /-- A key must have started here, for nothing else fits the indentation. -/
  required : Bool
  /-- How many tokens stand before it. -/
  before : Nat
  index : Nat
  line : Nat
  column : Nat
deriving Repr

/-- The state of reading. -/
structure Layout where
  place : Place
  /-- The tokens read, the last one first. -/
  tokens : List Token := []
  /-- The column of the innermost block. -/
  indent : Int := -1
  /-- The columns of the blocks around it. -/
  outer : List Int := []
  /-- The candidate outside all brackets. -/
  candidate : Option Candidate := none
  /-- For each open bracket, innermost first, the candidate outside it. -/
  brackets : List (Option Candidate) := []
  /-- May a key start here? -/
  keyAllowed : Bool := true

namespace Layout

def inFlow (l : Layout) : Bool :=
  !l.brackets.isEmpty

def push (l : Layout) (t : Token) : Layout :=
  { l with tokens := t :: l.tokens }

/-- Puts a token in front of all but the first so many. -/
def insertAt (l : Layout) (before : Nat) (t : Token) : Layout :=
  let behind := l.tokens.take (l.tokens.length - before)
  { l with tokens := behind ++ t :: l.tokens.drop (l.tokens.length - before) }

/-! ## Blocks -/

/-- Ends the blocks that stand further to the right, of so many. -/
def closeBlocks (l : Layout) (column : Int) : Nat → Layout
  | 0 => l
  | n + 1 =>
    if l.indent ≤ column then l
    else
      let closed := { l.push .blockEnd with indent := l.outer.headD (-1), outer := l.outer.tail }
      closed.closeBlocks column n

/-- Ends the blocks that stand further to the right than a column. -/
def unindent (l : Layout) (column : Int) : Layout :=
  if l.inFlow then l else l.closeBlocks column (l.outer.length + 1)

/-- Starts a block at a column, in front of all but the first so many
tokens, unless one stands there already. -/
def openBlock (l : Layout) (column before : Nat) (t : Token) : Layout :=
  if l.inFlow || (column : Int) ≤ l.indent then l
  else { l.insertAt before t with indent := column, outer := l.indent :: l.outer }

/-- Starts a block here. -/
def openBlockHere (l : Layout) (t : Token) : Layout :=
  l.openBlock l.place.column l.tokens.length t

/-! ## Candidates for keys -/

/-- Forgets the candidate, which no key can start at any more. -/
def dropCandidate (l : Layout) : Option Layout :=
  if l.candidate.any (·.required) then none else some { l with candidate := none }

/-- A key does not go over lines, and has at most 1024 characters. -/
def isStale (p : Place) (c : Candidate) : Bool :=
  c.line < p.line || c.index + 1024 < p.index

/-- Forgets the candidates that lie too far back. -/
def dropStale (l : Layout) : Option Layout :=
  let stale (c : Option Candidate) : Bool := c.any (isStale l.place)
  let fresh (c : Option Candidate) : Option Candidate := if stale c then none else c
  if (l.candidate :: l.brackets).any fun c => stale c && c.any (·.required) then none
  else some { l with candidate := fresh l.candidate, brackets := l.brackets.map fresh }

/-- Remembers that a key may start here. -/
def noteCandidate (l : Layout) : Option Layout :=
  if !l.keyAllowed then some l
  else
    let p := l.place
    let required := !l.inFlow && l.indent == p.column
    l.dropCandidate.map fun l =>
      { l with
        candidate := some
          { required, before := l.tokens.length, index := p.index, line := p.line,
            column := p.column } }

/-! ## Marks -/

/-- Takes a mark of so many characters. -/
def mark (l : Layout) (length : Nat) (t : Token) (keyAllowed : Bool) : Layout :=
  { l.push t with place := l.place.skip length, keyAllowed }

def documentMark (l : Layout) (t : Token) : Option Layout :=
  (l.unindent (-1)).dropCandidate.map fun l => l.mark 3 t false

def directive (l : Layout) : Option Layout := do
  let l ← (l.unindent (-1)).dropCandidate
  let (t, place) ← readDirective l.place
  return { l.push t with place, keyAllowed := false }

/-- A bracket opens, which may be the start of a key. -/
def openFlow (l : Layout) (t : Token) : Option Layout :=
  l.noteCandidate.map fun l =>
    { l.mark 1 t true with candidate := none, brackets := l.candidate :: l.brackets }

/-- A bracket closes. -/
def closeFlow (l : Layout) (t : Token) : Option Layout :=
  l.dropCandidate.map fun l =>
    { l.mark 1 t false with
      candidate := l.brackets.headD l.candidate, brackets := l.brackets.tail }

def flowEntry (l : Layout) : Option Layout :=
  l.dropCandidate.map fun l => l.mark 1 .flowEntry true

/-- A hyphen. -/
def blockEntry (l : Layout) : Option Layout :=
  if !l.inFlow && !l.keyAllowed then none
  else (l.openBlockHere .blockSequence).dropCandidate.map fun l => l.mark 1 .blockEntry true

/-- A question mark. -/
def explicitKey (l : Layout) : Option Layout :=
  if !l.inFlow && !l.keyAllowed then none
  else (l.openBlockHere .blockMapping).dropCandidate.map fun l => l.mark 1 .key !l.inFlow

/-- A colon: what stands behind the candidate is a key, if there is one. -/
def value (l : Layout) : Option Layout :=
  match l.candidate with
  | some c =>
    let keyed := (l.insertAt c.before .key).openBlock c.column c.before .blockMapping
    some { keyed.mark 1 .value false with candidate := none }
  | none =>
    if !l.inFlow && !l.keyAllowed then none
    else some ((l.openBlockHere .blockMapping).mark 1 .value !l.inFlow)

/-! ## Names and scalars -/

/-- Takes what a reader finds here, which may be the start of a key. -/
def take (l : Layout) (read : Place → Option (Token × Place)) : Option Layout := do
  let l ← l.noteCandidate
  let (t, place) ← read l.place
  return { l.push t with place, keyAllowed := false }

def name (token : String → Token) (p : Place) : Option (Token × Place) :=
  (readName p.next).map fun (n, q) => (token n, q)

def quoted (quote : Char) (p : Place) : Option (Token × Place) :=
  (readQuoted quote [] p.next (p.rest.length + 1)).map fun (text, q) =>
    (.scalar (String.ofList text) .quoted, q)

def plain (l : Layout) : Option Layout := do
  let l ← l.noteCandidate
  let s ← readPlain l.inFlow (l.indent + 1) [] {} l.place (l.place.rest.length + 1)
  let t : Token := .scalar (String.ofList s.text) .plain
  return { l.push t with place := s.place, keyAllowed := s.broken }

def block (l : Layout) (style : Style) : Option Layout := do
  let l ← l.dropCandidate
  let (text, place) ← readBlock (style == .literal) l.indent l.place.next
  return { l.push (.scalar (String.ofList text) style) with place, keyAllowed := true }

/-! ## The whole text -/

/-- Skips what stands between two tokens: blanks, comments and line ends.
A tab counts as a blank only where no key may start.  At the start of a
line a byte order mark is skipped too. -/
def skipToToken (l : Layout) : Nat → Layout
  | 0 => l
  | fuel + 1 =>
    let p := l.place
    let p := if p.column == 0 && p.startsWith '\ufeff' then p.next else p
    let p := p.skipWhile fun c => c == ' ' || (c == '\t' && (l.inFlow || !l.keyAllowed))
    let p := p.skipComment
    match p.break? with
    | some (_, place) =>
      { l with place, keyAllowed := l.keyAllowed || !l.inFlow }.skipToToken fuel
    | none => { l with place := p }

/-- May a plain scalar start with these characters? -/
def startsPlain (inFlow : Bool) (c : Char) (rest : List Char) : Bool :=
  !(isGap c || isBreak c || "-?:,[]\x7b\x7d#&*!|>'\"%@\x60".toList.contains c) ||
    (c == '-' && !rest.head?.any isGap) ||
    (!inFlow && (c == '?' || c == ':') && !isClear rest)

/-- Reads the token that starts with a character. -/
def readAt (l : Layout) (c : Char) (rest : List Char) : Option Layout :=
  let p := l.place
  let inFlow := l.inFlow
  if p.column == 0 && c == '%' then l.directive
  else if p.isDocumentMark then
    l.documentMark (if c == '-' then .documentStart else .documentEnd)
  else if c == '[' then l.openFlow .flowSequence
  else if c == '\x7b' then l.openFlow .flowMapping
  else if c == ']' then l.closeFlow .flowSequenceEnd
  else if c == '\x7d' then l.closeFlow .flowMappingEnd
  else if c == ',' then l.flowEntry
  else if c == '-' && isClear rest then l.blockEntry
  else if c == '?' && (inFlow || isClear rest) then l.explicitKey
  else if c == ':' && (inFlow || isClear rest) then l.value
  else if c == '*' then l.take (name .reference)
  else if c == '&' then l.take (name .anchor)
  else if c == '!' then l.take (readTag inFlow)
  else if c == '|' && !inFlow then l.block .literal
  else if c == '>' && !inFlow then l.block .folded
  else if c == '\'' || c == '"' then l.take (quoted c)
  else if startsPlain inFlow c rest then l.plain
  else none

/-- Reads tokens up to the end of the text, where every block ends. -/
def readAll (l : Layout) : Nat → Option (List Token)
  | 0 => none
  | fuel + 1 => do
    let l ← (l.skipToToken (l.place.rest.length + 1)).dropStale
    let l := l.unindent l.place.column
    match l.place.rest with
    | [] => (l.unindent (-1)).dropCandidate.map fun l => l.tokens.reverse
    | c :: rest => (l.readAt c rest).bind fun l => l.readAll fuel

end Layout

/-- The tokens of a YAML text. -/
def tokens? (text : String) : Option (List Token) :=
  let chars := text.toList
  if chars.all isAllowed then
    ({ place := { rest := chars } } : Layout).readAll (chars.length + 1)
  else none

end PipelineScript.Yaml
