/-
# YAML scalars

The text of a scalar, in each of the ways to write one: plain, between
single or double quotes, or as a block of lines that are kept or folded.
Where a scalar goes over lines a single line break counts as a space, and
of several the first is dropped.
-/
import PipelineScript.Text.Hex
import PipelineScript.Yaml.Place

namespace PipelineScript.Yaml

/-- How a scalar is written. -/
inductive Style where
  | plain
  | quoted
  | literal
  | folded
deriving Repr, DecidableEq

/-- What stands between two words of a scalar. -/
structure Break where
  /-- The blanks, as long as the line is not at its end. -/
  blanks : List Char := []
  /-- Has a line ended? -/
  broken : Bool := false
  /-- The first line break; nothing when it was escaped. -/
  first : List Char := []
  /-- The line breaks behind it. -/
  more : List Char := []

namespace Break

/-- What a break adds to the text. -/
def text (b : Break) : List Char :=
  if b.broken then
    if b.first == ['\n'] then (if b.more.isEmpty then [' '] else b.more)
    else b.first ++ b.more
  else b.blanks

/-- Reads blanks and line breaks.  With an indentation, no tab may stand
before it on a new line. -/
def read (indent : Option Int) (fuel : Nat) (b : Break) (p : Place) : Option (Break × Place) :=
  match fuel with
  | 0 => some (b, p)
  | fuel + 1 =>
    match p.break? with
    | some (c, q) =>
      if b.broken then read indent fuel { b with more := b.more ++ [c] } q
      else read indent fuel { b with blanks := [], broken := true, first := [c] } q
    | none =>
      match p.head? with
      | some c =>
        if isGap c then
          if b.broken then
            if c == '\t' && indent.any (fun n => (p.column : Int) < n) then none
            else read indent fuel b p.next
          else read indent fuel { b with blanks := b.blanks ++ [c] } p.next
        else some (b, p)
      | none => some (b, p)

end Break

/-! ## Plain scalars -/

/-- Is this a bracket, a brace or a comma, that is, one of the marks of a
collection on one line? -/
def isFlowMark (c : Char) : Bool :=
  c == ',' || c == '[' || c == ']' || c == '\x7b' || c == '\x7d'

/-- Reads a word of a plain scalar: up to a blank, the end of the line or a
colon in front of one of these, and inside brackets up to a flow mark.
There no colon may stand in front of such a mark. -/
def plainWord (inFlow : Bool) (word : List Char) (p : Place) : Nat → Option (List Char × Place)
  | 0 => some (word, p)
  | fuel + 1 =>
    match p.rest with
    | [] => some (word, p)
    | c :: rest =>
      if isGap c || isBreak c then some (word, p)
      else if c == ':' && inFlow && rest.head?.any (fun d => isFlowMark d || d == '?') then none
      else if (c == ':' && isClear rest) || (inFlow && isFlowMark c) then some (word, p)
      else plainWord inFlow (word ++ [c]) p.next fuel

/-- A plain scalar, and whether its last line has come to an end. -/
structure Plain where
  text : List Char
  broken : Bool
  place : Place

/-- Reads a plain scalar whose lines must be indented so far. -/
def readPlain (inFlow : Bool) (indent : Int) (text : List Char) (gap : Break) (p : Place) :
    Nat → Option Plain
  | 0 => some ⟨text, gap.broken, p⟩
  | fuel + 1 =>
    if p.isDocumentMark || p.startsWith '#' then some ⟨text, gap.broken, p⟩
    else do
      let (word, q) ← plainWord inFlow [] p p.rest.length
      if word.isEmpty then return ⟨text, gap.broken, q⟩
      let text := text ++ gap.text ++ word
      if q.rest.isEmpty || !isClear q.rest then return ⟨text, false, q⟩
      let (gap, r) ← Break.read (some indent) q.rest.length {} q
      if !inFlow && r.column < indent then return ⟨text, gap.broken, r⟩
      readPlain inFlow indent text gap r fuel

/-! ## Quoted scalars -/

/-- The characters that stand for another one behind a backslash. -/
def escapes : List (Char × Char) :=
  [('0', '\x00'), ('a', '\x07'), ('b', '\x08'), ('t', '\t'), ('\t', '\t'), ('n', '\n'),
    ('v', '\x0b'), ('f', '\x0c'), ('r', '\r'), ('e', '\x1b'), (' ', ' '), ('"', '"'),
    ('/', '/'), ('\\', '\\'), ('N', '\u0085'), ('_', '\u00a0'), ('L', '\u2028'),
    ('P', '\u2029')]

/-- How many digits of base sixteen stand behind the letter of a numeric
escape. -/
def escapeWidth? : Char → Option Nat
  | 'x' => some 2
  | 'u' => some 4
  | 'U' => some 8
  | _ => none

/-- The number that so many digits of base sixteen at the start of a list
write. -/
def hexNumber? (value : Nat) : Nat → List Char → Option Nat
  | 0, _ => some value
  | n + 1, c :: rest => (Text.hexValue? c).bind fun d => hexNumber? (value * 16 + d) n rest
  | _ + 1, [] => none

/-- The character with a number, when there is one. -/
def charOfNumber? (n : Nat) : Option Char :=
  if n.isValidChar then some (Char.ofNat n) else none

/-- The character that an escape stands for, and how many characters are
behind the backslash. -/
def escape? : List Char → Option (Char × Nat)
  | [] => none
  | c :: rest =>
    match escapeWidth? c with
    | some width =>
      (hexNumber? 0 width rest).bind fun n => (charOfNumber? n).map fun x => (x, width + 1)
    | none => (escapes.lookup c).map fun x => (x, 1)

/-- Reads a word of a quoted scalar, up to a blank, the end of the line or
the closing quote.  The flag says that it ended with an escaped line
break. -/
def quotedWord (quote : Char) (word : List Char) (p : Place) :
    Nat → Option (List Char × Bool × Place)
  | 0 => some (word, false, p)
  | fuel + 1 =>
    match p.rest with
    | [] => some (word, false, p)
    | c :: rest =>
      if isGap c || isBreak c then some (word, false, p)
      else if c == quote then
        if quote == '\'' && rest.head? == some quote then
          quotedWord quote (word ++ [quote]) (p.skip 2) fuel
        else some (word, false, p)
      else if c == '\\' && quote == '"' then
        match p.next.break? with
        | some (_, q) => some (word, true, q)
        | none => (escape? rest).bind fun (x, n) =>
          quotedWord quote (word ++ [x]) (p.skip (n + 1)) fuel
      else quotedWord quote (word ++ [c]) p.next fuel

/-- Reads a quoted scalar from behind its opening quote. -/
def readQuoted (quote : Char) (text : List Char) (p : Place) : Nat → Option (List Char × Place)
  | 0 => none
  | fuel + 1 =>
    if p.isDocumentMark || p.rest.isEmpty then none
    else do
      let (word, escaped, q) ← quotedWord quote [] p p.rest.length
      let text := text ++ word
      if q.startsWith quote then return (text, q.next)
      let (gap, r) ← Break.read none q.rest.length { broken := escaped } q
      readQuoted quote (text ++ gap.text) r fuel

/-! ## Block scalars -/

/-- What becomes of the line breaks at the end of a block. -/
inductive Chomping where
  | clip
  | strip
  | keep
deriving Repr, DecidableEq

/-- What stands behind the mark of a block scalar. -/
structure BlockHeader where
  chomping : Chomping := .clip
  /-- How much further than its parent the block is indented. -/
  increment : Option Nat := none

def chomping? : Char → Option Chomping
  | '+' => some .keep
  | '-' => some .strip
  | _ => none

/-- Reads the header of a block, whose two signs stand in either order. -/
def BlockHeader.read (h : BlockHeader) (p : Place) : Nat → Option (BlockHeader × Place)
  | 0 => some (h, p)
  | n + 1 =>
    match p.head? with
    | none => some (h, p)
    | some c =>
      match chomping? c, h.chomping with
      | some chomping, .clip => read { h with chomping } p.next n
      | _, _ =>
        if c.isDigit && h.increment.isNone then
          if c == '0' then none
          else read { h with increment := some (c.toNat - '0'.toNat) } p.next n
        else some (h, p)

/-- Reads the blank lines before a line of a block: the line breaks, the
deepest column met, and the place behind the indentation.  Without an
indentation every space belongs to it. -/
def blockBreaks (indent : Option Nat) (breaks : List Char) (deepest : Nat) (p : Place) :
    Nat → Option (List Char × Nat × Place)
  | 0 => some (breaks, deepest, p)
  | fuel + 1 =>
    let isIndentation (p : Place) : Bool := indent.all (p.column < ·)
    let spaces := (p.rest.takeWhile (· == ' ')).length
    let q := p.skip (match indent with | some n => min spaces (n - p.column) | none => spaces)
    let deepest := max deepest q.column
    if isIndentation q && q.startsWith '\t' then none
    else
      match q.break? with
      | some (c, r) => blockBreaks indent (breaks ++ [c]) deepest r fuel
      | none => some (breaks, deepest, q)

/-- The text of a block so far. -/
structure Block where
  text : List Char := []
  /-- The break behind the last line. -/
  last : List Char := []
  /-- The breaks of the blank lines behind it. -/
  breaks : List Char := []
  /-- Did the last line start with a blank? -/
  indented : Bool := false

/-- Adds a line to a block.  When lines are folded, the break between two
lines that start with no blank counts as a space, and as nothing next to
blank lines. -/
def Block.addLine (literal : Bool) (b : Block) (line : List Char) : Block :=
  let indented := line.head?.any isGap
  let joint :=
    if !literal && b.last == ['\n'] && !b.indented && !indented then
      if b.breaks.isEmpty then [' '] else []
    else b.last
  { text := b.text ++ joint ++ b.breaks ++ line, indented }

/-- Reads the lines of a block that are indented so far. -/
def readLines (literal : Bool) (indent : Nat) (b : Block) (p : Place) :
    Nat → Option (Block × Place)
  | 0 => some (b, p)
  | fuel + 1 =>
    if p.column != indent || p.rest.isEmpty then some (b, p)
    else do
      let line := p.rest.takeWhile fun c => !isBreak c
      let b := b.addLine literal line
      let q := p.skip line.length
      let (last, r) := match q.break? with
        | some (c, r) => ([c], r)
        | none => ([], q)
      let (breaks, _, r) ← blockBreaks (some indent) [] 0 r (r.rest.length + 1)
      readLines literal indent { b with last, breaks } r fuel

/-- The text of a block whose end is treated in the given way. -/
def Block.finish (b : Block) : Chomping → List Char
  | .strip => b.text
  | .clip => b.text ++ b.last
  | .keep => b.text ++ b.last ++ b.breaks

/-- Reads a block scalar from behind its mark, inside a parent that is
indented so far. -/
def readBlock (literal : Bool) (parent : Int) (p : Place) : Option (List Char × Place) := do
  let (header, p) ← BlockHeader.read {} p 2
  let p := (p.skipWhile isGap).skipComment
  if !(p.rest.head?.all isBreak) then none
  let p := match p.break? with
    | some (_, q) => q
    | none => p
  let given := header.increment.map fun n => if 0 ≤ parent then parent.toNat + n else n
  let (breaks, deepest, p) ← blockBreaks given [] 0 p (p.rest.length + 1)
  let indent := given.getD (max (max deepest (parent + 1).toNat) 1)
  let (block, p) ← readLines literal indent { breaks } p p.rest.length
  return (block.finish header.chomping, p)

end PipelineScript.Yaml
