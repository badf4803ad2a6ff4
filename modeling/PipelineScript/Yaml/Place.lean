/-
# Places in a YAML text

A place knows what is left of the text and where that starts: how many
bytes of the text in UTF-8 lie before it, on which line it is and how many
characters of that line lie before it.  The layout of a YAML text is read off
these numbers.
-/

namespace PipelineScript.Yaml

/-- Is this one of the characters that a YAML text may hold? -/
def isAllowed (c : Char) : Bool :=
  let n := c.val
  n == 0x09 || n == 0x0A || n == 0x0D || (0x20 ≤ n && n ≤ 0x7E) || n == 0x85 ||
    (0xA0 ≤ n && n ≤ 0xD7FF) || (0xE000 ≤ n && n ≤ 0xFFFD) || 0x10000 ≤ n

/-- Does this character end a line? -/
def isBreak (c : Char) : Bool :=
  c == '\n' || c == '\r' || c == '\u0085' || c == '\u2028' || c == '\u2029'

/-- Is this a space or a tab? -/
def isGap (c : Char) : Bool :=
  c == ' ' || c == '\t'

/-- Is this a letter, a digit, a hyphen or an underscore? -/
def isWordChar (c : Char) : Bool :=
  c.isAlphanum || c == '-' || c == '_'

/-- Does nothing stand here that belongs to a word: a space, a tab, the end
of the line or of the text? -/
def isClear : List Char → Bool
  | [] => true
  | c :: _ => isGap c || isBreak c

structure Place where
  rest : List Char
  /-- How many bytes lie before this place. -/
  index : Nat := 0
  line : Nat := 0
  /-- How many characters of the line lie before this place. -/
  column : Nat := 0
deriving Repr

namespace Place

def head? (p : Place) : Option Char :=
  p.rest.head?

/-- Does the text go on with this character? -/
def startsWith (p : Place) (c : Char) : Bool :=
  p.head? == some c

/-- The place behind the next character, which ends no line. -/
def next (p : Place) : Place :=
  { p with
    rest := p.rest.tail
    index := p.index + (p.head?.elim 1 Char.utf8Size)
    column := p.column + 1 }

/-- The place so many characters on. -/
def skip (p : Place) : Nat → Place
  | 0 => p
  | n + 1 => p.next.skip n

/-- The place behind the characters with a property. -/
def skipWhile (p : Place) (test : Char → Bool) : Place :=
  p.skip (p.rest.takeWhile test).length

/-- The line break that stands here and the place behind it.  A carriage
return, a line feed, both in this order, and a next line character are the
same break; the two separators of Unicode stand for themselves. -/
def break? (p : Place) : Option (Char × Place) :=
  let behind (n : Nat) (rest : List Char) : Place :=
    { rest, index := p.index + n, line := p.line + 1, column := 0 }
  match p.rest with
  | '\r' :: '\n' :: rest => some ('\n', behind 2 rest)
  | c :: rest =>
    if c == '\u2028' || c == '\u2029' then some (c, behind c.utf8Size rest)
    else if isBreak c then some ('\n', behind c.utf8Size rest)
    else none
  | [] => none

/-- Does a line start here that marks the start or the end of a document? -/
def isDocumentMark (p : Place) : Bool :=
  p.column == 0 &&
    match p.rest with
    | '-' :: '-' :: '-' :: rest => isClear rest
    | '.' :: '.' :: '.' :: rest => isClear rest
    | _ => false

/-- The place at the end of the line, when a comment starts here. -/
def skipComment (p : Place) : Place :=
  if p.startsWith '#' then p.skipWhile fun c => !isBreak c else p

end Place

end PipelineScript.Yaml
