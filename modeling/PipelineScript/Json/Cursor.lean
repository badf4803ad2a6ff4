/-
# Reading a text with positions

A cursor stands in a text and knows its line and how many bytes of the
line lie behind it.  A reader takes a cursor on, or fails with a cause and
a position: either where the cursor stands, or one byte further when the
fault is the next character.
-/
import PipelineScript.Json.Mismatch

namespace PipelineScript.Json

/-- Why a text is not the JSON that was asked for. -/
inductive ReadCause where
  | eofInValue
  | eofInObject
  | eofInList
  | eofInText
  | expectedValue
  | expectedWord
  | keyNotText
  | expectedColon
  | expectedObjectEnd
  | expectedListEnd
  | trailingComma
  | trailingCharacters
  | invalidNumber
  | numberOutOfRange
  | invalidEscape
  | brokenSurrogate
  | loneSurrogate
  | controlCharacter
  | tooDeep
  /-- The value does not fit the type that is read. -/
  | mismatch (cause : Mismatch)
deriving Repr

def ReadCause.message : ReadCause → String
  | eofInValue => "EOF while parsing a value"
  | eofInObject => "EOF while parsing an object"
  | eofInList => "EOF while parsing a list"
  | eofInText => "EOF while parsing a string"
  | expectedValue => "expected value"
  | expectedWord => "expected ident"
  | keyNotText => "key must be a string"
  | expectedColon => "expected \x60:\x60"
  | expectedObjectEnd => "expected \x60,\x60 or \x60\x7d\x60"
  | expectedListEnd => "expected \x60,\x60 or \x60]\x60"
  | trailingComma => "trailing comma"
  | trailingCharacters => "trailing characters"
  | invalidNumber => "invalid number"
  | numberOutOfRange => "number out of range"
  | invalidEscape => "invalid escape"
  | brokenSurrogate => "unexpected end of hex escape"
  | loneSurrogate => "lone leading surrogate in hex escape"
  | controlCharacter => "control character (\\u0000-\\u001F) found while parsing a string"
  | tooDeep => "recursion limit exceeded"
  | mismatch cause => cause.message

structure ReadError where
  cause : ReadCause
  line : Nat
  /-- How many bytes of the line have been read. -/
  column : Nat
deriving Repr

def ReadError.message (e : ReadError) : String :=
  e.cause.message ++ " at line " ++ toString e.line ++ " column " ++ toString e.column

/-- A place in a text. -/
structure Cursor where
  rest : List Char
  line : Nat := 1
  column : Nat := 0
  /-- One more than the number of lists and objects that may be opened. -/
  depthLeft : Nat := 128

/-- The position after so many more bytes, which may end within a
character. -/
def positionAfter (bytes line column : Nat) : List Char → Nat × Nat
  | [] => (line, column)
  | c :: rest =>
    if bytes = 0 then (line, column)
    else if c = '\n' then positionAfter (bytes - 1) (line + 1) 0 rest
    else positionAfter (bytes - c.utf8Size) line (column + min bytes c.utf8Size) rest

namespace Cursor

/-- The cursor behind the next character. -/
def next (c : Cursor) : Cursor :=
  match c.rest with
  | [] => c
  | '\n' :: rest => { c with rest, line := c.line + 1, column := 0 }
  | x :: rest => { c with rest, column := c.column + x.utf8Size }

/-- The error after so many more bytes. -/
def errorAfter (c : Cursor) (bytes : Nat) (cause : ReadCause) : ReadError :=
  let (line, column) := positionAfter bytes c.line c.column c.rest
  ⟨cause, line, column⟩

/-- Is this one of the four blanks that may stand between tokens? -/
def isBlank (x : Char) : Bool :=
  x == ' ' || x == '\n' || x == '\t' || x == '\r'

/-- The cursor behind the blanks at which it stands. -/
def skipBlanks (c : Cursor) : Cursor :=
  go c c.rest
where
  go (c : Cursor) : List Char → Cursor
    | [] => c
    | x :: rest => if isBlank x then go c.next rest else c

end Cursor

/-- Reads something and moves the cursor. -/
abbrev Reader (α : Type) := StateT Cursor (Except ReadError) α

namespace Reader

variable {α : Type}

/-- Fails where the cursor stands. -/
def failHere (cause : ReadCause) : Reader α :=
  fun c => .error (c.errorAfter 0 cause)

/-- Fails at the next character. -/
def failNext (cause : ReadCause) : Reader α :=
  fun c => .error (c.errorAfter 1 cause)

/-- Fails after so many bytes. -/
def failAfter (bytes : Nat) (cause : ReadCause) : Reader α :=
  fun c => .error (c.errorAfter bytes cause)

/-- The next character. -/
def peek : Reader (Option Char) :=
  fun c => .ok (c.rest.head?, c)

/-- The next character behind blanks. -/
def peekToken : Reader (Option Char) :=
  fun c => let c := c.skipBlanks; .ok (c.rest.head?, c)

/-- Moves behind the next character. -/
def advance : Reader Unit :=
  fun c => .ok ((), c.next)

/-- How many characters are left. -/
def remaining : Reader Nat :=
  fun c => .ok (c.rest.length, c)

/-- Reads the digits at which the cursor stands. -/
def digits : Reader (List Nat) :=
  fun c =>
    let ds := c.rest.takeWhile Char.isDigit
    .ok (ds.map fun d => d.toNat - '0'.toNat,
      { c with rest := c.rest.drop ds.length, column := c.column + ds.length })

/-- Opens a list or an object, unless that is one level too deep. -/
def openLevel : Reader Unit := do
  let c ← get
  if c.depthLeft ≤ 1 then failNext .tooDeep
  set { c.next with depthLeft := c.depthLeft - 1 }

/-- Moves behind the bracket that closes the level. -/
def closeLevel : Reader Unit :=
  fun c => .ok ((), { c.next with depthLeft := c.depthLeft + 1 })

/-- Reads the rest of a word. -/
def word : List Char → Reader Unit
  | [] => pure ()
  | x :: rest => do
    match ← peek with
    | none => failHere .eofInValue
    | some y => if y = x then advance *> word rest else failNext .expectedWord

end Reader

end PipelineScript.Json
