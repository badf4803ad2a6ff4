/-
# Files

What the library needs of a file system: to read a text and to write
bytes.  A failure says why in the words of the system.
-/

namespace PipelineScript

/-- Why a file was not read or written. -/
inductive FileError where
  /-- The system's reason and its number. -/
  | system (reason : String) (code : Nat)
  /-- What the file holds is no text. -/
  | noText
deriving Repr, DecidableEq

namespace FileError

def missing : FileError := system "No such file or directory" 2
def notFolder : FileError := system "Not a directory" 20
def isFolder : FileError := system "Is a directory" 21
def longName : FileError := system "File name too long" 36

def message : FileError → String
  | system reason code => reason ++ " (os error " ++ toString code ++ ")"
  | noText => "stream did not contain valid UTF-8"

end FileError

/-- Access to files by their paths. -/
structure Files (m : Type → Type) where
  read : String → m (Except FileError String)
  write : String → List UInt8 → m (Except FileError Unit)

/-- The bytes of a text. -/
def bytesOfText (s : String) : List UInt8 :=
  s.toUTF8.toList

/-- The text that bytes write. -/
def textOfBytes? (bs : List UInt8) : Option String :=
  String.fromUTF8? ⟨bs.toArray⟩

/-- How many bytes the character behind a first byte has, and which second
bytes it may have. -/
def byteForm (first : UInt8) : Nat × UInt8 × UInt8 :=
  if first < 0x80 then (1, 0, 0)
  else if first < 0xC2 then (0, 0, 0)
  else if first < 0xE0 then (2, 0x80, 0xBF)
  else if first < 0xF0 then
    (3, if first = 0xE0 then 0xA0 else 0x80, if first = 0xED then 0x9F else 0xBF)
  else if first < 0xF5 then
    (4, if first = 0xF0 then 0x90 else 0x80, if first = 0xF4 then 0x8F else 0xBF)
  else (0, 0, 0)

/-- How many of the bytes at the front belong to one character, and whether
that is all of it. -/
def frontBytes : List UInt8 → Nat × Bool
  | [] => (0, true)
  | first :: rest =>
    let (length, low, high) := byteForm first
    match rest with
    | second :: others =>
      if length < 2 then (1, length = 1)
      else if second < low || high < second then (1, false)
      else
        let more := ((others.take (length - 2)).takeWhile fun b => 0x80 ≤ b && b ≤ 0xBF).length
        (2 + more, more + 2 = length)
    | [] => (1, length = 1)

/-- The text that bytes write, at most so many characters of it.  A sign
stands for bytes that write none. -/
def legibleChars : Nat → List UInt8 → List Char
  | 0, _ => []
  | n + 1, bytes =>
    if bytes.isEmpty then []
    else
      let (length, isWhole) := frontBytes bytes
      let front := if isWhole then textOfBytes? (bytes.take length) else none
      (front.getD "\uFFFD").toList ++ legibleChars n (bytes.drop length)

/-- The text that bytes write as far as they write one. -/
def legibleText (bytes : List UInt8) : String :=
  (textOfBytes? bytes).getD (String.ofList (legibleChars bytes.length bytes))

end PipelineScript
