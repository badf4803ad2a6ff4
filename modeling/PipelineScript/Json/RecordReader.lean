/-
# Reading typed values from a text

A record is read straight from the text, entry by entry, so that a fault
has a position and the faults of a text come in its order: a broken token
and a value that does not fit are told apart by which comes first.  Entries
that are no field of the record are skipped.
-/
import PipelineScript.Json.Reader

namespace PipelineScript.Json

open Reader

variable {α σ : Type}

/-- Fails where the cursor stands because a value does not fit. -/
def mismatchHere (cause : Mismatch) : Reader α :=
  failHere (.mismatch cause)

/-- Fails over the value that comes next.  What can be named is read first;
lists and objects are not entered. -/
def unexpected (expected : String) : Reader α := do
  let found : Json ← match ← peek with
    | some 'n' => nullWord *> pure .null
    | some 't' => trueWord *> pure (.bool true)
    | some 'f' => falseWord *> pure (.bool false)
    | some '"' => .str <$> quotedText .keep
    | some '[' => pure (.arr [])
    | some '\x7b' => pure (.obj [])
    | some c => if c = '-' || c.isDigit then number else failNext .expectedValue
    | none => failNext .expectedValue
  mismatchHere (.invalidType found expected)

/-- A text. -/
def text : Reader String := do
  match ← peekToken with
  | none => failHere .eofInValue
  | some '"' => quotedText .keep
  | some _ => unexpected "a string"

/-- Null for none. -/
def optional (r : Reader α) : Reader (Option α) := do
  match ← peekToken with
  | some 'n' => nullWord *> pure none
  | _ => some <$> r

/-- The items of a list up to the closing bracket. -/
def typedItems (r : Reader α) : (steps : Nat) → (first : Bool) → Reader (List α)
  | 0, _ => failHere .eofInList
  | steps + 1, first => do
    if ← anotherItem first then
      let a ← r
      let rest ← typedItems r steps false
      return a :: rest
    else return []

/-- A list. -/
def list (r : Reader α) : Reader (List α) := do
  match ← peekToken with
  | none => failHere .eofInValue
  | some '[' =>
    openLevel
    let as ← typedItems r ((← remaining) + 1) true
    closeLevel
    return as
  | some _ => unexpected "a sequence"

/-- A field of a record whose fields are collected in a `σ`. -/
structure Slot (σ : Type) where
  name : String
  aliases : List String := []
  /-- Has the field been read? -/
  filled : σ → Bool
  /-- Reads the value of the field. -/
  read : σ → Reader σ
  /-- May a list end before the field? -/
  optionalItem : Bool := true

/-- Closes a level over a fault in its last entry: blanks and a closing
bracket behind it are read before the fault is reported. -/
def faultAtClose (close : Char) (cause : Mismatch) : Reader α := do
  if (← peekToken) == some close then advance
  mismatchHere cause

/-- The fields of a record, from the items of a list, as far as it goes. -/
def slotItems (expected : String) (fields : Nat) :
    (position : Nat) → List (Slot σ) → σ → Reader σ
  | _, [], st => pure st
  | position, slot :: rest, st => do
    if ← anotherItem (position == 0) then
      let st ← slot.read st
      slotItems expected fields (position + 1) rest st
    else if slot.optionalItem then slotItems expected fields (position + 1) rest st
    else
      faultAtClose ']'
        (.invalidLength position (expected ++ " with " ++ elements fields))

/-- The end of a list whose items are fields. -/
def closeItems : Reader Unit := do
  match ← peekToken with
  | none => failHere .eofInList
  | some ']' => closeLevel
  | some ',' =>
    advance
    if (← peekToken) == some ']' then failNext .trailingComma else failNext .trailingCharacters
  | some _ => failNext .trailingCharacters

/-- The fields of a record, from the entries of an object up to the closing
brace. -/
def slotEntries (slots : List (Slot σ)) : (steps : Nat) → (first : Bool) → σ → Reader σ
  | 0, _, _ => failHere .eofInObject
  | steps + 1, first, st => do
    if ← anotherEntry first then
      let key ← quotedText .keep
      match slots.find? fun s => s.name == key || s.aliases.contains key with
      | none =>
        colon
        skipValue
        slotEntries slots steps false st
      | some slot =>
        if slot.filled st then
          faultAtClose '\x7d' (.duplicateField slot.name)
        else
          colon
          let st ← slot.read st
          slotEntries slots steps false st
    else return st

/-- A record, from an object or from the list of its fields.  `finish`
completes what was read of an object, or names a field that is missing. -/
def record (expected : String) (slots : List (Slot σ)) (start : σ)
    (finish : σ → Except Mismatch α) : Reader α := do
  match ← peekToken with
  | none => failHere .eofInValue
  | some '[' =>
    openLevel
    let st ← slotItems expected slots.length 0 slots start
    closeItems
    match finish st with
    | .ok a => return a
    | .error cause => mismatchHere cause
  | some '\x7b' =>
    openLevel
    let st ← slotEntries slots ((← remaining) + 1) true start
    closeLevel
    match finish st with
    | .ok a => return a
    | .error cause => mismatchHere cause
  | some _ => unexpected expected

end PipelineScript.Json
