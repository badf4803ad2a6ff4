/-
# Reading JSON text

Values are read as they stand: the entries of an object in the order of
the text, repeated keys included.  `parse` puts them into canonical form
afterwards.  A value that nobody wants is skipped by a laxer reader, which
checks tokens and punctuation but neither depth, nor range, nor surrogate
pairs.
-/
import PipelineScript.Json.Cursor
import PipelineScript.Text.Hex

namespace PipelineScript.Json

open Reader

/-- Is a text or a number read for its value, or only passed over? -/
inductive Purpose where
  | keep
  | skip
deriving Repr, DecidableEq

/-! ## Numbers -/

/-- The greatest integer. -/
def greatestInteger : Nat := 18446744073709551615

/-- Digits appended to a significand of 64 bits as long as they fit, and
how many were left off because they did not.  After the first that does
not fit, none is taken any more. -/
def takeDigits (significand : Nat) : List Nat → Nat × Nat
  | [] => (significand, 0)
  | d :: rest =>
    if significand * 10 + d ≤ greatestInteger then takeDigits (significand * 10 + d) rest
    else (significand, rest.length + 1)

/-- The greatest exponent that is looked at. -/
def greatestExponent : Nat := 2147483647

/-- The value of the digits of an exponent; when it grows too large, the
number of digits up to that point. -/
def exponentValue (value read : Nat) : List Nat → Except Nat Nat
  | [] => .ok value
  | d :: rest =>
    if value * 10 + d ≤ greatestExponent then exponentValue (value * 10 + d) (read + 1) rest
    else .error (read + 1)

/-- A double from its decimal parts. -/
def scaled (negative : Bool) (significand : Nat) (places : Int) : Reader Json :=
  match Number.Magnitude.ofDecimal significand places with
  | some size => pure (.real ⟨negative, size⟩)
  | none => failHere .numberOutOfRange

/-- The exponent of a number, from its mark on. -/
def exponentPart (negative : Bool) (significand : Nat) (places : Int) : Reader Json := do
  advance
  let sign ← peek
  if sign == some '+' || sign == some '-' then advance
  match ← peek with
  | none => failHere .eofInValue
  | some c =>
    if !c.isDigit then failNext .invalidNumber
    let start ← get
    let ds ← digits
    match exponentValue 0 0 ds with
    | .ok e => scaled negative significand (if sign == some '-' then places - e else places + e)
    | .error read =>
      if significand != 0 && sign != some '-' then
        throw (start.errorAfter read .numberOutOfRange)
      else pure (.real (.zero negative))

/-- What may follow the digits of a double. -/
def afterDigits (negative : Bool) (significand : Nat) (places : Int) : Reader Json := do
  let mark ← peek
  if mark == some 'e' || mark == some 'E' then exponentPart negative significand places
  else scaled negative significand places

/-- The fraction of a number, from its point on.  The digits before it were
`significand · 10^places`. -/
def fractionPart (negative : Bool) (significand : Nat) (places : Int) : Reader Json := do
  advance
  let ds ← digits
  if ds.isEmpty then
    match ← peek with
    | none => failHere .eofInValue
    | some _ => failNext .invalidNumber
  let (longer, off) := takeDigits significand ds
  afterDigits negative longer (places - (ds.length - off : Nat))

/-- An integer, unless it is too large or minus zero. -/
def integer (negative : Bool) (n : Nat) : Reader Json :=
  if !negative then pure (.int n)
  else if n != 0 && n ≤ 9223372036854775808 then pure (.int (-n))
  else scaled true n 0

/-- A number whose sign has been read. -/
def unsignedNumber (negative : Bool) : Reader Json := do
  match ← peek with
  | none => failHere .eofInValue
  | some c => if !c.isDigit then failNext .invalidNumber
  let ds ← match ← peek with
    | some '0' => do
      advance
      if (← peek).any Char.isDigit then failNext .invalidNumber
      pure [0]
    | _ => digits
  let (significand, off) := takeDigits 0 ds
  match ← peek with
  | some '.' => fractionPart negative significand off
  | some 'e' | some 'E' => exponentPart negative significand off
  | _ => if off == 0 then integer negative significand else scaled negative significand off

/-- A number. -/
def number : Reader Json := do
  if (← peek) == some '-' then
    advance
    unsignedNumber true
  else unsignedNumber false

/-- Passes over a number.  The digits must stand where they belong; their
value does not matter. -/
def skipNumber : Reader Unit := do
  if (← peek) == some '-' then advance
  match ← peek with
  | some '0' =>
    advance
    if (← peek).any Char.isDigit then failNext .invalidNumber
  | some c => if c.isDigit then discard digits else failNext .invalidNumber
  | none => failHere .invalidNumber
  if (← peek) == some '.' then
    advance
    if (← digits).isEmpty then failNext .invalidNumber
  let mark ← peek
  if mark == some 'e' || mark == some 'E' then
    advance
    let sign ← peek
    if sign == some '+' || sign == some '-' then advance
    if (← digits).isEmpty then failNext .invalidNumber

/-! ## Texts -/

/-- How many bytes are left, as far as four. -/
def upToFourBytes (cs : List Char) : Nat :=
  min 4 (cs.foldl (fun n c => n + c.utf8Size) 0)

/-- The four digits of an escaped code unit. -/
def hexUnit : Reader Nat := do
  let c ← get
  let four := c.rest.take 4
  if upToFourBytes four < 4 then failAfter 4 .eofInText
  match four.mapM Text.hexValue? with
  | some ds =>
    set { c with rest := c.rest.drop 4, column := c.column + 4 }
    return ds.foldl (fun n d => n * 16 + d) 0
  | none => failAfter 4 .invalidEscape

/-- One given character, where a second escaped unit has to follow. -/
def surrogateMark (x : Char) : Reader Unit := do
  match ← peek with
  | none => failHere .eofInText
  | some c => if c = x then advance else failNext .brokenSurrogate

/-- The character of an escaped code unit, or of two when the first is a
leading surrogate. -/
def escapedUnit : Reader Char := do
  let n ← hexUnit
  if 0xDC00 ≤ n && n ≤ 0xDFFF then failHere .loneSurrogate
  if n < 0xD800 || 0xDBFF < n then return Char.ofNat n
  surrogateMark '\\'
  surrogateMark 'u'
  let m ← hexUnit
  if m < 0xDC00 || 0xDFFF < m then failHere .loneSurrogate
  return Char.ofNat (0x10000 + (n - 0xD800) * 0x400 + (m - 0xDC00))

/-- The character that an escape names, from behind the backslash. -/
def escaped (purpose : Purpose) : Reader Char := do
  match ← peek with
  | none => failHere .eofInText
  | some '"' => advance *> pure '"'
  | some '\\' => advance *> pure '\\'
  | some '/' => advance *> pure '/'
  | some 'b' => advance *> pure (Char.ofNat 0x08)
  | some 'f' => advance *> pure (Char.ofNat 0x0C)
  | some 'n' => advance *> pure '\n'
  | some 'r' => advance *> pure '\r'
  | some 't' => advance *> pure '\t'
  | some 'u' =>
    advance
    match purpose with
    | .keep => escapedUnit
    | .skip => hexUnit *> pure 'u'
  | some _ => failNext .invalidEscape

/-- The rest of a text up to its closing quote; `reversed` is what has been
read of it, and no more than `steps` characters and escapes are left. -/
def textRest (purpose : Purpose) : (steps : Nat) → (reversed : List Char) → Reader String
  | 0, _ => failHere .eofInText
  | steps + 1, reversed => do
    match ← peek with
    | none => failHere .eofInText
    | some '"' =>
      advance
      return String.ofList reversed.reverse
    | some '\\' =>
      advance
      let c ← escaped purpose
      textRest purpose steps (c :: reversed)
    | some c =>
      if c.val < 0x20 then
        match purpose with
        | .keep => failNext .controlCharacter
        | .skip => failHere .controlCharacter
      else
        advance
        textRest purpose steps (c :: reversed)

/-- A text, from its opening quote on. -/
def quotedText (purpose : Purpose) : Reader String := do
  advance
  textRest purpose ((← remaining) + 1) []

/-! ## Values -/

/-- Is there another item?  Answers at the start of the item, or at the
closing bracket. -/
def anotherItem (first : Bool) : Reader Bool := do
  match ← peekToken with
  | none => failHere .eofInList
  | some ']' => return false
  | some c =>
    if first then return true
    else if c = ',' then
      advance
      match ← peekToken with
      | none => failHere .eofInValue
      | some ']' => failNext .trailingComma
      | some _ => return true
    else failNext .expectedListEnd

/-- Is there another entry?  Answers at the quote of its key, or at the
closing brace. -/
def anotherEntry (first : Bool) : Reader Bool := do
  match ← peekToken with
  | none => failHere .eofInObject
  | some '\x7d' => return false
  | some c =>
    if first then
      if c = '"' then return true else failNext .keyNotText
    else if c = ',' then
      advance
      match ← peekToken with
      | none => failHere .eofInValue
      | some '"' => return true
      | some '\x7d' => failNext .trailingComma
      | some _ => failNext .keyNotText
    else failNext .expectedObjectEnd

/-- Moves behind the colon between key and value. -/
def colon : Reader Unit := do
  match ← peekToken with
  | none => failHere .eofInObject
  | some ':' => advance
  | some _ => failNext .expectedColon

/-- The word for null. -/
def nullWord : Reader Unit := advance *> word ['u', 'l', 'l']
/-- The word for true. -/
def trueWord : Reader Unit := advance *> word ['r', 'u', 'e']
/-- The word for false. -/
def falseWord : Reader Unit := advance *> word ['a', 'l', 's', 'e']

mutual

/-- A value.  Every two steps take at least one character. -/
def valueWithin : (steps : Nat) → Reader Json
  | 0 => failHere .eofInValue
  | steps + 1 => do
    match ← peekToken with
    | none => failHere .eofInValue
    | some 'n' => nullWord *> pure .null
    | some 't' => trueWord *> pure (.bool true)
    | some 'f' => falseWord *> pure (.bool false)
    | some '"' => return .str (← quotedText .keep)
    | some '[' =>
      openLevel
      let vs ← itemsWithin steps true
      closeLevel
      return .arr vs
    | some '\x7b' =>
      openLevel
      let es ← entriesWithin steps true
      closeLevel
      return .obj es
    | some c => if c = '-' || c.isDigit then number else failNext .expectedValue

/-- The items of a list up to the closing bracket. -/
def itemsWithin : (steps : Nat) → (first : Bool) → Reader (List Json)
  | 0, _ => failHere .eofInList
  | steps + 1, first => do
    if ← anotherItem first then
      let v ← valueWithin steps
      let rest ← itemsWithin steps false
      return v :: rest
    else return []

/-- The entries of an object up to the closing brace. -/
def entriesWithin : (steps : Nat) → (first : Bool) → Reader (List (String × Json))
  | 0, _ => failHere .eofInObject
  | steps + 1, first => do
    if ← anotherEntry first then
      let k ← quotedText .keep
      colon
      let v ← valueWithin steps
      let rest ← entriesWithin steps false
      return (k, v) :: rest
    else return []

end

/-- A value with its entries as they stand. -/
def valueAsWritten : Reader Json := do
  valueWithin (2 * (← remaining) + 2)

/-- A value in canonical form. -/
def value : Reader Json := do
  return (← valueAsWritten).canonical

mutual

/-- Passes over a value. -/
def skipWithin : (steps : Nat) → Reader Unit
  | 0 => failHere .eofInValue
  | steps + 1 => do
    match ← peekToken with
    | none => failHere .eofInValue
    | some 'n' => nullWord
    | some 't' => trueWord
    | some 'f' => falseWord
    | some '"' => discard (quotedText .skip)
    | some '[' => advance *> skipItems steps true
    | some '\x7b' => advance *> skipEntries steps true
    | some c => if c = '-' || c.isDigit then skipNumber else failNext .expectedValue

/-- Passes over the items of a list and the closing bracket. -/
def skipItems : (steps : Nat) → (first : Bool) → Reader Unit
  | 0, _ => failHere .eofInList
  | steps + 1, first => do
    match ← peekToken with
    | none => failHere .eofInList
    | some ']' => advance
    | some c =>
      if !first then
        if c = ',' then advance else failNext .expectedListEnd
      skipWithin steps
      skipItems steps false

/-- Passes over the entries of an object and the closing brace. -/
def skipEntries : (steps : Nat) → (first : Bool) → Reader Unit
  | 0, _ => failHere .eofInObject
  | steps + 1, first => do
    match ← peekToken with
    | none => failHere .eofInObject
    | some '\x7d' => advance
    | some c =>
      if !first then
        if c = ',' then advance else failNext .expectedObjectEnd
      match ← peekToken with
      | none => failHere .eofInObject
      | some '"' => discard (quotedText .skip)
      | some _ => failNext .keyNotText
      colon
      skipWithin steps
      skipEntries steps false

end

/-- Passes over a value. -/
def skipValue : Reader Unit := do
  skipWithin (2 * (← remaining) + 2)

/-- Nothing but blanks may be left. -/
def atEnd : Reader Unit := do
  if (← peekToken).isSome then failNext .trailingCharacters

/-- All of a text, by one reader. -/
def readText {α : Type} (r : Reader α) (text : String) : Except ReadError α :=
  ((do let a ← r; atEnd; return a : Reader α).run { rest := text.toList }).map Prod.fst

/-- The value that a text holds, as it is written. -/
def parseAsWritten (text : String) : Except ReadError Json :=
  readText valueAsWritten text

/-- The value that a text holds. -/
def parse (text : String) : Except ReadError Json :=
  readText value text

end PipelineScript.Json
