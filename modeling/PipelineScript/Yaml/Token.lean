/-
# YAML tokens

The marks, names and scalars of which a YAML text consists, and how names
are read: anchors, tags and the directives in front of a document.
-/
import PipelineScript.Yaml.Scalar

namespace PipelineScript.Yaml

inductive Token where
  /-- The version directive. -/
  | version (major minor : Nat)
  /-- The directive that gives a tag handle its meaning. -/
  | handle (name stem : String)
  | documentStart
  | documentEnd
  | blockSequence
  | blockMapping
  | blockEnd
  | flowSequence
  | flowSequenceEnd
  | flowMapping
  | flowMappingEnd
  /-- A hyphen. -/
  | blockEntry
  /-- A comma. -/
  | flowEntry
  /-- A question mark, or the start of what turned out to be a key. -/
  | key
  /-- A colon. -/
  | value
  | anchor (name : String)
  /-- A reference to an anchor. -/
  | reference (name : String)
  | tag (handle suffix : String)
  | scalar (text : String) (style : Style)
deriving Repr, DecidableEq

/-! ## Anchors -/

/-- May this character follow the name of an anchor? -/
def endsName : List Char → Bool
  | [] => true
  | c :: _ => isGap c || isBreak c || "?:,]\x7d%@\x60".toList.contains c

/-- Reads the name of an anchor or of a reference to one, from behind its
mark. -/
def readName (p : Place) : Option (String × Place) :=
  let name := p.rest.takeWhile isWordChar
  let q := p.skip name.length
  if name.isEmpty || !endsName q.rest then none else some (String.ofList name, q)

/-! ## Tags -/

/-- How many octets a character has in UTF-8, by its first one. -/
def octetCount? (octet : Nat) : Option Nat :=
  if octet < 0x80 then some 1
  else if octet < 0xC0 then none
  else if octet < 0xE0 then some 2
  else if octet < 0xF0 then some 3
  else if octet < 0xF8 then some 4
  else none

/-- The octet that a percent sign with two digits of base sixteen writes. -/
def percentOctet? : List Char → Option Nat
  | '%' :: rest => hexNumber? 0 2 rest
  | _ => none

/-- Reads so many octets that continue a character. -/
def continuation (octets : List Char) (p : Place) : Nat → Option (List Char × Place)
  | 0 => some (octets, p)
  | n + 1 =>
    (percentOctet? p.rest).bind fun octet =>
      if 0x80 ≤ octet && octet < 0xC0 then
        continuation (octets ++ [Char.ofNat octet]) (p.skip 3) n
      else none

/-- Reads a character written in percent signs, as its octets. -/
def percentChar (p : Place) : Option (List Char × Place) := do
  let octet ← percentOctet? p.rest
  let count ← octetCount? octet
  continuation [Char.ofNat octet] (p.skip 3) (count - 1)

/-- May this character stand in a tag?  Some may so only between angle
brackets. -/
def isTagChar (bracketed : Bool) (c : Char) : Bool :=
  isWordChar c || ";/?:@&=+$.%!~*'()".toList.contains c ||
    (bracketed && ",[]".toList.contains c)

/-- Reads the characters of a tag. -/
def tagChars (bracketed : Bool) (text : List Char) (p : Place) : Nat → Option (List Char × Place)
  | 0 => some (text, p)
  | fuel + 1 =>
    match p.head? with
    | none => some (text, p)
    | some c =>
      if !isTagChar bracketed c then some (text, p)
      else if c == '%' then
        (percentChar p).bind fun (octets, q) => tagChars bracketed (text ++ octets) q fuel
      else tagChars bracketed (text ++ [c]) p.next fuel

/-- Reads a tag handle: an exclamation mark, and a word that another one
ends.  The flag says whether it did. -/
def readHandle (p : Place) : Option (List Char × Bool × Place) :=
  if !p.startsWith '!' then none
  else
    let word := p.next.rest.takeWhile isWordChar
    let q := p.skip (word.length + 1)
    if q.startsWith '!' then some ('!' :: word ++ ['!'], true, q.next)
    else some ('!' :: word, false, q)

/-- Reads a tag between angle brackets, from its exclamation mark. -/
def readBracketedTag (p : Place) : Option (Token × Place) := do
  let (text, q) ← tagChars true [] (p.skip 2) p.rest.length
  if text.isEmpty || !q.startsWith '>' then none
  return (.tag "" (String.ofList text), q.next)

/-- Reads a tag with a handle, or with the handle that every tag has. -/
def readShortTag (p : Place) : Option (Token × Place) := do
  let (handle, closed, q) ← readHandle p
  if closed then
    let (suffix, r) ← tagChars false [] q q.rest.length
    if suffix.isEmpty then none
    return (.tag (String.ofList handle) (String.ofList suffix), r)
  else
    let (suffix, r) ← tagChars false handle.tail q q.rest.length
    if suffix.isEmpty then return (.tag "" "!", r)
    return (.tag "!" (String.ofList suffix), r)

/-- Reads a tag. -/
def readTag (inFlow : Bool) (p : Place) : Option (Token × Place) := do
  let (tag, q) ← if p.next.startsWith '<' then readBracketedTag p else readShortTag p
  if isClear q.rest || (inFlow && q.startsWith ',') then return (tag, q) else none

/-! ## Directives -/

/-- Reads a number of at most nine digits. -/
def readNumber (p : Place) : Option (Nat × Place) :=
  let digits := p.rest.takeWhile Char.isDigit
  if digits.isEmpty || 9 < digits.length then none
  else some (digits.foldl (fun n c => n * 10 + (c.toNat - '0'.toNat)) 0, p.skip digits.length)

/-- Reads the two numbers of a version. -/
def readVersion (p : Place) : Option (Token × Place) := do
  let (major, p) ← readNumber (p.skipWhile isGap)
  if !p.startsWith '.' then none
  let (minor, p) ← readNumber p.next
  return (.version major minor, p)

/-- Reads a handle and what it stands for. -/
def readHandleMeaning (p : Place) : Option (Token × Place) := do
  let (handle, closed, p) ← readHandle (p.skipWhile isGap)
  if !closed && handle != ['!'] then none
  if !p.head?.any isGap then none
  let p := p.skipWhile isGap
  let (stem, p) ← tagChars true [] p p.rest.length
  if stem.isEmpty || !isClear p.rest then none
  return (.handle (String.ofList handle) (String.ofList stem), p)

/-- Reads a directive, from its percent sign to the end of its line. -/
def readDirective (p : Place) : Option (Token × Place) := do
  let name := p.next.rest.takeWhile isWordChar
  let p := p.skip (name.length + 1)
  if !isClear p.rest then none
  let (directive, p) ← match String.ofList name with
    | "YAML" => readVersion p
    | "TAG" => readHandleMeaning p
    | _ => none
  let p := (p.skipWhile isGap).skipComment
  if p.rest.isEmpty then return (directive, p)
  let (_, p) ← p.break?
  return (directive, p)

end PipelineScript.Yaml
