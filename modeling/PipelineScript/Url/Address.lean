/-
# Numeric addresses of hosts

An address of version four is a number of thirty-two bits.  It is read from
up to four numbers, each in base ten, eight or sixteen, of which the last
fills all octets that the others leave, and it is written as four octets.

An address of version six consists of eight groups of sixteen bits.  Two
colons stand once for any number of groups that are zero, and the last two
groups may be written as an address of version four.
-/
import PipelineScript.Text.Hex

namespace PipelineScript.Url

/-- The value of digits of a base. -/
def numberOf (base : Nat) (digits : List Char) : Nat :=
  digits.foldl (fun n c => n * base + (Text.hexValue? c).getD 0) 0

/-- The number that a part of an address writes.  The base is sixteen behind
`0x` and eight behind any other zero. -/
def addressNumber? (part : String) : Option Nat :=
  match part.toList with
  | [] => none
  | '0' :: x :: digits =>
    if x = 'x' ∨ x = 'X' then
      if digits.all (Text.hexValue? · |>.isSome) then some (numberOf 16 digits) else none
    else if (x :: digits).all (fun c => '0' ≤ c && c ≤ '7') then some (numberOf 8 (x :: digits))
    else none
  | digits => if digits.all Char.isDigit then some (numberOf 10 digits) else none

/-- The parts of a name between its dots, without an empty one at the end. -/
def nameParts (name : String) : List String :=
  let parts := name.splitOn "."
  if parts.getLast? = some "" then parts.dropLast else parts

/-- Does a name end in a number, so that it has to be an address? -/
def endsInNumber (name : String) : Bool :=
  match (nameParts name).getLast? with
  | some part => (part != "" && part.all Char.isDigit) || (addressNumber? part).isSome
  | none => false

/-- The address of version four that a name writes. -/
def ipv4? (name : String) : Option Nat := do
  let parts := nameParts name
  guard (parts.length ≤ 4)
  let numbers ← parts.mapM addressNumber?
  let last ← numbers.getLast?
  let octets := numbers.dropLast
  guard (octets.all (· < 256))
  guard (last < Nat.pow 256 (4 - octets.length))
  return octets.foldl (fun n octet => n * 256 + octet) 0 * Nat.pow 256 (4 - octets.length) + last

/-- The four octets of an address. -/
def ipv4Text (n : Nat) : String :=
  ".".intercalate ([16777216, 65536, 256, 1].map fun unit => toString (n / unit % 256))

/-- An octet in base ten, without zeros in front. -/
def plainOctet? (part : String) : Option Nat := do
  guard (part != "" && part.all Char.isDigit)
  guard (part.length = 1 ∨ !part.startsWith "0")
  let n := numberOf 10 part.toList
  guard (n < 256)
  return n

/-- The two groups that an address of version four makes. -/
def embeddedGroups? (text : String) : Option (List Nat) := do
  match ← (text.splitOn ".").mapM plainOctet? with
  | [a, b, c, d] => return [a * 256 + b, c * 256 + d]
  | _ => none

/-- The group that up to four digits write. -/
def group? (text : String) : Option Nat := do
  guard (text != "" && text.length ≤ 4)
  guard (text.all (Text.hexValue? · |>.isSome))
  return numberOf 16 text.toList

/-- The groups between single colons, the last of which may be an address of
version four. -/
def groups? (mayEmbed : Bool) (text : String) : Option (List Nat) := do
  if text == "" then return []
  let parts := text.splitOn ":"
  let last := parts.getLast?.getD ""
  let behind ← if mayEmbed && last.contains '.' then embeddedGroups? last else
    (group? last).map ([·])
  return (← parts.dropLast.mapM group?) ++ behind

/-- The address of version six that a text writes. -/
def ipv6? (text : String) : Option (List Nat) := do
  match text.splitOn "::" with
  | [whole] => do
    let groups ← groups? true whole
    guard (groups.length = 8)
    return groups
  | front :: behind => do
    let front ← groups? false front
    let behind ← groups? true ("::".intercalate behind)
    let written := front.length + behind.length
    guard (written < 8)
    return front ++ List.replicate (8 - written) 0 ++ behind
  | [] => none

/-- How many groups from a place on are zero. -/
def zerosFrom (groups : List Nat) (place : Nat) : Nat :=
  ((groups.drop place).takeWhile (· = 0)).length

/-- The first place of the longest run of zeros, if that has more than one. -/
def longestZeros? (groups : List Nat) : Option Nat :=
  (List.range groups.length).find? fun place =>
    1 < zerosFrom groups place &&
      (List.range groups.length).all fun other => zerosFrom groups other ≤ zerosFrom groups place

/-- Groups between colons. -/
def groupsText (groups : List Nat) : String :=
  ":".intercalate (groups.map fun n => String.ofList (Text.hexDigits n))

/-- An address of version six, its longest run of zeros left out. -/
def ipv6Text (groups : List Nat) : String :=
  match longestZeros? groups with
  | some place =>
    groupsText (groups.take place) ++ "::" ++
      groupsText (groups.drop (place + zerosFrom groups place))
  | none => groupsText groups

end PipelineScript.Url
