/-
# Octets behind percent signs

A URL consists of characters of ASCII.  All others, and those that would end
a part of the URL too early, are written as the octets of their UTF-8 form.
-/
import PipelineScript.Text.Hex

namespace PipelineScript.Url

/-- A part of a URL. -/
inductive Part where
  | user
  | host
  /-- A path without steps. -/
  | rest
  | path
  | query
  /-- A query of a URL whose scheme has rules of its own. -/
  | specialQuery
  | fragment
deriving Repr, DecidableEq

/-- Is this a control character, or none of ASCII? -/
def isForeign (c : Char) : Bool :=
  c.val < 0x20 || 0x7F ≤ c.val

/-- The further characters that are written as octets in a part. -/
def Part.delimiters : Part → String
  | user => " \"<>\x60#?\x7b\x7d/:;=@[\\]^|"
  | host | rest => ""
  | path => " \"<>\x60#?\x7b\x7d"
  | query => " \"#<>"
  | specialQuery => " \"#<>'"
  | fragment => " \"<>\x60"

/-- Is a character written as octets in a part? -/
def Part.encodes (p : Part) (c : Char) : Bool :=
  isForeign c || p.delimiters.toList.contains c

/-- An octet behind a percent sign. -/
def percentOctet (octet : UInt8) : List Char :=
  ['%', (Text.hexDigit (octet.toNat / 16)).toUpper, (Text.hexDigit (octet.toNat % 16)).toUpper]

/-- The octets of a character. -/
def octets (c : Char) : List UInt8 :=
  c.toString.toUTF8.toList

/-- Characters as they are written in a part. -/
def Part.encode (p : Part) (cs : List Char) : String :=
  String.ofList (cs.flatMap fun c => if p.encodes c then (octets c).flatMap percentOctet else [c])

/-- The octets that characters stand for, those behind percent signs being
taken as they are. -/
def decodedOctets : List Char → List UInt8
  | [] => []
  | '%' :: first :: second :: rest =>
    match Text.hexValue? first, Text.hexValue? second with
    | some high, some low => (high * 16 + low).toUInt8 :: decodedOctets rest
    | _, _ => octets '%' ++ decodedOctets (first :: second :: rest)
  | c :: rest => octets c ++ decodedOctets rest

/-- The text that characters stand for. -/
def decodedText? (cs : List Char) : Option String :=
  String.fromUTF8? ⟨(decodedOctets cs).toArray⟩

end PipelineScript.Url
