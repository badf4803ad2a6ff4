/-
# Hosts

A host is a name or a numeric address.  A URL whose scheme has no rules of
its own may hold any name.
-/
import PipelineScript.Url.Address
import PipelineScript.Url.DomainName
import PipelineScript.Url.Percent

namespace PipelineScript.Url

inductive Host where
  | name (text : String)
  | ipv4 (number : Nat)
  | ipv6 (groups : List Nat)
deriving Repr, DecidableEq

namespace Host

/-- A host by itself. -/
def address : Host → String
  | name text => text
  | ipv4 number => ipv4Text number
  | ipv6 groups => ipv6Text groups

/-- A host as it is written in a URL. -/
def text : Host → String
  | ipv6 groups => "[" ++ ipv6Text groups ++ "]"
  | host => host.address

/-- The host that stands between brackets. -/
def ofBracketed? (chars : List Char) : Option Host := do
  guard (chars.getLast? = some ']')
  return .ipv6 (← ipv6? (String.ofList chars.dropLast))

/-- The host of a URL whose scheme has rules of its own. -/
def ofText? : List Char → Option Host
  | '[' :: rest => ofBracketed? rest
  | chars => do
    let name ← domainName? (← decodedText? chars)
    guard (name != "")
    if endsInNumber name then return .ipv4 (← ipv4? name) else return .name name

/-- May this character not stand in any host? -/
def isBarred (c : Char) : Bool :=
  c.val = 0 || "\t\n\r #/:<>?@[\\]^|".toList.contains c

/-- The host of any other URL. -/
def ofFreeText? : List Char → Option Host
  | '[' :: rest => ofBracketed? rest
  | chars => if chars.any isBarred then none else some (.name (Part.host.encode chars))

end Host

end PipelineScript.Url
