/-
# The address of the schema backend

The address is a URL of the web.  The name of a user in it is not part of
the address, and a host has to be one that a request can name.
-/
import PipelineScript.Url.Reader

namespace PipelineScript

/-- An address that can be asked. -/
structure Endpoint where
  url : Url
  /-- The host without the brackets that it has in the URL. -/
  host : String
  port : Nat
deriving Repr, DecidableEq

/-- Why a text is no address that can be asked. -/
inductive EndpointError where
  | malformed
  /-- A URL of something else. -/
  | unsupported (url : String)
deriving Repr, DecidableEq

namespace Endpoint

/-- How many bytes the URL of a request may have. -/
def longestUrl : Nat := 65534

/-- The usual port of a scheme of the web. -/
def usualPort? (scheme : String) : Option Nat :=
  [("http", 80), ("https", 443)].lookup scheme

/-- Can a request name a host? -/
def canName (host : String) : Bool :=
  !host.any fun c => "\"\x60\x7b\x7d".toList.contains c

/-- The address at a URL. -/
def ofUrl? (u : Url) : Option Endpoint := do
  let usual ← usualPort? u.scheme
  let authority ← u.authority
  let host ← authority.host
  guard (canName host.text && u.text.utf8ByteSize ≤ longestUrl)
  return { url := u, host := host.address, port := authority.port.getD usual }

/-- The address that a text writes. -/
def ofText (text : String) : Except EndpointError Endpoint :=
  match Url.ofText? text with
  | none => .error .malformed
  | some written =>
    match ofUrl? written.withoutUser with
    | some e => .ok e
    | none => .error (.unsupported written.withoutUser.text)

/-- What is reported when a question cannot be sent to an address. -/
def sendFailure (text : String) : String :=
  match ofText text with
  | .error .malformed => "builder error"
  | .error (.unsupported url) => "builder error for url (" ++ url ++ ")"
  | .ok e => "error sending request for url (" ++ e.url.text ++ ")"

end Endpoint

end PipelineScript
