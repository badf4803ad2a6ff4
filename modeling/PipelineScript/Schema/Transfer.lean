/-
# Questions over HTTP

The bytes that carry a question to the backend, and how its answer is read
off the bytes that come back.  The request is of the first version of the
protocol, where the answer ends with the connection.
-/
import PipelineScript.Files.Basic
import PipelineScript.Json.Printer
import PipelineScript.Schema.Endpoint
import PipelineScript.Schema.Exchange

namespace PipelineScript

namespace Endpoint

/-- The text of a request. -/
def requestText (e : Endpoint) (q : Question) : String :=
  let body := q.encode.compact
  "\r\n".intercalate
    ["POST " ++ e.url.target ++ " HTTP/1.0",
      "Host: " ++ e.url.authority.elim "" Url.Authority.hostText, "Accept: */*",
      "Content-Type: application/json", "Content-Length: " ++ toString body.utf8ByteSize, "",
      body]

end Endpoint

/-- The bytes before and behind the first blank line. -/
def splitHead (head : List UInt8) : List UInt8 → Option (List UInt8 × List UInt8)
  | 13 :: 10 :: 13 :: 10 :: body => some (head.reverse, body)
  | b :: rest => splitHead (b :: head) rest
  | [] => none

/-- The status in the first line of an answer. -/
def statusOfHead? (head : String) : Option Nat :=
  match head.splitOn " " with
  | protocol :: status :: _ => if protocol.startsWith "HTTP/" then status.toNat? else none
  | _ => none

/-- The exchange that an answer makes. -/
def Exchange.ofBytes? (bytes : List UInt8) : Option Exchange := do
  let (head, body) ← splitHead [] bytes
  let status ← statusOfHead? (← textOfBytes? head)
  return .answered status ((textOfBytes? body).getD "")

end PipelineScript
