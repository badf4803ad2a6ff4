/-
# Exchanges with the schema backend

A question is sent as one HTTP request.  What comes back is a status with
a body, or nothing; either way it becomes columns or the reason why there
are none.
-/
import PipelineScript.Json.Reader
import PipelineScript.Schema.Message

namespace PipelineScript

/-- What came back for a request. -/
inductive Exchange where
  | answered (status : Nat) (body : String)
  /-- No answer came in time. -/
  | timedOut
  /-- The request did not go through. -/
  | failed (reason : String)
deriving Repr, DecidableEq

/-- The phrases that go with the numbers of HTTP statuses. -/
def statusPhrases : List (Nat × String) :=
  [(100, "Continue"), (101, "Switching Protocols"), (102, "Processing"), (200, "OK"),
    (201, "Created"), (202, "Accepted"), (203, "Non Authoritative Information"),
    (204, "No Content"), (205, "Reset Content"), (206, "Partial Content"),
    (207, "Multi-Status"), (208, "Already Reported"), (226, "IM Used"),
    (300, "Multiple Choices"), (301, "Moved Permanently"), (302, "Found"), (303, "See Other"),
    (304, "Not Modified"), (305, "Use Proxy"), (307, "Temporary Redirect"),
    (308, "Permanent Redirect"), (400, "Bad Request"), (401, "Unauthorized"),
    (402, "Payment Required"), (403, "Forbidden"), (404, "Not Found"),
    (405, "Method Not Allowed"), (406, "Not Acceptable"),
    (407, "Proxy Authentication Required"), (408, "Request Timeout"), (409, "Conflict"),
    (410, "Gone"), (411, "Length Required"), (412, "Precondition Failed"),
    (413, "Payload Too Large"), (414, "URI Too Long"), (415, "Unsupported Media Type"),
    (416, "Range Not Satisfiable"), (417, "Expectation Failed"), (418, "I'm a teapot"),
    (421, "Misdirected Request"), (422, "Unprocessable Entity"), (423, "Locked"),
    (424, "Failed Dependency"), (426, "Upgrade Required"), (428, "Precondition Required"),
    (429, "Too Many Requests"), (431, "Request Header Fields Too Large"),
    (451, "Unavailable For Legal Reasons"), (500, "Internal Server Error"),
    (501, "Not Implemented"), (502, "Bad Gateway"), (503, "Service Unavailable"),
    (504, "Gateway Timeout"), (505, "HTTP Version Not Supported"),
    (506, "Variant Also Negotiates"), (507, "Insufficient Storage"), (508, "Loop Detected"),
    (510, "Not Extended"), (511, "Network Authentication Required")]

/-- A status with its phrase. -/
def statusText (status : Nat) : String :=
  toString status ++ " " ++ (statusPhrases.lookup status).getD "<unknown status code>"

/-- The reply that a body writes.  A field that stands twice is a fault. -/
def Reply.ofText? (body : String) : Option Reply :=
  match Json.parseAsWritten body with
  | .ok v => (Reply.decode .free v).toOption
  | .error _ => none

/-- What an exchange tells: columns, or why there are none. -/
def Exchange.outcome (timeoutMs : Nat) : Exchange → Except SchemaError (List Column)
  | timedOut => .error (.timeout timeoutMs)
  | failed reason => .error (.unreachable reason)
  | answered status body =>
    if status = 400 ∨ status = 422 then .error (.invalidQuery body)
    else if 500 ≤ status ∧ status < 600 then
      .error (.unreachable ("backend returned " ++ statusText status))
    else if status < 200 ∨ 300 ≤ status then
      .error (.malformed ("unexpected status " ++ statusText status))
    else
      match Reply.ofText? body with
      | some reply => reply.outcome timeoutMs
      | none => .error (.malformed "error decoding response body")

end PipelineScript
