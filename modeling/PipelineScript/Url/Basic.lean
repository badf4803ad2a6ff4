/-
# URLs

A URL has a scheme, and behind that either a path alone or a host with a
path.  A query and a fragment may follow.
-/
import PipelineScript.Url.Host
import PipelineScript.Url.Path

namespace PipelineScript

namespace Url

/-- Who is addressed. -/
structure Authority where
  user : String := ""
  password : String := ""
  /-- No host is named in the URL of a file of this system. -/
  host : Option Host
  /-- The port, unless it is the usual one. -/
  port : Option Nat := none
deriving Repr, DecidableEq

namespace Authority

/-- What stands before the host. -/
def userText (a : Authority) : String :=
  if a.user == "" && a.password == "" then ""
  else a.user ++ (if a.password == "" then "" else ":" ++ a.password) ++ "@"

/-- A host with its port. -/
def hostText (a : Authority) : String :=
  (a.host.elim "" Host.text) ++ (a.port.elim "" fun n => ":" ++ toString n)

def text (a : Authority) : String :=
  "//" ++ a.userText ++ a.hostText

/-- The authority without the name of a user, when that is a text. -/
def withoutUser (a : Authority) : Authority :=
  let isText (s : String) : Bool := (decodedText? s.toList).isSome
  if isText a.user && (a.user != "" || isText a.password) then
    { a with user := "", password := "" }
  else a

end Authority

inductive Path where
  /-- A path that is not read any further. -/
  | whole (text : String)
  | steps (segments : List String)
deriving Repr, DecidableEq

def Path.text : Path → String
  | whole text => text
  | steps segments => segmentsText segments

end Url

structure Url where
  scheme : String
  authority : Option Url.Authority
  path : Url.Path
  query : Option String
  fragment : Option String
deriving Repr, DecidableEq

namespace Url

/-- The path and the query. -/
def target (u : Url) : String :=
  u.path.text ++ u.query.elim "" ("?" ++ ·)

/-- A URL as it is written.  A path that would look like a host has a dot
before it. -/
def text (u : Url) : String :=
  let front := match u.authority with
    | some a => a.text
    | none => if u.path.text.startsWith "//" then "/." else ""
  u.scheme ++ ":" ++ front ++ u.target ++ u.fragment.elim "" ("#" ++ ·)

/-- The URL without the name of a user. -/
def withoutUser (u : Url) : Url :=
  { u with authority := u.authority.map Authority.withoutUser }

end Url

end PipelineScript
