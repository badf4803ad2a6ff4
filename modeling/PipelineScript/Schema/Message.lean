/-
# Messages to and from the schema backend

A question asks for the columns that flow into a node or for those of a
database table; a reply gives columns or a failure.  Both are JSON objects
told apart by a tag.
-/
import PipelineScript.Graph.Wire
import PipelineScript.Schema.Connection
import PipelineScript.Schema.Error

namespace PipelineScript

open Json

/-- A question to the backend. -/
inductive Question where
  /-- Run the pipeline up to the target and report what flows into it. -/
  | upstream (pipeline : Graph) (target : String) (script previewVariable : Option String)
  /-- Describe a table of a database. -/
  | table (connection : Connection) (tableName probeQuery : String)
deriving Repr

namespace Question

/-- The two kinds of questions. -/
inductive Tag where
  | upstream
  | table
deriving Repr, DecidableEq

def tags : List (String × Tag) := [("upstream", .upstream), ("table", .table)]

/-- A text that may be missing or null. -/
def optionalMember (position : Nat) (name : String) : Member (Option String) :=
  { position, name, decode := .optional .text, absent := some none, omitted := some none }

def decodeUpstream : Decoder Question :=
  .record "struct variant IntrospectionRequest::Upstream" 4 fun s w =>
    upstream <$> Member.read { position := 0, name := "pipeline", decode := Graph.decode } s w <*>
      Member.read { position := 1, name := "targetNodeId", decode := .text } s w <*>
      (optionalMember 2 "script").read s w <*> (optionalMember 3 "previewVariable").read s w

def decodeTable : Decoder Question :=
  .record "struct variant IntrospectionRequest::Table" 3 fun s w =>
    table <$>
      Member.read { position := 0, name := "connection", decode := Connection.decode } s w <*>
      Member.read { position := 1, name := "tableName", decode := .text } s w <*>
      Member.read { position := 2, name := "probeQuery", decode := .text } s w

def decode : Decoder Question :=
  .taggedRecord "kind" "internally tagged enum IntrospectionRequest" tags fun
    | .upstream => decodeUpstream .tagged
    | .table => decodeTable .tagged

/-- An entry that is written only when there is something to write. -/
def entry? (key : String) : Option String → List (String × Json)
  | none => []
  | some s => [(key, .str s)]

def encode : Question → Json
  | upstream pipeline target script previewVariable =>
    .obj ([("kind", .str "upstream"), ("pipeline", pipeline.encode)] ++
      entry? "previewVariable" previewVariable ++ entry? "script" script ++
      [("targetNodeId", .str target)])
  | table connection tableName probeQuery =>
    .obj [("connection", connection.encode), ("kind", .str "table"),
      ("probeQuery", .str probeQuery), ("tableName", .str tableName)]

end Question

/-- The probe query for a table when none is given. -/
def describeQuery (tableName : String) : String :=
  "DESCRIBE " ++ tableName

/-- The causes that a backend reports. -/
inductive FailureKind where
  | unreachable
  | invalidQuery
  | timeout
  | other
deriving Repr, DecidableEq

def FailureKind.names : List (String × FailureKind) :=
  [("unreachable", unreachable), ("invalidQuery", invalidQuery), ("timeout", timeout),
    ("other", other)]

def FailureKind.name : FailureKind → String
  | unreachable => "unreachable"
  | invalidQuery => "invalidQuery"
  | timeout => "timeout"
  | other => "other"

/-- A failure as the backend reports it. -/
structure Failure where
  kind : FailureKind
  message : String
deriving Repr, DecidableEq

namespace Failure

def decode : Decoder Failure :=
  .record "struct BackendFailure" 2 fun s w =>
    mk <$>
      Member.read { position := 0, name := "kind", decode := .choice FailureKind.names } s w <*>
      Member.read
        { position := 1, name := "message", decode := .text, absent := some "",
          omitted := some "" } s w

def encode (f : Failure) : Json :=
  .obj [("kind", .str f.kind.name), ("message", .str f.message)]

/-- The failure of the question.  Its own time limit is the one that is
reported. -/
def toError (f : Failure) (timeoutMs : Nat) : SchemaError :=
  match f.kind with
  | .unreachable => .unreachable f.message
  | .invalidQuery => .invalidQuery f.message
  | .timeout => .timeout timeoutMs
  | .other => .malformed f.message

end Failure

/-- A reply of the backend. -/
inductive Reply where
  | ok (columns : List Column)
  | error (failure : Failure)
deriving Repr, DecidableEq

namespace Reply

/-- The two kinds of replies. -/
inductive Tag where
  | ok
  | error
deriving Repr, DecidableEq

def tags : List (String × Tag) := [("ok", .ok), ("error", .error)]

def decodeOk : Decoder Reply :=
  .record "struct variant IntrospectionResponse::Ok" 1 fun s w =>
    ok <$> Member.read
      { position := 0, name := "options", decode := .list Column.decode, absent := some [],
        omitted := some [] } s w

def decodeError : Decoder Reply :=
  .record "struct variant IntrospectionResponse::Error" 1 fun s w =>
    error <$> Member.read { position := 0, name := "error", decode := Failure.decode } s w

def decode : Decoder Reply :=
  .taggedRecord "status" "internally tagged enum IntrospectionResponse" tags fun
    | .ok => decodeOk .tagged
    | .error => decodeError .tagged

def encode : Reply → Json
  | ok columns => .obj [("options", encodeColumns columns), ("status", .str "ok")]
  | error failure => .obj [("error", failure.encode), ("status", .str "error")]

/-- What the reply says: columns, or why there are none. -/
def outcome (r : Reply) (timeoutMs : Nat) : Except SchemaError (List Column) :=
  match r with
  | ok columns => .ok columns
  | error failure => .error (failure.toError timeoutMs)

end Reply

end PipelineScript
