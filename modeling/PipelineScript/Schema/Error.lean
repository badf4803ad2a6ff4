/-
# Failed questions to the schema backend

No column at all is a valid answer, so every failure to ask has a cause of
its own.  Two of them may pass if the user tries again.
-/
import PipelineScript.Compile.Error
import PipelineScript.Schema.Column

namespace PipelineScript

/-- Why a question was not answered. -/
inductive SchemaError where
  | unreachable (reason : String)
  /-- The backend refused the probe query. -/
  | invalidQuery (reason : String)
  | timeout (milliseconds : Nat)
  /-- The backend answered something else than columns. -/
  | malformed (reason : String)
  | missingNode (id : String)
  /-- The part of the pipeline before the node has no script. -/
  | pipeline (cause : CompileError)
deriving Repr

namespace SchemaError

def message : SchemaError → String
  | unreachable reason => "Schema backend unreachable: " ++ reason
  | invalidQuery reason => "Probe query rejected by the backend: " ++ reason
  | timeout ms => "Schema request timed out after " ++ toString ms ++ " ms"
  | malformed reason => "Malformed backend response: " ++ reason
  | missingNode id => "Node '" ++ id ++ "' does not exist in the pipeline"
  | pipeline cause => "Upstream pipeline cannot be compiled: " ++ cause.message

/-- Is it worth trying again? -/
def isRetryable : SchemaError → Bool
  | unreachable _ | timeout _ => true
  | _ => false

end SchemaError

/-- What a question found out, if it did not fail. -/
inductive Finding where
  /-- The columns; the question is the latest for its target. -/
  | current (columns : List Column)
  /-- A newer question took its place, and the answer was dropped. -/
  | superseded
deriving Repr, DecidableEq

end PipelineScript
