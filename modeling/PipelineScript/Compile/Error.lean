/-
# Why a pipeline has no script

The causes, and their wording in one place.  A node fails either because
its configuration is not complete yet or because it is wrong.
-/
import PipelineScript.Graph.Order
import PipelineScript.Json.Mismatch

namespace PipelineScript

/-- Why an upstream node offers no variable. -/
inductive Gap where
  /-- It was skipped, for this reason. -/
  | skipped (reason : String)
  /-- It published nothing on the port. -/
  | noValue (port : String)
  /-- It comes later. -/
  | notGenerated
deriving Repr, DecidableEq

/-- What is missing from a configuration. -/
inductive Shortfall where
  /-- An input port without an edge. -/
  | unconnected (port : String)
  /-- The blamed node offers nothing, and `requiredBy` needs it. -/
  | upstream (gap : Gap) (requiredBy : String)
  /-- A mapping table with so many rows, none of them complete. -/
  | noMappedColumn (rows : Nat)
  /-- What a component says itself. -/
  | stated (reason : String)
deriving Repr, DecidableEq

/-- What is wrong in a configuration. -/
inductive Flaw where
  | noInputPort (index : Nat)
  | noOutputPort (index : Nat)
  /-- The configuration does not decode. -/
  | undecodable (cause : Json.Mismatch)
  /-- A field must hold one of a few words. -/
  | notAmong (field : String) (allowed : List String) (found : String)
  /-- A positional column must be given by its index. -/
  | notAnIndex (column : String)
deriving Repr

/-- Why a pipeline has no script. -/
inductive CompileError where
  | noOrder (cause : OrderError)
  | unknownComponent (node component : String)
  | incomplete (node : String) (cause : Shortfall)
  | invalid (node : String) (cause : Flaw)
deriving Repr

def Gap.reason : Gap → String
  | skipped reason => reason
  | noValue port => "produced no value on output port '" ++ port ++ "'"
  | notGenerated => "was not generated before its dependents"

def Shortfall.reason : Shortfall → String
  | unconnected port => "input port '" ++ port ++ "' is not connected"
  | upstream gap node => gap.reason ++ " (required by node '" ++ node ++ "')"
  | noMappedColumn rows =>
    "none of the " ++ toString rows ++ " column mapping rows has a selected input column"
  | stated reason => reason

def Flaw.message : Flaw → String
  | noInputPort index => "input port #" ++ toString index ++ " does not exist"
  | noOutputPort index => "output port #" ++ toString index ++ " does not exist"
  | undecodable cause => cause.message
  | notAmong field allowed found =>
    "'" ++ field ++ "' must be one of " ++ ", ".intercalate allowed ++ ", found '" ++ found ++ "'"
  | notAnIndex column => "positional input column '" ++ column ++ "' is not a column index"

def OrderError.message : OrderError → String
  | danglingEdge missing target =>
    "Node '" ++ missing ++ "' not found, which is required by a connection to node '" ++
      target ++ "'"
  | cycle members =>
    "The pipeline contains a cycle involving nodes: " ++ ", ".intercalate members

def CompileError.message : CompileError → String
  | noOrder cause => cause.message
  | unknownComponent node component =>
    "Node '" ++ node ++ "' has an unregistered component type: '" ++ component ++ "'"
  | incomplete node cause =>
    "Node '" ++ node ++ "' has an incomplete configuration: " ++ cause.reason
  | invalid node cause =>
    "Node '" ++ node ++ "' has an invalid configuration: " ++ cause.message

end PipelineScript
