/-
# Components written as data

A scripted component carries out the steps that its node's configuration
lists.  Each step asks the context one question and adds one line to the
fragment, so every kind of answer, skip and failure can be provoked from a
document.
-/
import PipelineScript.Component.Basic

namespace PipelineScript.Scripted

open Json

/-- What a scripted component is called and how it differs from the
defaults of its kind. -/
structure Spec where
  identity : String
  display : String
  category : String
  kind : Kind
  icon : String := ""
  defaultConfig : Json := .emptyObject
  inputs : List String := kind.inputs
  outputs : List String := kind.outputs
  variableBase : String := Text.snakeCase identity

/-- One step. -/
inductive Step where
  | input (port : Nat)
  | tryInput (port : Nat)
  | inputs
  | output (port : Nat)
  | fresh (base : String)
  | taken (name : String)
  | count
  | id
  | skip (reason : String)
  | fail (reason : String)
  | text (line : String)
deriving Repr, DecidableEq

/-- A text argument; empty if there is none. -/
def textArgument : Option Json → String
  | some (.str s) => s
  | _ => ""

/-- A port argument; the first port if there is none. -/
def portArgument : Option Json → Nat
  | some (.int n) => n.toNat
  | _ => 0

/-- The step that a list of a name and an argument stands for. -/
def stepOf (items : List Json) : Step :=
  let argument := items[1]?
  match textArgument items.head? with
  | "input" => .input (portArgument argument)
  | "try_input" => .tryInput (portArgument argument)
  | "inputs" => .inputs
  | "output" => .output (portArgument argument)
  | "fresh" => .fresh (textArgument argument)
  | "taken" => .taken (textArgument argument)
  | "count" => .count
  | "id" => .id
  | "skip" => .skip (textArgument argument)
  | "fail" => .fail (textArgument argument)
  | _ => .text (textArgument argument)

/-- The items of a list; nothing for any other value. -/
def itemsOf : Option Json → List Json
  | some (.arr items) => items
  | _ => []

/-- The texts among some values. -/
def textsOf (items : List Json) : List String :=
  items.filterMap fun | .str s => some s | _ => none

/-- The steps of a configuration. -/
def stepsOf (config : Json) : List Step :=
  (itemsOf (config.field? "steps")).map fun step => stepOf (itemsOf (some step))

/-- Carries out steps; `lines` holds the lines so far, the last one first. -/
def carryOut (lines : List String) : List Step → Plan Generated
  | [] => .done (.fragment ("\n".intercalate lines.reverse))
  | step :: rest =>
    match step with
    | .input port => .bind (.needInput port) fun v => carryOut (v :: lines) rest
    | .tryInput port => .bind (.tryInput port) fun answer =>
      let line := match answer with | .ok v => v | .error e => "! " ++ e.message
      carryOut (line :: lines) rest
    | .inputs => .bind .needAllInputs fun vs => carryOut (",".intercalate vs :: lines) rest
    | .output port => .bind (.publish port) fun v => carryOut (v :: lines) rest
    | .fresh base => .fresh base fun v => carryOut (v :: lines) rest
    | .taken name => .isTaken name fun b => carryOut ((if b then "true" else "false") :: lines) rest
    | .count => .inputCount fun n => carryOut (toString n :: lines) rest
    | .id => .nodeId fun id => carryOut (id :: lines) rest
    | .skip reason => .done (.skipped reason)
    | .fail reason => .lacks (.stated reason)
    | .text line => carryOut (line :: lines) rest

/-- The component of a spec. -/
def Spec.component (s : Spec) : Component where
  identity := s.identity
  display := s.display
  category := s.category
  kind := s.kind
  icon := s.icon
  defaultConfig := s.defaultConfig
  inputs := s.inputs
  outputs := s.outputs
  variableBase := s.variableBase
  imports config := textsOf (itemsOf (config.field? "imports"))
  generate config := carryOut [] (stepsOf config)

end PipelineScript.Scripted
