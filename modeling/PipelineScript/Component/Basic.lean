/-
# Components

A component is one kind of step: what it is called, what its nodes look
like when new, and the imports and code it contributes to a script.
Whatever depends on the type of a node goes through its component.
-/
import PipelineScript.Component.Plan
import PipelineScript.Text.Identifier

namespace PipelineScript

/-- The broad family of a component; it decides the usual ports. -/
inductive Kind where
  /-- Reads data from outside. -/
  | input
  /-- Derives data from upstream data. -/
  | transform
  /-- Writes data out. -/
  | output
  /-- Prepares the script's environment. -/
  | settings
deriving Repr, DecidableEq

namespace Kind

/-- The kinds under their written names. -/
def names : List (String × Kind) :=
  [("input", input), ("transform", transform), ("output", output), ("settings", settings)]

def name : Kind → String
  | input => "input"
  | transform => "transform"
  | output => "output"
  | settings => "settings"

/-- The usual input ports. -/
def inputs : Kind → List String
  | transform | output => ["in"]
  | input | settings => []

/-- The usual output ports. -/
def outputs : Kind → List String
  | input | transform => ["out"]
  | output | settings => []

end Kind

/-- One kind of step. -/
structure Component where
  identity : String
  display : String
  category : String
  kind : Kind
  icon : String := ""
  /-- The configuration of a new node. -/
  defaultConfig : Json := .emptyObject
  inputs : List String := kind.inputs
  outputs : List String := kind.outputs
  /-- The base of the variables that its nodes publish. -/
  variableBase : String := Text.snakeCase identity
  /-- The import statements that a node with this configuration needs. -/
  imports : Json → List String
  /-- How a node with this configuration generates its code. -/
  generate : Json → Plan Generated

/-- A new node of a component. -/
def Component.newNode (c : Component) (id : String) (config : Json) : Node :=
  { id, component := c.identity, config, inputs := c.inputs, outputs := c.outputs }

end PipelineScript
