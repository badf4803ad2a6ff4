/-
# Pipelines as graphs

A pipeline is a list of nodes, in the order of their creation, and a list
of edges, in the order in which they were drawn.  An edge joins an output
port of one node to an input port of another.  Nothing here demands that
ids differ or that edges end at nodes: documents may say otherwise, and
every function below has an answer for them.
-/
import PipelineScript.Json.Basic

namespace PipelineScript

/-- One step of a pipeline.  The graph never looks into `config`. -/
structure Node where
  id : String
  /-- The identity of the component that generates the step. -/
  component : String
  config : Json
  inputs : List String
  outputs : List String
deriving Repr, Inhabited, BEq

/-- A flow of data from an output port to an input port. -/
structure Edge where
  source : String
  sourcePort : String
  target : String
  targetPort : String
deriving Repr, Inhabited, DecidableEq

structure Graph where
  nodes : List Node := []
  edges : List Edge := []
deriving Repr, Inhabited, BEq

/-- The two sides of a node. -/
inductive Side where
  | input
  | output
deriving Repr, DecidableEq

def Side.name : Side → String
  | input => "input"
  | output => "output"

namespace Node

/-- The position of an input port. -/
def inputIndex? (n : Node) (port : String) : Option Nat :=
  n.inputs.idxOf? port

/-- The position of an output port. -/
def outputIndex? (n : Node) (port : String) : Option Nat :=
  n.outputs.idxOf? port

/-- The ports of one side. -/
def ports (n : Node) : Side → List String
  | .input => n.inputs
  | .output => n.outputs

end Node

namespace Graph

/-- The node of an id; the first one if the id is repeated. -/
def node? (g : Graph) (id : String) : Option Node :=
  g.nodes.find? (·.id == id)

def contains (g : Graph) (id : String) : Bool :=
  (g.node? id).isSome

def ids (g : Graph) : List String :=
  g.nodes.map (·.id)

/-- Where an edge arrives at its target: the position of the port, or
behind all ports when the target has no such port. -/
def arrival (n : Node) (e : Edge) : Nat :=
  (n.inputIndex? e.targetPort).getD n.inputs.length

/-- The edges into a node, in the order of its input ports. -/
def incoming (g : Graph) (id : String) : List Edge :=
  match g.node? id with
  | none => []
  | some n => (g.edges.filter (·.target == id)).mergeSort fun a b => arrival n a ≤ arrival n b

/-- The edges out of a node, in the order in which they were drawn. -/
def outgoing (g : Graph) (id : String) : List Edge :=
  g.edges.filter (·.source == id)

end Graph

end PipelineScript
