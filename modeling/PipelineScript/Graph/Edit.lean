/-
# Editing a graph

An edit answers something, or it is refused and says why; it leaves a graph
behind in both cases.  An input port takes one edge: connecting it again
replaces the edge, and the new one stands last.
-/
import PipelineScript.Component.Registry
import PipelineScript.Graph.Basic

namespace PipelineScript

/-- Why an edit was refused. -/
inductive GraphError where
  | duplicateNode (id : String)
  | missingNode (id : String)
  | missingPort (node : String) (side : Side) (port : String)
  | registry (cause : RegistryError)
deriving Repr, DecidableEq

def GraphError.message : GraphError → String
  | duplicateNode id => "A node with id '" ++ id ++ "' already exists in the pipeline"
  | missingNode id => "Node '" ++ id ++ "' does not exist in the pipeline"
  | missingPort node side port =>
    "Node '" ++ node ++ "' has no " ++ side.name ++ " port '" ++ port ++ "'"
  | registry cause => cause.message

/-- An edit under way: it works on a graph, and it may be refused. -/
abbrev Editing := EStateM GraphError Graph

namespace Graph

/-- Refuses the edit unless this holds. -/
def require (holds : Bool) (otherwise : GraphError) : Editing Unit :=
  if holds then pure () else throw otherwise

/-- The node of an id, or the refusal. -/
def getNode (id : String) : Editing Node := do
  match (← get).node? id with
  | some n => return n
  | none => throw (.missingNode id)

/-- The first unused id `identity-k`, `identity-(k+1)`, … among so many. -/
def firstFreeId (g : Graph) (identity : String) : (tries k : Nat) → String
  | 0, _ => identity
  | tries + 1, k =>
    let id := identity ++ "-" ++ toString k
    if g.contains id then firstFreeId g identity tries (k + 1) else id

/-- An id that no node has.  Among one more candidates than there are
nodes, one is free. -/
def freshId (g : Graph) (identity : String) : String :=
  g.firstFreeId identity (g.nodes.length + 1) (g.nodes.length + 1)

/-- Puts a node behind all others. -/
def pushNode (n : Node) : Editing Unit :=
  modify fun g => { g with nodes := g.nodes ++ [n] }

/-- Adds a new node of a component; answers its id. -/
def addNode (r : Registry) (component : String) : Editing String := do
  match r.resolve component with
  | .error e => throw (.registry e)
  | .ok c =>
    let id := (← get).freshId c.identity
    pushNode (c.newNode id c.defaultConfig)
    return id

/-- Adds a finished node under a new id. -/
def insertNode (n : Node) : Editing Unit := do
  require (!(← get).contains n.id) (.duplicateNode n.id)
  pushNode n

/-- Removes a node and every edge that touches it; answers the node. -/
def removeNode (id : String) : Editing Node := do
  let n ← getNode id
  modify fun g => { g with edges := g.edges.filter fun e => e.source != id && e.target != id }
  modify fun g => { g with nodes := g.nodes.eraseP (·.id == id) }
  return n

/-- The edges without those that arrive at an input port. -/
def freePort (edges : List Edge) (target port : String) : List Edge :=
  edges.filter fun e => !(e.target == target && e.targetPort == port)

/-- Draws an edge, in place of the one that arrives at the same port. -/
def connect (source sourcePort target targetPort : String) : Editing Unit := do
  let s ← getNode source
  require (s.outputs.contains sourcePort) (.missingPort source .output sourcePort)
  let t ← getNode target
  require (t.inputs.contains targetPort) (.missingPort target .input targetPort)
  modify fun g => { g with edges := freePort g.edges target targetPort }
  modify fun g => { g with edges := g.edges ++ [⟨source, sourcePort, target, targetPort⟩] }

/-- The first port of a side, or the refusal. -/
def firstPort (n : Node) (side : Side) : Editing String :=
  match n.ports side with
  | port :: _ => return port
  | [] => throw (.missingPort n.id side "0")

/-- Draws an edge from the first output port to the first input port. -/
def link (source target : String) : Editing Unit := do
  let sourcePort ← firstPort (← getNode source) .output
  let targetPort ← firstPort (← getNode target) .input
  connect source sourcePort target targetPort

/-- Removes the edges between two nodes; answers how many they were. -/
def disconnect (source target : String) : Editing Nat := do
  let before := (← get).edges.length
  modify fun g =>
    { g with edges := g.edges.filter fun e => !(e.source == source && e.target == target) }
  return before - (← get).edges.length

/-- Changes the first node of an id. -/
def updateFirst (id : String) (f : Node → Node) : List Node → List Node
  | [] => []
  | n :: rest => if n.id == id then f n :: rest else n :: updateFirst id f rest

/-- Changes the node of an id. -/
def updateNode (id : String) (f : Node → Node) : Editing Unit := do
  require ((← get).contains id) (.missingNode id)
  modify fun g => { g with nodes := updateFirst id f g.nodes }

/-- Replaces the configuration of a node. -/
def setConfig (id : String) (config : Json) : Editing Unit :=
  updateNode id fun n => { n with config }

/-- Replaces one top-level field of a configuration. -/
def setConfigField (id field : String) (value : Json) : Editing Unit :=
  updateNode id fun n => { n with config := n.config.setField field value }

end Graph

end PipelineScript
