/-
# Compiling a pipeline

The nodes are visited in their order.  Each one sees the variables that
its upstream nodes published, and either adds a fragment with its imports
or is skipped without leaving a trace in the names.  The first failure
ends the walk.
-/
import PipelineScript.Compile.Context
import PipelineScript.Compile.Imports
import PipelineScript.Component.Registry
import PipelineScript.Graph.Ancestors
import PipelineScript.Script.Basic

namespace PipelineScript.Compile

/-- What became of a node. -/
inductive Outcome where
  /-- It was emitted with these variables on its output ports. -/
  | emitted (outputs : List (Option String))
  | skipped (reason : String)
deriving Repr, DecidableEq

/-- The state of the walk. -/
structure Walk where
  names : Names := Names.ofList Text.reservedNames
  imports : Imports := {}
  /-- What became of the nodes so far, the latest first. -/
  outcomes : List (String × Outcome) := []
  fragments : List Fragment := []
  skipped : List SkippedNode := []
deriving Repr, DecidableEq

/-- What an edge brings, given what became of its source. -/
def feedOf (g : Graph) (e : Edge) : Option Outcome → Feed
  | none => .unavailable e.source .notGenerated
  | some (.skipped reason) => .unavailable e.source (.skipped reason)
  | some (.emitted outputs) =>
    let published := do
      let n ← g.node? e.source
      let i ← n.outputIndex? e.sourcePort
      let slot ← outputs[i]?
      slot
    match published with
    | some name => .available name
    | none => .unavailable e.source (.noValue e.sourcePort)

/-- What feeds one input port of a node. -/
def feedAt (g : Graph) (outcomes : List (String × Outcome)) (id port : String) : Feed :=
  match (g.incoming id).find? (·.targetPort == port) with
  | none => .unconnected
  | some e => feedOf g e (outcomes.lookup e.source)

/-- The site of a node at this point of the walk. -/
def Walk.site (w : Walk) (g : Graph) (c : Component) (n : Node) : Site :=
  { node := n, feeds := n.inputs.map (feedAt g w.outcomes n.id), base := c.variableBase }

/-- The walk after a node has been generated. -/
def Walk.record (w : Walk) (c : Component) (n : Node) : Generated → Progress → Walk
  | .fragment code, p =>
    { w with
      names := p.names
      imports := w.imports.extend (c.imports n.config)
      outcomes := (n.id, .emitted p.outputs) :: w.outcomes
      fragments := w.fragments ++ [⟨n.id, n.component, Text.trimEnd code, p.outputs⟩] }
  | .skipped reason, p =>
    { w with
      names := p.rollback
      outcomes := (n.id, .skipped reason) :: w.outcomes
      skipped := w.skipped ++ [⟨n.id, reason⟩] }

/-- Visits one node. -/
def Walk.visit (r : Registry) (g : Graph) (w : Walk) (n : Node) : Except CompileError Walk :=
  match r.find? n.component with
  | none => .error (.unknownComponent n.id n.component)
  | some c =>
    match (c.generate n.config).run (w.site g c n) (.start w.names n) with
    | .error e => .error e
    | .ok (generated, p) => .ok (w.record c n generated p)

/-- Visits nodes one after the other. -/
def Walk.visitAll (r : Registry) (g : Graph) : Walk → List Node → Except CompileError Walk
  | w, [] => .ok w
  | w, n :: rest =>
    match w.visit r g n with
    | .error e => .error e
    | .ok w => visitAll r g w rest

end PipelineScript.Compile

namespace PipelineScript

open Compile

/-- The script of a pipeline. -/
def compile (r : Registry) (header : Option String) (g : Graph) : Except CompileError Script :=
  match g.order with
  | .error e => .error (.noOrder e)
  | .ok order =>
    match Walk.visitAll r g {} order with
    | .error e => .error e
    | .ok w => .ok
      { header, imports := w.imports.statements, fragments := w.fragments, skipped := w.skipped }

/-- The script of everything a node depends on, the node left out. -/
def compileUntil (r : Registry) (header : Option String) (g : Graph) (id : String) :
    Except CompileError Script :=
  match g.upstream? id with
  | none => .error (.noOrder (.danglingEdge id id))
  | some part => compile r header part

end PipelineScript
