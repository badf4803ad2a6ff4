/-
# Answering a generator

While a node is generated, its site says what feeds its input ports and
its progress records the names it has asked for.  `Plan.run` answers the
questions of a plan one by one.
-/
import PipelineScript.Compile.Names
import PipelineScript.Component.Basic

namespace PipelineScript.Compile

/-- What feeds an input port. -/
inductive Feed where
  | unconnected
  | available (name : String)
  /-- The source node offers nothing. -/
  | unavailable (source : String) (gap : Gap)
deriving Repr, DecidableEq

/-- The node being generated, what feeds it and the base of its output
variables. -/
structure Site where
  node : Node
  /-- One feed per input port. -/
  feeds : List Feed
  base : String

/-- The names asked for so far: those taken in the script, the variable
of each output port, and all names handed to this node, in order. -/
structure Progress where
  names : Names
  outputs : List (Option String)
  allocated : List String := []
deriving Repr, DecidableEq

/-- The progress of a node that has asked for nothing yet. -/
def Progress.start (names : Names) (node : Node) : Progress :=
  { names, outputs := List.replicate node.outputs.length none }

/-- The names after a node gave up: everything handed to it is given back. -/
def Progress.rollback (p : Progress) : Names :=
  p.names.releaseAll p.allocated

namespace Site

/-- The variable that feeds an input port, or whom to blame. -/
def input (site : Site) (port : Nat) : Except CompileError String :=
  match site.feeds[port]? with
  | some (.available name) => .ok name
  | some (.unavailable source gap) => .error (.incomplete source (.upstream gap site.node.id))
  | some .unconnected =>
    .error (.incomplete site.node.id (.unconnected (site.node.inputs[port]?.getD "?")))
  | none => .error (.invalid site.node.id (.noInputPort port))

/-- A new name with this base. -/
def fresh (base : String) (p : Progress) : String × Progress :=
  let (name, names) := p.names.allocate base
  (name, { p with names, allocated := p.allocated ++ [name] })

/-- The variable of an output port, allocated on first use. -/
def output (site : Site) (port : Nat) (p : Progress) : Except CompileError String × Progress :=
  match p.outputs[port]? with
  | none => (.error (.invalid site.node.id (.noOutputPort port)), p)
  | some (some name) => (.ok name, p)
  | some none =>
    let (name, p) := fresh site.base p
    (.ok name, { p with outputs := p.outputs.set port (some name) })

end Site

end PipelineScript.Compile

namespace PipelineScript

open Compile

/-- Runs a plan at a site: its value and the progress made, or why it
failed. -/
def Plan.run {α : Type} (site : Site) : Plan α → Progress → Except CompileError (α × Progress)
  | .done a, p => .ok (a, p)
  | .fail e, _ => .error e
  | .input port next, p => run site (next (site.input port)) p
  | .output port next, p =>
    let (answer, p) := site.output port p
    run site (next answer) p
  | .fresh base next, p =>
    let (name, p) := Site.fresh base p
    run site (next name) p
  | .isTaken name next, p => run site (next (p.names.isTaken name)) p
  | .inputCount next, p => run site (next site.feeds.length) p
  | .nodeId next, p => run site (next site.node.id) p

end PipelineScript
