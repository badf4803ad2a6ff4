/-
# How a component generates code

A generator is a plan: it may ask for the variables that feed the node,
for variables of its own and for a few facts, and in the end it hands over
a fragment, skips the node or fails.  A plan is data, so what it does
depends on its configuration and on the answers alone.
-/
import PipelineScript.Compile.Error

namespace PipelineScript

/-- What a component produced for one node. -/
inductive Generated where
  /-- The code of the node. -/
  | fragment (code : String)
  /-- Something the user has to fill in is missing; nothing is emitted. -/
  | skipped (reason : String)
deriving Repr, DecidableEq

/-- A computation that asks questions about the node being generated. -/
inductive Plan (α : Type) where
  | done (value : α)
  | fail (cause : CompileError)
  /-- The variable that feeds an input port. -/
  | input (port : Nat) (next : Except CompileError String → Plan α)
  /-- The variable published on an output port; a new one on first use. -/
  | output (port : Nat) (next : Except CompileError String → Plan α)
  /-- A new variable with this base, for use within the node. -/
  | fresh (base : String) (next : String → Plan α)
  /-- Is this name in use in the script? -/
  | isTaken (name : String) (next : Bool → Plan α)
  /-- How many input ports the node has. -/
  | inputCount (next : Nat → Plan α)
  /-- The id of the node. -/
  | nodeId (next : String → Plan α)

namespace Plan

variable {α β : Type}

/-- The second plan after the first. -/
def bind : Plan α → (α → Plan β) → Plan β
  | done a, k => k a
  | fail e, _ => fail e
  | input i next, k => input i fun r => bind (next r) k
  | output i next, k => output i fun r => bind (next r) k
  | fresh base next, k => fresh base fun v => bind (next v) k
  | isTaken name next, k => isTaken name fun b => bind (next b) k
  | inputCount next, k => inputCount fun n => bind (next n) k
  | nodeId next, k => nodeId fun id => bind (next id) k

instance : Monad Plan where
  pure := done
  bind := bind

/-- Fails with the error, or goes on with the value. -/
def ofExcept : Except CompileError α → Plan α
  | .ok a => done a
  | .error e => fail e

/-- The answer about an input port, be it a variable or an error. -/
def tryInput (port : Nat) : Plan (Except CompileError String) :=
  input port done

/-- The variable that feeds an input port; the plan fails without one. -/
def needInput (port : Nat) : Plan String :=
  input port ofExcept

/-- The variables that feed the input ports from `port` on, so many. -/
def needInputs (port : Nat) : (count : Nat) → Plan (List String)
  | 0 => done []
  | count + 1 => do
    let v ← needInput port
    let rest ← needInputs (port + 1) count
    return v :: rest

/-- The variables that feed all input ports, in the order of the ports. -/
def needAllInputs : Plan (List String) :=
  inputCount fun n => needInputs 0 n

/-- The variable published on an output port. -/
def publish (port : Nat) : Plan String :=
  output port ofExcept

/-- Fails for want of something in the configuration of this node. -/
def lacks (cause : Shortfall) : Plan α :=
  nodeId fun id => fail (.incomplete id cause)

/-- Fails over something wrong in the configuration of this node. -/
def rejects (cause : Flaw) : Plan α :=
  nodeId fun id => fail (.invalid id cause)

end Plan

end PipelineScript
