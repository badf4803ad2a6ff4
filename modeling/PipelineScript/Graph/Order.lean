/-
# The order of a pipeline

`order` lists the nodes so that every edge points forward.  At each place
stands the earliest-created node whose predecessors are all placed, so
equal pipelines always get the same order.  When no node is ready although
some are left, the ones that lie on a cycle are reported, and only those.
-/
import PipelineScript.Graph.Basic
import PipelineScript.Graph.Reach

namespace PipelineScript

/-- Why a graph has no order. -/
inductive OrderError where
  /-- An edge into `target` names the node `missing`, which is not there. -/
  | danglingEdge (missing target : String)
  /-- The ids of the nodes that lie on cycles, in creation order. -/
  | cycle (members : List String)
deriving Repr, DecidableEq

namespace Graph

/-- The position of the last occurrence of an id. -/
def lastIndex? (id : String) : List String → Option Nat
  | [] => none
  | x :: rest =>
    match lastIndex? id rest with
    | some i => some (i + 1)
    | none => if x == id then some 0 else none

/-- The position at which an id stands; the last one if it is repeated. -/
def position? (g : Graph) (id : String) : Option Nat :=
  lastIndex? id g.ids

/-- An edge as a pair of positions. -/
def arc (g : Graph) (e : Edge) : Except OrderError (Nat × Nat) :=
  match g.position? e.source with
  | none => .error (.danglingEdge e.source e.target)
  | some s =>
    match g.position? e.target with
    | none => .error (.danglingEdge e.target e.target)
    | some t => .ok (s, t)

/-- All edges as pairs of positions, or the first that dangles. -/
def arcs (g : Graph) : Except OrderError (List (Nat × Nat)) :=
  g.edges.mapM g.arc

/-- How many arcs lead to each position, and where those go that leave it. -/
structure Links where
  inDegrees : List Nat
  successors : List (List Nat)
deriving Repr, DecidableEq

/-- Counts one more arc. -/
def Links.add (l : Links) (a : Nat × Nat) : Links where
  inDegrees := l.inDegrees.modify a.2 (· + 1)
  successors := l.successors.modify a.1 (· ++ [a.2])

/-- The links of so many positions. -/
def linksOf (n : Nat) (arcs : List (Nat × Nat)) : Links :=
  arcs.foldl Links.add ⟨List.replicate n 0, List.replicate n []⟩

/-- The positions that are ready, least first, and how many arcs lead to each
position from those that are not placed. -/
structure Sweep where
  ready : List Nat
  inDegrees : List Nat
deriving Repr, DecidableEq

/-- Puts a position where it belongs among those that are ready. -/
def enqueue (i : Nat) : List Nat → List Nat
  | [] => [i]
  | j :: rest => if i ≤ j then i :: j :: rest else j :: enqueue i rest

/-- Drops one arc to a position, which is ready when it was the last one. -/
def Sweep.release (s : Sweep) (j : Nat) : Sweep :=
  let left := s.inDegrees.getD j 0 - 1
  { ready := if left = 0 then enqueue j s.ready else s.ready
    inDegrees := s.inDegrees.set j left }

/-- Places the least ready position and drops the arcs that leave it, over and
over.  Every step places another position. -/
def sweep (successors : List (List Nat)) : (steps : Nat) → Sweep → List Nat
  | 0, _ => []
  | steps + 1, s =>
    match s.ready with
    | [] => []
    | i :: ready =>
      i :: sweep successors steps ((successors.getD i []).foldl Sweep.release { s with ready })

/-- The positions of the pool that reach themselves within it.  The first look
is at the successors of a position; each arc of the pool adds one more at most. -/
def onCycle (successors : List (List Nat)) (pool : List Nat) : List Nat :=
  pool.filter fun i =>
    meets (successors.getD · []) pool i (2 * successors.flatten.length)
      (successors.getD i []).reverse []

/-- The nodes in order. -/
def order (g : Graph) : Except OrderError (List Node) := do
  let arcs ← g.arcs
  let n := g.nodes.length
  let links := linksOf n arcs
  let ready := (List.range n).filter fun i => links.inDegrees.getD i 0 == 0
  let placed := sweep links.successors n ⟨ready, links.inDegrees⟩
  if placed.length == n then
    return placed.filterMap (g.nodes[·]?)
  else
    let left := (List.range n).filter fun i => !placed.contains i
    throw (.cycle ((onCycle links.successors left).filterMap (g.ids[·]?)))

/-- Has the graph an order? -/
def isAcyclic (g : Graph) : Bool :=
  match g.order with
  | .ok _ => true
  | .error _ => false

end Graph

end PipelineScript
