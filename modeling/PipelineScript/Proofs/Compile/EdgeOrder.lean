/-
# The order of drawing does not matter

Two graphs with the same nodes and the same edges, drawn in a different order,
have the same script, or fail alike (`compile_of_perm`).

The list of edges is read in three places.  `order` counts the arcs that lead to
a position and follows those that leave it, and both come in the order of
drawing.  But what it places is what `place` places, and that asks only whether
an arc is left; and which positions lie on a cycle is a matter of paths.  So the
order of the nodes, or the cycle that stands in its way, stays the same
(`order_of_perm`).  And `incoming` is asked for the edge
at a port, of which a well-formed graph has at most one (`sameFeeds_of_perm`).
-/
import PipelineScript.Proofs.Compile.Cycles
import PipelineScript.Proofs.Compile.Feeds
import PipelineScript.Proofs.Compile.Wiring

namespace PipelineScript

open Compile

namespace Graph

variable {g : Graph} {edges : List Edge} {arcs arcs' : List (Nat × Nat)}

/-- The graph with its edges drawn anew. -/
def redrawn (g : Graph) (edges : List Edge) : Graph :=
  { g with edges }

theorem WellFormed.redrawn (wf : g.WellFormed) (perm : edges.Perm g.edges) :
    (g.redrawn edges).WellFormed where
  distinct := wf.distinct
  source e he := wf.source e (perm.subset he)
  target e he := wf.target e (perm.subset he)
  single := (perm.map _).nodup_iff.mpr wf.single

/-! ## The order of the nodes -/

theorem mapM_perm {α β ε : Type} {f : α → Except ε β} {xs xs' : List α} (perm : xs.Perm xs') :
    ∀ ys, xs.mapM f = .ok ys → ∃ ys', xs'.mapM f = .ok ys' ∧ ys.Perm ys' := by
  induction perm with
  | nil =>
      intro ys h
      exact ⟨ys, h, .refl ys⟩
  | cons x _ ih =>
      intro ys h
      obtain ⟨z, zs, hz, hzs, rfl⟩ := mapM_cons_eq_ok_iff.mp h
      obtain ⟨zs', hzs', hperm⟩ := ih zs hzs
      exact ⟨z :: zs', mapM_cons_eq_ok_iff.mpr ⟨z, zs', hz, hzs', rfl⟩, hperm.cons z⟩
  | swap x y xs =>
      intro ys h
      obtain ⟨b, _, hb, hrest, rfl⟩ := mapM_cons_eq_ok_iff.mp h
      obtain ⟨a, as, ha, has, rfl⟩ := mapM_cons_eq_ok_iff.mp hrest
      have inner := mapM_cons_eq_ok_iff.mpr ⟨b, as, hb, has, rfl⟩
      exact ⟨a :: b :: as, mapM_cons_eq_ok_iff.mpr ⟨a, b :: as, ha, inner, rfl⟩, .swap a b as⟩
  | trans _ _ ih ih' =>
      intro ys h
      obtain ⟨ys', h', hperm⟩ := ih ys h
      obtain ⟨ys'', h'', hperm'⟩ := ih' ys' h'
      exact ⟨ys'', h'', hperm.trans hperm'⟩

theorem ready_of_perm (perm : arcs.Perm arcs') : ready arcs' = ready arcs := by
  funext i
  rw [Bool.eq_iff_iff, ready_iff_supplied, ready_iff_supplied]
  exact ⟨fun h a ha => h a (perm.subset ha), fun h a ha => h a (perm.symm.subset ha)⟩

theorem place_of_perm (steps : Nat) : ∀ (pool : List Nat) {arcs arcs' : List (Nat × Nat)},
    arcs.Perm arcs' →
      (place steps pool arcs').placed = (place steps pool arcs).placed ∧
        (place steps pool arcs').pool = (place steps pool arcs).pool := by
  induction steps with
  | zero =>
      intro pool arcs arcs' _
      exact ⟨rfl, rfl⟩
  | succ steps ih =>
      intro pool arcs arcs' perm
      have found : pool.find? (ready arcs') = pool.find? (ready arcs) := by
        rw [ready_of_perm perm]
      cases h : pool.find? (ready arcs) with
      | none =>
          rw [place_succ_none steps h, place_succ_none steps (found.trans h)]
          exact ⟨rfl, rfl⟩
      | some i =>
          rw [place_succ_some steps h, place_succ_some steps (found.trans h)]
          obtain ⟨placed, pool⟩ := ih (pool.erase i) (perm.filter fun a => a.1 != i)
          exact ⟨congrArg (i :: ·) placed, pool⟩

theorem onCycle_of_perm {n : Nat} (steps : Nat)
    (closed : ∀ a ∈ arcs, a.1 ∈ List.range n ∧ a.2 ∈ List.range n) (perm : arcs.Perm arcs') :
    onCycle (linksOf n arcs').successors (place steps (List.range n) arcs).pool =
      onCycle (linksOf n arcs).successors (place steps (List.range n) arcs).pool := by
  have closed' : ∀ a ∈ arcs', a.1 ∈ List.range n ∧ a.2 ∈ List.range n := fun a ha =>
    closed a (perm.symm.subset ha)
  have along : Along arcs' = Along arcs := by
    funext i j
    exact propext perm.symm.mem_iff
  refine List.filter_congr fun i hi => ?_
  have same : i ∈ onCycle (linksOf n arcs').successors (place steps (List.range n) arcs').pool ↔
      i ∈ onCycle (linksOf n arcs).successors (place steps (List.range n) arcs).pool := by
    rw [mem_onCycle_place closed, mem_onCycle_place closed', along]
  rw [(place_of_perm steps (List.range n) perm).2] at same
  rw [Bool.eq_iff_iff]
  simpa [onCycle, hi] using same

/-- The nodes stand in the same order, or the same nodes lie on cycles. -/
theorem order_of_perm (joins : ∀ e ∈ g.edges, g.Joins e) (perm : edges.Perm g.edges) :
    (g.redrawn edges).order = g.order := by
  obtain ⟨arcs, harcs⟩ := exists_arcs joins
  obtain ⟨arcs', harcs', hperm⟩ := mapM_perm perm.symm arcs harcs
  have hread : (g.redrawn edges).arcs = .ok arcs' := harcs'
  have nodes : (g.redrawn edges).nodes = g.nodes := rfl
  obtain ⟨placed, pool⟩ := place_of_perm g.nodes.length (List.range g.nodes.length) hperm
  rw [order_of_arcs hread, order_of_arcs harcs, nodes]
  simp only [placed, pool, onCycle_of_perm _ (arcs_closed harcs) hperm]
  rfl

end Graph

/-! ## The walk -/

variable {g : Graph} {edges : List Edge}

theorem into_redrawn_iff (perm : edges.Perm g.edges) {n : Node} {port : String} {e : Edge} :
    (g.redrawn edges).Into n port e ↔ g.Into n port e :=
  and_congr_left fun _ => perm.mem_iff

theorem sameFeeds_of_perm (wf : g.WellFormed) (perm : edges.Perm g.edges) {n : Node}
    (hn : n ∈ g.nodes) : SameFeeds g (g.redrawn edges) n := by
  intro outcomes port
  have hn' : n ∈ (g.redrawn edges).nodes := hn
  by_cases free : ∀ e, ¬ g.Into n port e
  · have free' : ∀ e, ¬ (g.redrawn edges).Into n port e := fun e he =>
      free e ((into_redrawn_iff perm).mp he)
    rw [feedAt_of_not_into hn free, feedAt_of_not_into hn' free']
  · obtain ⟨e, he⟩ := not_forall_not.mp free
    rw [feedAt_of_into wf hn he,
      feedAt_of_into (wf.redrawn perm) hn' ((into_redrawn_iff perm).mpr he)]
    rfl

/-- **The order of drawing does not matter.**  A graph with the same nodes, and
with the same edges in another order, has the same script, or fails with the
same error. -/
theorem compile_of_perm (r : Registry) (header : Option String) (g g' : Graph)
    (wf : g.WellFormed) (nodes : g'.nodes = g.nodes) (perm : g'.edges.Perm g.edges) :
    compile r header g' = compile r header g := by
  obtain ⟨_, edges⟩ := g'
  obtain rfl : _ = g.nodes := nodes
  have order : (g.redrawn edges).order = g.order := Graph.order_of_perm wf.joins perm
  show compile r header (g.redrawn edges) = _
  unfold compile
  rw [order]
  cases ho : g.order with
  | error cause => rfl
  | ok ns =>
      have same : ∀ n ∈ ns, SameFeeds g (g.redrawn edges) n := fun n hn =>
        sameFeeds_of_perm wf perm ((Graph.order_perm ho).subset hn)
      simp only [visitAll_congr same]

/-! Two rings, and a node behind one of them: the nodes of both rings are
reported, in the order of their creation. -/

def twoRings : Graph where
  nodes := [⟨"a", "half", .null, ["in"], ["out"]⟩, ⟨"x", "half", .null, ["in"], ["out"]⟩,
    ⟨"b", "half", .null, ["in"], ["out"]⟩, ⟨"y", "half", .null, ["in"], ["out"]⟩,
    ⟨"z", "record", .null, ["in"], []⟩]
  edges := [⟨"y", "out", "x", "in"⟩, ⟨"a", "out", "b", "in"⟩, ⟨"b", "out", "z", "in"⟩,
    ⟨"x", "out", "y", "in"⟩, ⟨"b", "out", "a", "in"⟩]

theorem twoRings_wellFormed : twoRings.WellFormed where
  distinct := by decide
  source := by decide
  target := by decide
  single := by decide

theorem compile_of_perm_twoRings :
    twoRings.WellFormed ∧ twoRings.edges.reverse.Perm twoRings.edges ∧
      compile ⟨[halfEmitter, recorder]⟩ none twoRings =
        .error (.noOrder (.cycle ["a", "x", "b", "y"])) ∧
      compile ⟨[halfEmitter, recorder]⟩ none (twoRings.redrawn twoRings.edges.reverse) =
        compile ⟨[halfEmitter, recorder]⟩ none twoRings := by
  have perm : twoRings.edges.reverse.Perm twoRings.edges := List.reverse_perm _
  exact ⟨twoRings_wellFormed, perm, rfl,
    compile_of_perm _ _ _ _ twoRings_wellFormed rfl perm⟩

end PipelineScript
