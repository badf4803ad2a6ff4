/-
# What a node finds upstream

A node that is generated is told what became of the sources of the edges into it.
That they have been dealt with is the order's doing, but the order is one of
positions: edges are read as arcs between the last positions of their ids, while
the walk asks for the sources of an id whichever position it has come to.  So an
id that is repeated is supplied when its last node is generated, and an earlier
one may come before the sources (`upstream_not_generated`).

Of the nodes with one id the last one is placed last: nothing leads to the
positions of the others, so they are never waited for
(`position?_of_no_copy_left`).  Hence a node is fed if no node with its id is still
to come, and `.notGenerated` is not among the answers that it gets
(`upstream_generated`).
-/
import PipelineScript.Catalog.Standard
import PipelineScript.Proofs.Compile.Wiring

namespace PipelineScript

namespace Graph

variable {g : Graph}

/-! ## Repeated ids in the order -/

section Placed
variable {arcs : List (Nat × Nat)} (h : g.arcs = .ok arcs) {steps : Nat} {js ks : List Nat}
  {i : Nat} (placed : (place steps (List.range g.nodes.length) arcs).placed = js ++ i :: ks)
include h placed

theorem le_of_placed_behind {id : String} {p : Nat} (hp : g.position? id = some p)
    (hi : g.ids[i]? = some id) (behind : p ∈ js) : i = p := by
  obtain ⟨js, between, rfl⟩ := List.append_of_mem behind
  have placed' : (place steps (List.range g.nodes.length) arcs).placed =
      js ++ p :: (between ++ i :: ks) := by
    rw [placed, List.append_assoc, List.cons_append]
  have perm := place_perm steps (List.range g.nodes.length) arcs
  have once := (List.nodup_append.mp (perm.nodup_iff.mpr List.nodup_range)).1
  have pool : i ∈ List.range g.nodes.length :=
    perm.subset (List.mem_append_left _ (placed ▸ List.mem_append_right _ List.mem_cons_self))
  have unplaced : i ∉ js := by
    intro hjs
    rw [placed'] at once
    exact List.disjoint_of_nodup_append once hjs
      (List.mem_cons_of_mem _ (List.mem_append_right _ List.mem_cons_self))
  by_contra hne
  -- arcs lead to the last position of an id only, so `i` was ready all along
  have ready : Supplied arcs js i := by
    intro a ha hai
    obtain ⟨e, -, -, ht⟩ := exists_edge_of_arc h ha
    rw [hai] at ht
    have hid : e.target = id := Option.some.inj ((getElem?_of_position? ht).symm.trans hi)
    exact absurd (Option.some.inj (ht.symm.trans (hid ▸ hp))) hne
  have later : p ≤ i := place_earliest List.pairwise_lt_range placed' pool unplaced ready
  exact hne (Nat.le_antisymm (le_of_lastIndex? hp hi) later)

/-- If no node with this id is left, it is the last one of them. -/
theorem position?_of_no_copy_left
    (done : (place steps (List.range g.nodes.length) arcs).pool = []) {n : Node}
    (hi : g.nodes[i]? = some n) (last : n.id ∉ (g.nodesAt ks).map (·.id)) :
    g.position? n.id = some i := by
  have hid := getElem?_ids hi
  obtain ⟨p, hp⟩ := exists_position (List.mem_of_getElem? hid)
  have perm := place_perm steps (List.range g.nodes.length) arcs
  rw [done, List.append_nil, placed] at perm
  have somewhere : p ∈ js ++ i :: ks :=
    perm.symm.subset (List.mem_range.mpr (position?_lt hp))
  rcases List.mem_append.mp somewhere with behind | here
  · rw [le_of_placed_behind h placed hp hid behind]
    exact hp
  · rcases List.mem_cons.mp here with rfl | ahead
    · exact hp
    · have hm := List.getElem?_eq_getElem (position?_lt hp)
      have same := Option.some.inj ((getElem?_ids hm).symm.trans (getElem?_of_position? hp))
      exact absurd (List.mem_map.mpr ⟨_, mem_nodesAt.mpr ⟨p, ahead, hm⟩, same⟩) last

end Placed

/-- Whatever the ids, the last node of an id stands behind the sources of the edges
into it. -/
theorem fed_of_no_copy_left {before after : List Node} {n : Node}
    (order : g.order = .ok (before ++ n :: after)) (last : n.id ∉ after.map (·.id)) :
    g.Fed before n := by
  obtain ⟨arcs, ha⟩ := exists_arcs_of_order order
  obtain ⟨done, split⟩ := (order_eq_ok_iff ha).mp order
  obtain ⟨js, i, ks, placed, rfl, hi, rfl⟩ := nodesAt_split split.symm
  exact fed_of_supplied ha (position?_of_no_copy_left ha placed done hi last)
    (place_supplied placed)

end Graph

namespace Compile

variable {r : Registry} {g : Graph}

/-! ## What the node is told -/

/-- All sources of edges into the node have been dealt with: they have outcomes,
they are among the fragments or the skipped nodes, and no component is told that
one of them is still to come. -/
structure Walk.Covers (w : Walk) (g : Graph) (n : Node) : Prop where
  outcome : ∀ e ∈ g.edges, e.target = n.id → ∃ o, w.outcomes.lookup e.source = some o
  dealt : ∀ e ∈ g.edges, e.target = n.id →
    e.source ∈ w.fragments.map (·.node) ∨ e.source ∈ w.skipped.map (·.node)
  told : ∀ (c : Component) (source : String),
    .unavailable source .notGenerated ∉ (w.site g c n).feeds

theorem feedOf_some_ne (e : Edge) (o : Outcome) (source : String) :
    feedOf g e (some o) ≠ .unavailable source .notGenerated := by
  intro h
  cases o with
  | skipped reason => cases h
  | emitted outputs =>
      simp only [feedOf] at h
      split at h <;> cases h

theorem feedAt_ne_of_outcome {outcomes : List (String × Outcome)} {id : String}
    (outcome : ∀ e ∈ g.edges, e.target = id → ∃ o, outcomes.lookup e.source = some o)
    (port source : String) :
    feedAt g outcomes id port ≠ .unavailable source .notGenerated := by
  rw [feedAt]
  cases found : (g.incoming id).find? (·.targetPort == port) with
  | none =>
      intro h
      cases h
  | some e =>
      obtain ⟨he, htarget⟩ := Graph.mem_of_mem_incoming (List.mem_of_find?_eq_some found)
      obtain ⟨o, ho⟩ := outcome e he htarget
      show feedOf g e (outcomes.lookup e.source) ≠ _
      rw [ho]
      exact feedOf_some_ne e o source

theorem covers_of_fed {before : List Node} {n : Node} {w : Walk}
    (reached : Walk.visitAll r g {} before = .ok w) (fed : g.Fed before n) : w.Covers g n := by
  have books := accounts_of_visitAll reached
  have outcome : ∀ e ∈ g.edges, e.target = n.id → ∃ o, w.outcomes.lookup e.source = some o := by
    intro e he htarget
    exact books.exists_lookup (fed e he htarget)
  refine ⟨outcome, ?_, ?_⟩
  · intro e he htarget
    exact List.mem_append.mp (books.all.symm.subset (fed e he htarget))
  · intro c source hmem
    obtain ⟨port, -, hport⟩ := List.mem_map.mp hmem
    exact feedAt_ne_of_outcome outcome port source hport

end Compile

open Compile

/-- **Sources are generated first**, as long as no node with the same id is still to
come: then all sources of edges into a node that the walk has come to were emitted or
skipped.  In a graph without repeated ids that is every node. -/
theorem upstream_generated (r : Registry) (g : Graph) :
    (∀ before n after w, g.order = .ok (before ++ n :: after) → n.id ∉ after.map (·.id) →
        Walk.visitAll r g {} before = .ok w → w.Covers g n) ∧
      (g.ids.Nodup → ∀ t ∈ stages r g, t.walk.Covers g t.node) := by
  have covers : ∀ before n after w, g.order = .ok (before ++ n :: after) →
      n.id ∉ after.map (·.id) → Walk.visitAll r g {} before = .ok w → w.Covers g n := by
    intro before n after w order last reached
    exact covers_of_fed reached (Graph.fed_of_no_copy_left order last)
  refine ⟨covers, fun distinct t ht => ?_⟩
  obtain ⟨before, after, order, reached⟩ := reaches_of_mem_stages ht
  have once := Graph.order_ids_nodup distinct order
  rw [List.map_append, List.map_cons] at once
  exact covers before t.node after t.walk order
    (List.nodup_cons.mp (List.nodup_append.mp once).2.1).1 reached

/-- A file, read by a node that has the id of another file. -/
def reusedId : Graph where
  nodes := [⟨"x", "csvFileInput", .obj [("filePath", .str "x.csv")], [], ["out"]⟩,
    ⟨"s", "csvFileInput", .obj [("filePath", .str "s.csv")], [], ["out"]⟩,
    ⟨"x", "filterRows", .obj [("condition", .str "a > 0")], ["in"], ["out"]⟩]
  edges := [⟨"s", "out", "x", "in"⟩]

theorem upstream_generated_reusedId :
    ∃ before n after w, reusedId.order = .ok (before ++ n :: after) ∧ n.inputs = ["in"] ∧
      n.id ∉ after.map (·.id) ∧
      Walk.visitAll Registry.standard reusedId {} before = .ok w ∧ w.Covers reusedId n := by
  have order : reusedId.order = .ok (reusedId.nodes.take 2 ++ reusedId.nodes[2] :: []) := by rfl
  have last : reusedId.nodes[2].id ∉ ([] : List Node).map (·.id) := List.not_mem_nil
  obtain ⟨w, reached⟩ : ∃ w, Walk.visitAll Registry.standard reusedId {} (reusedId.nodes.take 2) =
      .ok w := ⟨_, rfl⟩
  exact ⟨_, _, _, w, order, rfl, last, reached,
    (upstream_generated Registry.standard reusedId).1 _ _ _ _ order last reached⟩

/-- One node twice, and between its copies the source that it reads. -/
def copiedNode : Graph where
  nodes := [⟨"x", "filterRows", .obj [("condition", .str "a > 0")], ["in"], ["out"]⟩,
    ⟨"s", "csvFileInput", .obj [("filePath", .str "in.csv")], [], ["out"]⟩,
    ⟨"x", "filterRows", .obj [("condition", .str "a > 0")], ["in"], ["out"]⟩]
  edges := [⟨"s", "out", "x", "in"⟩]

/-- The first copy is generated before its source. -/
theorem upstream_not_generated :
    copiedNode.order = .ok copiedNode.nodes ∧
      (∃ t ∈ stages Registry.standard copiedNode, ∃ e ∈ copiedNode.edges,
        e.target = t.node.id ∧ t.walk.outcomes.lookup e.source = none ∧
          (t.site copiedNode).feeds = [.unavailable "s" .notGenerated]) ∧
      compile Registry.standard none copiedNode =
        .error (.incomplete "s" (.upstream .notGenerated "x")) := by
  have order : copiedNode.order = .ok copiedNode.nodes := by rfl
  have first : stages Registry.standard copiedNode =
      [⟨{}, copiedNode.nodes[0], Catalog.filterRows⟩] := by with_unfolding_all rfl
  refine ⟨order, ⟨_, first ▸ List.mem_cons_self, _, List.mem_cons_self, ?_⟩, ?_⟩
  · exact ⟨rfl, by with_unfolding_all rfl, by with_unfolding_all rfl⟩
  · with_unfolding_all rfl

end PipelineScript
