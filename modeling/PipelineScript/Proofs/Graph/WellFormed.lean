/-
# Graphs as the editor builds them

Documents may repeat ids and leave edges dangling; a graph that was built by
editing does not (`WellFormed`).  In such a graph an input port has at most
one edge, so looking one up in `incoming` finds the edge or there is none
(`find_incoming_eq_some_iff`, `find_incoming_eq_none_iff`).
-/
import PipelineScript.Proofs.Graph.Order

namespace PipelineScript.Graph

variable {g : Graph}

/-- Ids are distinct, edges join ports that exist, and no two edges arrive at
the same port. -/
structure WellFormed (g : Graph) : Prop where
  distinct : g.ids.Nodup
  source : ∀ e ∈ g.edges, ∃ n ∈ g.nodes, n.id = e.source ∧ e.sourcePort ∈ n.outputs
  target : ∀ e ∈ g.edges, ∃ n ∈ g.nodes, n.id = e.target ∧ e.targetPort ∈ n.inputs
  single : (g.edges.map fun e => (e.target, e.targetPort)).Nodup

/-- The edge arrives at this port of the node. -/
def Into (g : Graph) (n : Node) (port : String) (e : Edge) : Prop :=
  e ∈ g.edges ∧ e.target = n.id ∧ e.targetPort = port

theorem WellFormed.into_unique (wf : g.WellFormed) {n : Node} {port : String} {e d : Edge}
    (he : g.Into n port e) (hd : g.Into n port d) : e = d :=
  List.inj_on_of_nodup_map wf.single he.1 hd.1
    (Prod.ext (he.2.1.trans hd.2.1.symm) (he.2.2.trans hd.2.2.symm))

theorem WellFormed.joins (wf : g.WellFormed) : ∀ e ∈ g.edges, g.Joins e := by
  intro e he
  obtain ⟨n, hn, hs, -⟩ := wf.source e he
  obtain ⟨m, hm, ht, -⟩ := wf.target e he
  exact ⟨hs ▸ mem_ids hn, ht ▸ mem_ids hm⟩

/-! ## Looking up nodes -/

theorem node?_eq_some_iff (distinct : g.ids.Nodup) {id : String} {n : Node} :
    g.node? id = some n ↔ n ∈ g.nodes ∧ n.id = id := by
  constructor
  · intro h
    exact ⟨List.mem_of_find?_eq_some h, by simpa using List.find?_some h⟩
  · rintro ⟨hn, rfl⟩
    cases h : g.node? n.id with
    | none => exact absurd (List.find?_eq_none.mp h n hn) (by simp)
    | some m =>
        have hm : m ∈ g.nodes := List.mem_of_find?_eq_some h
        have hid : m.id = n.id := by simpa using List.find?_some h
        rw [eq_of_id_eq distinct hm hn hid]

theorem node?_isSome_iff {id : String} : (g.node? id).isSome ↔ id ∈ g.ids := by
  simp [node?, ids]

/-! ## Looking up edges -/

theorem mem_incoming {id : String} (h : id ∈ g.ids) {e : Edge} :
    e ∈ g.incoming id ↔ e ∈ g.edges ∧ e.target = id := by
  obtain ⟨n, hn⟩ := Option.isSome_iff_exists.mp (node?_isSome_iff.mpr h)
  simp [incoming, hn]

theorem mem_of_mem_incoming {id : String} {e : Edge} (h : e ∈ g.incoming id) :
    e ∈ g.edges ∧ e.target = id := by
  have hid : id ∈ g.ids := by
    by_contra missing
    have none : g.node? id = none := by
      simpa using mt node?_isSome_iff.mp missing
    simp [incoming, none] at h
  exact (mem_incoming hid).mp h

theorem find_incoming_eq_some_iff (wf : g.WellFormed) {n : Node} (hn : n ∈ g.nodes)
    {port : String} {e : Edge} :
    (g.incoming n.id).find? (·.targetPort == port) = some e ↔ g.Into n port e := by
  constructor
  · intro h
    obtain ⟨he, ht⟩ := (mem_incoming (mem_ids hn)).mp (List.mem_of_find?_eq_some h)
    exact ⟨he, ht, by simpa using List.find?_some h⟩
  · intro he
    cases h : (g.incoming n.id).find? (·.targetPort == port) with
    | none =>
        have hmem := (mem_incoming (mem_ids hn)).mpr ⟨he.1, he.2.1⟩
        exact absurd (List.find?_eq_none.mp h e hmem) (by simp [he.2.2])
    | some d =>
        obtain ⟨hd, ht⟩ := (mem_incoming (mem_ids hn)).mp (List.mem_of_find?_eq_some h)
        have hp : d.targetPort = port := by simpa using List.find?_some h
        rw [wf.into_unique ⟨hd, ht, hp⟩ he]

theorem find_incoming_eq_none_iff {n : Node} (hn : n ∈ g.nodes) {port : String} :
    (g.incoming n.id).find? (·.targetPort == port) = none ↔ ∀ e, ¬ g.Into n port e := by
  rw [List.find?_eq_none]
  constructor
  · rintro h e ⟨he, ht, hp⟩
    exact h e ((mem_incoming (mem_ids hn)).mpr ⟨he, ht⟩) (by simp [hp])
  · intro h e he hp
    obtain ⟨he, ht⟩ := (mem_incoming (mem_ids hn)).mp he
    exact h e ⟨he, ht, by simpa using hp⟩

end PipelineScript.Graph
