/-
# A new node at the end

A node that was inserted last, and that has edges into it only, is a newcomer of
the larger graph (`Newcomer`).  However early it is ready, it comes last in the
order, and the nodes before it stand as they did without it (`order_append`): the
smaller graph is the larger one cut down to what was there, and among the nodes
that are ready the latest one is never preferred.

The editor makes such graphs (`Grown`), and so does putting a node behind all
that it depends on (`newcomer_joined`).
-/
import PipelineScript.Proofs.Graph.Editing
import PipelineScript.Proofs.Graph.Upstream

namespace PipelineScript.Graph

variable {g g' : Graph} {n : Node}

/-- What becomes of a graph when a node is inserted and nodes that were there
are connected to it, some of the calls perhaps in vain. -/
inductive Grown (g : Graph) (n : Node) : Graph → Prop
  | insert {h : Graph} : (insertNode n).run g = .ok () h → Grown g n h
  | connect {h : Graph} (source sourcePort targetPort : String) :
      Grown g n h → source ∈ g.ids →
        Grown g n (h.edit (.connect source sourcePort n.id targetPort)).2

/-- The larger graph has one more node, behind all others, and more edges only
from these to it. -/
structure Newcomer (g : Graph) (n : Node) (g' : Graph) : Prop where
  smaller : g.WellFormed
  larger : g'.WellFormed
  nodes : g'.nodes = g.nodes ++ [n]
  edges : ∃ inflow, g'.edges = g.edges ++ inflow ∧
    ∀ e ∈ inflow, e.source ∈ g.ids ∧ e.target = n.id

/-! ## Inserting and connecting -/

/-- Edges into other nodes are not touched when a port is freed. -/
theorem freePort_of_target_ne {edges : List Edge} {target port : String}
    (h : ∀ e ∈ edges, e.target ≠ target) : freePort edges target port = edges := by
  refine List.filter_eq_self.mpr fun e he => ?_
  simp [h e he]

theorem Newcomer.connect {h : Graph} (late : Newcomer g n h) (new : n.id ∉ g.ids)
    {source sourcePort targetPort : String} (hsource : source ∈ g.ids)
    (hok : (Graph.connect source sourcePort n.id targetPort).run h = .ok () g') :
    Newcomer g n g' := by
  have larger := late.larger.connect hok
  obtain ⟨-, -, rfl⟩ := connect_eq_ok_iff.mp hok
  obtain ⟨inflow, hedges, hinflow⟩ := late.edges
  have kept : freePort g.edges n.id targetPort = g.edges := by
    refine freePort_of_target_ne fun e he same => ?_
    exact new (same ▸ (late.smaller.joins e he).2)
  refine ⟨late.smaller, larger, late.nodes,
    freePort inflow n.id targetPort ++ [⟨source, sourcePort, n.id, targetPort⟩], ?_, ?_⟩
  · show freePort h.edges n.id targetPort ++ _ = _
    rw [hedges, freePort, List.filter_append, List.append_assoc]
    exact congrArg (· ++ _) kept
  · intro e he
    rcases List.mem_append.mp he with he | he
    · exact hinflow e (mem_freePort.mp he).1
    · obtain rfl := List.mem_singleton.mp he
      exact ⟨hsource, rfl⟩

theorem Grown.not_mem (grown : g.Grown n g') : n.id ∉ g.ids := by
  induction grown with
  | insert hok => exact (insertNode_eq_ok_iff.mp hok).1
  | connect _ _ _ _ _ ih => exact ih

theorem Grown.newcomer (wf : g.WellFormed) (grown : g.Grown n g') : Newcomer g n g' := by
  induction grown with
  | insert hok =>
      have larger := wf.insertNode hok
      obtain ⟨-, rfl⟩ := insertNode_eq_ok_iff.mp hok
      exact ⟨wf, larger, rfl, [], (List.append_nil _).symm, by simp⟩
  | @connect h source sourcePort targetPort grown hsource ih =>
      rcases h.edit_cases (.connect source sourcePort n.id targetPort) with same | ⟨answer, hdone⟩
      · exact same.symm ▸ ih
      · obtain ⟨_, hok⟩ := exists_of_answer hdone
        exact ih.connect grown.not_mem hsource hok

/-! ## A node behind all that it depends on -/

/-- The graph with one more node, and edges into it. -/
def joined (g : Graph) (n : Node) (inflow : List Edge) : Graph where
  nodes := g.nodes ++ [n]
  edges := g.edges ++ inflow

theorem WellFormed.joined (wf : g.WellFormed) (new : n.id ∉ g.ids) {inflow : List Edge}
    (source : ∀ e ∈ inflow, ∃ m ∈ g.nodes, m.id = e.source ∧ e.sourcePort ∈ m.outputs)
    (target : ∀ e ∈ inflow, e.target = n.id ∧ e.targetPort ∈ n.inputs)
    (single : (inflow.map fun e => (e.target, e.targetPort)).Nodup) :
    (g.joined n inflow).WellFormed where
  distinct := (wf.append new).distinct
  source e he := by
    have found := (List.mem_append.mp he).elim (wf.source e) (source e)
    obtain ⟨m, hm, hport⟩ := found
    exact ⟨m, List.mem_append_left _ hm, hport⟩
  target e he := by
    rcases List.mem_append.mp he with he | he
    · obtain ⟨m, hm, hport⟩ := wf.target e he
      exact ⟨m, List.mem_append_left _ hm, hport⟩
    · obtain ⟨ht, hport⟩ := target e he
      exact ⟨n, List.mem_append_right _ List.mem_cons_self, ht.symm, hport⟩
  single := by
    show ((g.edges ++ inflow).map _).Nodup
    rw [List.map_append]
    refine List.nodup_append.mpr ⟨wf.single, single, ?_⟩
    -- the edges that were there arrive at other nodes
    rintro _ ha _ hb rfl
    obtain ⟨d, hd, rfl⟩ := List.mem_map.mp ha
    obtain ⟨e, he, heq⟩ := List.mem_map.mp hb
    have same : d.target = n.id := (Prod.mk.inj heq).1.symm.trans (target e he).1
    exact new (same ▸ (wf.joins d hd).2)

/-- In a part of the graph that holds all sources of the node, the node with its
edges is a newcomer. -/
theorem newcomer_joined {keep : List String} (wf : g.WellFormed) (hn : n ∈ g.nodes)
    (out : n.id ∉ keep) (fed : ∀ e ∈ g.edges, e.target = n.id → e.source ∈ keep) :
    Newcomer (g.cut keep) n ((g.cut keep).joined n (g.incoming n.id)) := by
  have smaller := wf.cut keep
  have new : n.id ∉ (g.cut keep).ids := by
    intro h
    rw [cut_ids] at h
    exact out (by simpa using (List.mem_filter.mp h).2)
  have source : ∀ e ∈ g.incoming n.id,
      ∃ m ∈ (g.cut keep).nodes, m.id = e.source ∧ e.sourcePort ∈ m.outputs := by
    intro e he
    obtain ⟨he, ht⟩ := mem_of_mem_incoming he
    obtain ⟨m, hm, hid, hport⟩ := wf.source e he
    exact ⟨m, mem_cut_nodes.mpr ⟨hm, hid ▸ fed e he ht⟩, hid, hport⟩
  have target : ∀ e ∈ g.incoming n.id, e.target = n.id ∧ e.targetPort ∈ n.inputs := by
    intro e he
    obtain ⟨he, ht⟩ := mem_of_mem_incoming he
    obtain ⟨m, hm, hid, hport⟩ := wf.target e he
    obtain rfl := eq_of_id_eq wf.distinct hm hn (hid.trans ht)
    exact ⟨ht, hport⟩
  have arrivals := (incoming_perm (mem_ids hn)).map fun e => (e.target, e.targetPort)
  have single := arrivals.nodup_iff.mpr ((List.filter_sublist.map _).nodup wf.single)
  refine ⟨smaller, smaller.joined new source target single, rfl, g.incoming n.id, rfl, ?_⟩
  intro e he
  obtain ⟨m, hm, hid, -⟩ := source e he
  exact ⟨hid ▸ mem_ids hm, (target e he).1⟩

/-! ## The smaller graph in the larger one -/

namespace Newcomer
variable (late : Newcomer g n g')
include late

theorem ids : g'.ids = g.ids ++ [n.id] := by
  rw [Graph.ids, late.nodes, List.map_append]
  rfl

theorem not_mem : n.id ∉ g.ids := by
  have distinct := late.larger.distinct
  rw [late.ids] at distinct
  exact fun h => List.disjoint_of_nodup_append distinct h List.mem_cons_self

theorem mem_nodes : n ∈ g'.nodes := by
  rw [late.nodes]
  exact List.mem_append_right _ List.mem_cons_self

theorem source_mem {e : Edge} (he : e ∈ g'.edges) : e.source ∈ g.ids := by
  obtain ⟨inflow, hedges, hinflow⟩ := late.edges
  rcases List.mem_append.mp (hedges ▸ he) with he | he
  · exact (late.smaller.joins e he).1
  · exact (hinflow e he).1

theorem sourceClosed : g'.SourceClosed g.ids :=
  fun _ he _ => late.source_mem he

theorem filter_nodes {ms : List Node} (h : ∀ m ∈ ms, m ∈ g.nodes) :
    (ms ++ [n]).filter (fun m => g.ids.contains m.id) = ms := by
  have new := late.not_mem
  rw [List.filter_append, List.filter_eq_self.mpr fun m hm => by simpa using mem_ids (h m hm)]
  simpa using new

theorem cut_eq : g'.cut g.ids = g := by
  obtain ⟨inflow, hedges, hinflow⟩ := late.edges
  have old : g.edges.filter (fun e => g.ids.contains e.source && g.ids.contains e.target) =
      g.edges := by
    refine List.filter_eq_self.mpr fun e he => ?_
    obtain ⟨hs, ht⟩ := late.smaller.joins e he
    simp [hs, ht]
  have new : inflow.filter (fun e => g.ids.contains e.source && g.ids.contains e.target) =
      [] := by
    refine List.filter_eq_nil_iff.mpr fun e he => ?_
    have ht : e.target ∉ g.ids := (hinflow e he).2 ▸ late.not_mem
    simp [ht]
  rw [cut, late.nodes, hedges, late.filter_nodes fun m hm => hm, List.filter_append, old, new,
    List.append_nil]

/-! ## The order -/

theorem rank_le {m : Node} (hm : m ∈ g'.nodes) : g'.rank m ≤ g'.rank n := by
  have last : g'.rank n = g.ids.length := by
    rw [rank, late.ids, List.idxOf_append_of_notMem late.not_mem, List.idxOf_cons_self]
    rfl
  have hlt : g'.rank m < g'.ids.length := List.idxOf_lt_length_of_mem (mem_ids hm)
  rw [late.ids, List.length_append, List.length_singleton] at hlt
  rw [last]
  exact Nat.le_of_lt_succ hlt

theorem no_circles (acyclic : ∀ id, ¬ Relation.TransGen g.Flows id id) (id : String) :
    ¬ Relation.TransGen g'.Flows id id := by
  intro path
  obtain ⟨_, ⟨e, he, rfl, -⟩, -⟩ := Relation.TransGen.head'_iff.mp path
  have part := late.sourceClosed.transGen_cut path (late.source_mem he)
  rw [late.cut_eq] at part
  exact acyclic _ part

/-- What stands behind the new node could have stood before it. -/
theorem eq_nil_of_order {before after : List Node}
    (h : g'.order = .ok (before ++ n :: after)) : after = [] := by
  have canonical := isCanonical_of_order late.larger.distinct h
  have nodup := canonical.perm.nodup_iff.mpr (nodes_nodup late.larger.distinct)
  cases after with
  | nil => rfl
  | cons m after =>
      have hm : m ∈ g'.nodes := canonical.perm.subset (by simp)
      have fed : g'.Fed before m := by
        intro e he ht
        have hfed := canonical.forward (before ++ [n]) m after (by simp) e he ht
        rw [List.map_append] at hfed
        refine (List.mem_append.mp hfed).resolve_right fun own => ?_
        have own : e.source = n.id := List.mem_singleton.mp own
        exact late.not_mem (own ▸ late.source_mem he)
      have hnew : m ∉ before := fun hb =>
        List.disjoint_of_nodup_append nodup hb (by simp)
      have hle := canonical.earliest before n (m :: after) rfl m hm hnew fed
      have same := rank_inj late.larger.distinct hm late.mem_nodes
        (Nat.le_antisymm (late.rank_le hm) hle)
      have distinct := (List.nodup_append.mp nodup).2.1
      exact absurd (same ▸ List.mem_cons_self) (List.nodup_cons.mp distinct).1

/-- **A new node comes last**, and the others stand as they did without it. -/
theorem order_append {ns : List Node} (h : g.order = .ok ns) : g'.order = .ok (ns ++ [n]) := by
  have acyclic := late.no_circles (no_circles_of_order late.smaller.joins h)
  obtain ⟨ms, hms⟩ := exists_order_of_no_circles late.larger.joins acyclic
  have hn : n ∈ ms := (order_perm hms).symm.subset late.mem_nodes
  obtain ⟨before, after, rfl⟩ := List.append_of_mem hn
  obtain rfl := late.eq_nil_of_order hms
  have part := order_cut late.larger late.sourceClosed hms
  have perm : (before ++ [n]).Perm (g.nodes ++ [n]) := late.nodes ▸ order_perm hms
  have others := ((List.perm_append_right_iff [n]).mp perm).subset
  rw [late.cut_eq, late.filter_nodes fun m hm => others hm] at part
  rw [hms, Except.ok.inj (part.symm.trans h)]

end Newcomer

end PipelineScript.Graph
