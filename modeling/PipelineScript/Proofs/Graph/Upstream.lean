/-
# The part of a graph upstream of a node

`upstream?` keeps the ancestors of a node and the edges between them, whatever
the graph is like (`upstream_exact`): there may be cycles, and edges may lead
from and to nodes that are not there.

If the node lies on no cycle, its ancestors are closed under sources
(`SourceClosed`): an edge into one of them comes from one of them.  So the part
keeps every edge into the nodes that it keeps, and what feeds these is what feeds
them in the whole graph.

The order of the part is the order of the whole, restricted to it (`order_cut`,
`order_upstream`).  This holds because the order is canonical: the restriction is
an order of the part and no place in it could have been taken by an earlier
node, and only one list is like that.
-/
import PipelineScript.Graph.Ancestors
import PipelineScript.Proofs.Graph.Reach
import PipelineScript.Proofs.Graph.WellFormed

namespace PipelineScript.Graph

variable {g : Graph} {keep : List String}

/-- The graph on some of its nodes. -/
def cut (g : Graph) (keep : List String) : Graph where
  nodes := g.nodes.filter fun n => keep.contains n.id
  edges := g.edges.filter fun e => keep.contains e.source && keep.contains e.target

/-- What flows into one of these nodes comes from one of them. -/
def SourceClosed (g : Graph) (keep : List String) : Prop :=
  ∀ e ∈ g.edges, e.target ∈ keep → e.source ∈ keep

/-! ## Ancestors -/

theorem upstream?_eq (g : Graph) (id : String) :
    g.upstream? id = (g.ancestors? id).map g.cut :=
  rfl

theorem mem_ids_of_upstream? {id : String} {part : Graph} (h : g.upstream? id = some part) :
    id ∈ g.ids := by
  by_contra missing
  have absent : ¬ g.contains id = true := mt node?_isSome_iff.mp missing
  rw [upstream?_eq, ancestors?, if_neg absent] at h
  cases h

/-- Another node from which data flows to this one, in one or more steps. -/
def IsAncestor (g : Graph) (other id : String) : Prop :=
  other ≠ id ∧ Relation.TransGen g.Flows other id

theorem mem_reached_backwardArcs {id other : String} :
    other ∈ reached g.backwardArcs id ↔ g.IsAncestor other id := by
  have backward : (fun x y => (x, y) ∈ g.backwardArcs) = Function.swap g.Flows := by
    funext x y
    simp only [backwardArcs, List.mem_map, Prod.mk.injEq, Function.swap, Flows, eq_iff_iff]
    exact exists_congr fun e => and_congr_right fun _ => and_comm
  rw [mem_reached_iff, backward, Relation.transGen_swap, IsAncestor]

instance (g : Graph) (other id : String) : Decidable (g.IsAncestor other id) :=
  decidable_of_iff (other ∈ reached g.backwardArcs id) mem_reached_backwardArcs

theorem ancestors?_eq {id : String} (hid : id ∈ g.ids) :
    g.ancestors? id = some (g.ids.filter fun other => g.IsAncestor other id) := by
  have found : g.contains id = true := node?_isSome_iff.mpr hid
  rw [ancestors?, if_pos found]
  refine congrArg some (List.filter_congr fun other _ => ?_)
  rw [Bool.eq_iff_iff, decide_eq_true_iff, List.contains_iff_mem, mem_reached_backwardArcs]

/-- In a graph without circles the ancestors of a node are all nodes from which
data flows to it. -/
theorem exists_ancestors (joins : ∀ e ∈ g.edges, g.Joins e)
    (acyclic : ∀ id, ¬ Relation.TransGen g.Flows id id) {id : String} (hid : id ∈ g.ids) :
    ∃ keep, g.ancestors? id = some keep ∧
      ∀ other, other ∈ keep ↔ Relation.TransGen g.Flows other id := by
  refine ⟨_, ancestors?_eq hid, fun other => ?_⟩
  rw [List.mem_filter, decide_eq_true_iff]
  constructor
  · exact fun h => h.2.2
  · intro path
    obtain ⟨_, ⟨e, he, hsource, -⟩, -⟩ := Relation.TransGen.head'_iff.mp path
    exact ⟨hsource ▸ (joins e he).1, fun same => acyclic id (same ▸ path), path⟩

theorem sourceClosed_of_flows {id : String}
    (h : ∀ other, other ∈ keep ↔ Relation.TransGen g.Flows other id) : g.SourceClosed keep :=
  fun e he ht => (h _).mpr (.head ⟨e, he, rfl, rfl⟩ ((h _).mp ht))

/-! ## Nodes and edges of a part -/

theorem mem_cut_nodes {n : Node} : n ∈ (g.cut keep).nodes ↔ n ∈ g.nodes ∧ n.id ∈ keep := by
  simp [cut]

theorem mem_cut_edges {e : Edge} :
    e ∈ (g.cut keep).edges ↔ e ∈ g.edges ∧ e.source ∈ keep ∧ e.target ∈ keep := by
  simp [cut]

theorem cut_ids (g : Graph) (keep : List String) :
    (g.cut keep).ids = g.ids.filter fun id => keep.contains id := by
  rw [ids, ids, List.filter_map]
  rfl

theorem WellFormed.cut (wf : g.WellFormed) (keep : List String) : (g.cut keep).WellFormed where
  distinct := cut_ids g keep ▸ wf.distinct.filter _
  source e he := by
    obtain ⟨he, hs, -⟩ := mem_cut_edges.mp he
    obtain ⟨n, hn, hid, hport⟩ := wf.source e he
    exact ⟨n, mem_cut_nodes.mpr ⟨hn, hid ▸ hs⟩, hid, hport⟩
  target e he := by
    obtain ⟨he, -, ht⟩ := mem_cut_edges.mp he
    obtain ⟨n, hn, hid, hport⟩ := wf.target e he
    exact ⟨n, mem_cut_nodes.mpr ⟨hn, hid ▸ ht⟩, hid, hport⟩
  single := (List.filter_sublist.map _).nodup wf.single

theorem flows_of_cut {a b : String} (h : (g.cut keep).Flows a b) : g.Flows a b := by
  obtain ⟨e, he, hs, ht⟩ := h
  exact ⟨e, (mem_cut_edges.mp he).1, hs, ht⟩

theorem cut_node? (distinct : g.ids.Nodup) {id : String} (hid : id ∈ keep) :
    (g.cut keep).node? id = g.node? id := by
  have distinct' : (g.cut keep).ids.Nodup := cut_ids g keep ▸ distinct.filter _
  refine Option.ext fun n => ?_
  rw [node?_eq_some_iff distinct', node?_eq_some_iff distinct, mem_cut_nodes]
  constructor
  · rintro ⟨⟨hn, -⟩, rfl⟩
    exact ⟨hn, rfl⟩
  · rintro ⟨hn, rfl⟩
    exact ⟨⟨hn, hid⟩, rfl⟩

section Closed
variable (closed : g.SourceClosed keep)
include closed

theorem cut_fed {before : List Node} {n : Node} (hn : n.id ∈ keep)
    (h : (g.cut keep).Fed (before.filter fun m => keep.contains m.id) n) : g.Fed before n := by
  intro e he ht
  have hs := closed e he (ht ▸ hn)
  have hmem := h e (mem_cut_edges.mpr ⟨he, hs, ht ▸ hn⟩) ht
  exact (List.filter_sublist.map _).subset hmem

theorem incoming_cut (distinct : g.ids.Nodup) {id : String} (hid : id ∈ keep) :
    (g.cut keep).incoming id = g.incoming id := by
  have edges : (g.cut keep).edges.filter (·.target == id) = g.edges.filter (·.target == id) := by
    rw [cut, List.filter_filter]
    refine List.filter_congr fun e he => ?_
    by_cases ht : e.target = id
    · have hs := closed e he (ht ▸ hid)
      simp [ht, hs, hid]
    · simp [ht]
  rw [incoming, incoming, edges, cut_node? distinct hid]

theorem SourceClosed.transGen_cut {a b : String} (path : Relation.TransGen g.Flows a b)
    (hb : b ∈ keep) : Relation.TransGen (g.cut keep).Flows a b := by
  have step : ∀ {x y : String}, g.Flows x y → y ∈ keep → x ∈ keep ∧ (g.cut keep).Flows x y := by
    rintro _ _ ⟨e, he, rfl, rfl⟩ ht
    have hs := closed e he ht
    exact ⟨hs, e, mem_cut_edges.mpr ⟨he, hs, ht⟩, rfl, rfl⟩
  induction path with
  | single flow => exact .single (step flow hb).2
  | tail _ flow ih =>
      obtain ⟨hkeep, hflow⟩ := step flow hb
      exact (ih hkeep).tail hflow

end Closed

theorem fed_cut {before : List Node} {n : Node} (h : g.Fed before n) :
    (g.cut keep).Fed (before.filter fun m => keep.contains m.id) n := by
  intro e he ht
  obtain ⟨he, hs, -⟩ := mem_cut_edges.mp he
  obtain ⟨m, hm, hid⟩ := List.mem_map.mp (h e he ht)
  have hkeep : m.id ∈ keep := hid ▸ hs
  exact List.mem_map.mpr ⟨m, List.mem_filter.mpr ⟨hm, by simpa using hkeep⟩, hid⟩

/-! ## The part upstream of a node -/

/-- The part holds the nodes from which data flows to this one, and exactly the
edges between them. -/
structure IsUpstream (g : Graph) (id : String) (part : Graph) : Prop where
  nodes : part.nodes = g.nodes.filter fun n => g.IsAncestor n.id id
  edges : part.edges = g.edges.filter fun e => e.source ∈ part.ids ∧ e.target ∈ part.ids
  /-- Off the cycles, what flows into a node of the part still flows there. -/
  inflow : ¬Relation.TransGen g.Flows id id →
    ∀ e ∈ g.edges, e.source ∈ g.ids → e.target ∈ part.ids → e ∈ part.edges
  wellFormed : g.WellFormed → part.WellFormed

theorem mem_cut_ids {id : String} : id ∈ (g.cut keep).ids ↔ id ∈ g.ids ∧ id ∈ keep := by
  rw [cut_ids, List.mem_filter, List.contains_iff_mem]

theorem IsAncestor.of_flows {id other source : String} (h : g.IsAncestor other id)
    (flow : g.Flows source other) : source = id ∨ g.IsAncestor source id :=
  or_iff_not_imp_left.mpr fun hne => ⟨hne, h.2.head flow⟩

/-- **The part upstream of a node is exact**, in every graph. -/
theorem upstream_exact (g : Graph) {id : String} (hid : id ∈ g.ids) :
    g.ancestors? id = some (g.ids.filter fun other => g.IsAncestor other id) ∧
      ∃ part, g.upstream? id = some part ∧ g.IsUpstream id part := by
  have hkeep := ancestors?_eq hid
  refine ⟨hkeep, g.cut _, by rw [upstream?_eq, hkeep]; rfl, ?_, ?_, ?_, fun wf => wf.cut _⟩
  · refine List.filter_congr fun n hn => ?_
    simp [mem_ids hn]
  · refine List.filter_congr fun e _ => ?_
    simp [mem_cut_ids]
  · intro acyclic e he hsource htarget
    obtain ⟨-, hkept⟩ := mem_cut_ids.mp htarget
    have above : g.IsAncestor e.target id := by simpa using (List.mem_filter.mp hkept).2
    rcases above.of_flows ⟨e, he, rfl, rfl⟩ with rfl | hsource'
    · -- the edge comes from the node itself and would close a cycle
      exact absurd (above.2.head ⟨e, he, rfl, rfl⟩) acyclic
    · exact mem_cut_edges.mpr ⟨he, List.mem_filter.mpr ⟨hsource, by simpa using hsource'⟩, hkept⟩

/-! A node on no cycle, behind two nodes that are on one.  One of these has an
edge to itself, a third node reaches them by way of one that is not there, and an
id is repeated. -/

def tangled : Graph where
  nodes := [⟨"below", "test", .null, ["in"], []⟩, ⟨"far", "test", .null, [], ["out"]⟩,
    ⟨"goal", "test", .null, ["in"], ["out"]⟩, ⟨"b", "test", .null, ["in"], ["out"]⟩,
    ⟨"a", "test", .null, ["in", "on"], ["out"]⟩, ⟨"b", "again", .null, [], []⟩]
  edges := [⟨"a", "out", "b", "in"⟩, ⟨"b", "out", "a", "in"⟩, ⟨"a", "out", "a", "on"⟩,
    ⟨"far", "out", "ghost", "in"⟩, ⟨"ghost", "out", "b", "in"⟩, ⟨"b", "out", "goal", "in"⟩,
    ⟨"goal", "out", "below", "in"⟩]

theorem upstream_exact_tangled :
    "goal" ∈ tangled.ids ∧ tangled.ancestors? "goal" = some ["far", "b", "a", "b"] ∧
      ∃ part, tangled.upstream? "goal" = some part ∧ tangled.IsUpstream "goal" part ∧
        part.ids = ["far", "b", "a", "b"] ∧ part.edges = tangled.edges.take 3 := by
  have hid : "goal" ∈ tangled.ids := by decide
  obtain ⟨hkeep, part, hpart, upstream⟩ := upstream_exact tangled hid
  have ids : (tangled.ids.filter fun other => tangled.IsAncestor other "goal") =
      ["far", "b", "a", "b"] := by decide +kernel
  have found : (tangled.upstream? "goal").map (fun part => (part.ids, part.edges)) =
      some (["far", "b", "a", "b"], tangled.edges.take 3) := by decide +kernel
  rw [hpart] at found
  obtain ⟨hids, hedges⟩ := Prod.mk.inj (Option.some.inj found)
  exact ⟨hid, ids ▸ hkeep, part, hpart, upstream, hids, hedges⟩

/-! ## The order of a part -/

theorem idxOf_filter_le {α : Type} [DecidableEq α] {p : α → Bool} {a b : α} (ha : p a) (hb : p b) :
    ∀ {xs : List α}, xs.idxOf a ≤ xs.idxOf b → (xs.filter p).idxOf a ≤ (xs.filter p).idxOf b
  | [], _ => Nat.le_refl _
  | x :: xs, h => by
      by_cases hxa : x = a
      · subst hxa
        rw [List.filter_cons_of_pos ha, List.idxOf_cons_self]
        exact Nat.zero_le _
      have hxb : x ≠ b := by
        rintro rfl
        rw [List.idxOf_cons_self, List.idxOf_cons_ne _ hxa] at h
        omega
      rw [List.idxOf_cons_ne _ hxa, List.idxOf_cons_ne _ hxb] at h
      have ih := idxOf_filter_le ha hb (Nat.le_of_succ_le_succ h)
      by_cases hx : p x
      · rw [List.filter_cons_of_pos hx, List.idxOf_cons_ne _ hxa, List.idxOf_cons_ne _ hxb]
        exact Nat.succ_le_succ ih
      · rwa [List.filter_cons_of_neg hx]

theorem rank_cut_le {n m : Node} (hn : n.id ∈ keep) (hm : m.id ∈ keep)
    (h : g.rank n ≤ g.rank m) : (g.cut keep).rank n ≤ (g.cut keep).rank m := by
  unfold rank at h ⊢
  rw [cut_ids]
  exact idxOf_filter_le (by simpa using hn) (by simpa using hm) h

theorem filter_split {α : Type} {p : α → Bool} {xs before after : List α} {x : α}
    (h : xs.filter p = before ++ x :: after) :
    ∃ before' after', xs = before' ++ x :: after' ∧ before'.filter p = before := by
  obtain ⟨l, m, rfl, hl, hm⟩ := List.filter_eq_append_iff.mp h
  obtain ⟨skip, after', rfl, hskip, -, -⟩ := List.filter_eq_cons_iff.mp hm
  refine ⟨l ++ skip, after', by simp, ?_⟩
  rw [List.filter_append, hl, List.filter_eq_nil_iff.mpr hskip, List.append_nil]

theorem IsOrder.cut {ns : List Node} (h : g.IsOrder ns) (keep : List String) :
    (g.cut keep).IsOrder (ns.filter fun n => keep.contains n.id) where
  perm := h.perm.filter _
  forward before n after hsplit := by
    obtain ⟨before', after', rfl, rfl⟩ := filter_split hsplit
    exact fed_cut (h.forward before' n after' rfl)

/-- Two orders of one graph are the same if each is earliest place by place. -/
theorem eq_of_earliest (distinct : g.ids.Nodup) {ns ms : List Node} (hn : g.IsOrder ns)
    (hm : g.IsOrder ms)
    (earliest : ∀ before n after, ns = before ++ n :: after →
      ∀ m ∈ g.nodes, m ∉ before → g.Fed before m → g.rank n ≤ g.rank m)
    (earliest' : ∀ before n after, ms = before ++ n :: after →
      ∀ m ∈ g.nodes, m ∉ before → g.Fed before m → g.rank n ≤ g.rank m) : ms = ns := by
  rcases hn.eq_or_lex distinct hm earliest [] ns ms rfl rfl with rfl | hlt
  · rfl
  rcases hm.eq_or_lex distinct hn earliest' [] ms ns rfl rfl with rfl | hgt
  · rfl
  · exact absurd hgt (List.lt_asymm hlt)

/-- **The order of a part is the order of the whole**, without the nodes that
are left out, if the part is closed under sources. -/
theorem order_cut (wf : g.WellFormed) (closed : g.SourceClosed keep) {ns : List Node}
    (h : g.order = .ok ns) :
    (g.cut keep).order = .ok (ns.filter fun n => keep.contains n.id) := by
  have canonical := isCanonical_of_order wf.distinct h
  have acyclic := no_circles_of_order wf.joins h
  obtain ⟨ms, hms⟩ := exists_order_of_no_circles (wf.cut keep).joins fun id path =>
    acyclic id (Relation.TransGen.mono (fun _ _ => flows_of_cut) _ _ path)
  have canonical' := isCanonical_of_order (wf.cut keep).distinct hms
  have earliest : ∀ before n after,
      (ns.filter fun n => keep.contains n.id) = before ++ n :: after →
      ∀ m ∈ (g.cut keep).nodes, m ∉ before → (g.cut keep).Fed before m →
        (g.cut keep).rank n ≤ (g.cut keep).rank m := by
    intro before n after hsplit m hm hnew hfed
    have hn : n ∈ ns.filter fun n => keep.contains n.id := hsplit ▸ by simp
    obtain ⟨before', after', rfl, rfl⟩ := filter_split hsplit
    obtain ⟨hm, hkeep⟩ := mem_cut_nodes.mp hm
    have hnkeep : n.id ∈ keep := by simpa using (List.mem_filter.mp hn).2
    have hnew' : m ∉ before' := fun hb =>
      hnew (List.mem_filter.mpr ⟨hb, by simpa using hkeep⟩)
    exact rank_cut_le hnkeep hkeep
      (canonical.earliest before' n after' rfl m hm hnew' (cut_fed closed hkeep hfed))
  rw [hms, eq_of_earliest (wf.cut keep).distinct (canonical.toIsOrder.cut keep)
    canonical'.toIsOrder earliest canonical'.earliest]

/-- **The order upstream of a node agrees with the order of the whole graph.** -/
theorem order_upstream (g : Graph) (wf : g.WellFormed)
    (acyclic : ∀ x, ¬ Relation.TransGen g.Flows x x) {id : String} (hid : id ∈ g.ids) :
    ∃ keep part ns ms, g.ancestors? id = some keep ∧ g.upstream? id = some part ∧
      g.order = .ok ns ∧ part.order = .ok ms ∧
      ms.map (·.id) = (ns.map (·.id)).filter fun other => keep.contains other := by
  obtain ⟨keep, hkeep, mem⟩ := exists_ancestors wf.joins acyclic hid
  obtain ⟨ns, hns⟩ := exists_order_of_no_circles wf.joins acyclic
  have hms := order_cut wf (sourceClosed_of_flows mem) hns
  refine ⟨keep, g.cut keep, ns, _, hkeep, by rw [upstream?_eq, hkeep]; rfl, hns, hms, ?_⟩
  rw [List.filter_map]
  rfl

/-! Two chains into a node, drawn backwards and crosswise, with nodes that are
ready before and between theirs but belong to neither. -/

def braided : Graph where
  nodes := [⟨"aside", "test", .null, [], []⟩, ⟨"goal", "test", .null, ["l", "r"], ["out"]⟩,
    ⟨"r", "test", .null, ["in"], ["out"]⟩, ⟨"between", "test", .null, ["in"], []⟩,
    ⟨"l", "test", .null, ["in"], ["out"]⟩, ⟨"top", "test", .null, [], ["out"]⟩]
  edges := [⟨"r", "out", "goal", "r"⟩, ⟨"l", "out", "goal", "l"⟩, ⟨"top", "out", "r", "in"⟩,
    ⟨"top", "out", "l", "in"⟩, ⟨"r", "out", "between", "in"⟩]

theorem braided_wellFormed : braided.WellFormed where
  distinct := by decide
  source := by decide
  target := by decide
  single := by decide

theorem order_upstream_braided :
    braided.WellFormed ∧ (∀ x, ¬ Relation.TransGen braided.Flows x x) ∧ "goal" ∈ braided.ids ∧
      ∃ part ns ms, braided.ancestors? "goal" = some ["r", "l", "top"] ∧
        braided.upstream? "goal" = some part ∧ braided.order = .ok ns ∧ part.order = .ok ms ∧
        ns.map (·.id) = ["aside", "top", "r", "between", "l", "goal"] ∧
        ms.map (·.id) = ["top", "r", "l"] := by
  have hid : "goal" ∈ braided.ids := by decide
  have ancestors : braided.ancestors? "goal" = some ["r", "l", "top"] := by decide +kernel
  have acyclic : ∀ x, ¬ Relation.TransGen braided.Flows x x :=
    no_circles_of_order braided_wellFormed.joins rfl
  obtain ⟨keep, part, ns, ms, hkeep, hpart, hns, hms, same⟩ :=
    order_upstream braided braided_wellFormed acyclic hid
  obtain rfl : ["r", "l", "top"] = keep := Option.some.inj (ancestors.symm.trans hkeep)
  have ids : ns.map (·.id) = ["aside", "top", "r", "between", "l", "goal"] := by
    cases hns
    rfl
  rw [ids] at same
  exact ⟨braided_wellFormed, acyclic, hid, part, ns, ms, ancestors, hpart, hns, hms, ids, same⟩

end PipelineScript.Graph
