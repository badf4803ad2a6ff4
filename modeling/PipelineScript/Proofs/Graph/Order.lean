/-
# The order of a pipeline, and why it is the only one

`Graph.order` either blames the first edge that names a missing node, or
reports a cycle, or lists the nodes.  The list it gives is fixed by two
conditions (`IsCanonical`): the sources of all edges into a node stand before
it, and no node waits for one that was created later and could not have been
placed earlier.  The second condition is local, one place at a time; that it
makes the list the lexicographically least of all orders is `eq_or_lex`.

The walk over the nodes that generates a script only uses `IsOrder`.
-/
import PipelineScript.Proofs.Graph.Arcs
import PipelineScript.Proofs.Graph.Sweep

namespace PipelineScript.Graph

variable {g : Graph}

/-- The place of a node in the order of creation. -/
def rank (g : Graph) (n : Node) : Nat :=
  g.ids.idxOf n.id

/-- The sources of all edges into the node are among the nodes before it. -/
def Fed (g : Graph) (before : List Node) (n : Node) : Prop :=
  ∀ e ∈ g.edges, e.target = n.id → e.source ∈ before.map (·.id)

/-- Every node stands in the list once, behind the sources of its edges. -/
structure IsOrder (g : Graph) (ns : List Node) : Prop where
  perm : ns.Perm g.nodes
  forward : ∀ before n after, ns = before ++ n :: after → g.Fed before n

/-- Each place holds the earliest-created node that is not placed yet and
whose predecessors are, and no order is less than this one. -/
structure IsCanonical (g : Graph) (ns : List Node) : Prop extends g.IsOrder ns where
  earliest : ∀ before n after, ns = before ++ n :: after →
    ∀ m ∈ g.nodes, m ∉ before → g.Fed before m → g.rank n ≤ g.rank m
  least : ∀ ms, g.IsOrder ms →
    ms = ns ∨ List.Lex (· < ·) (ns.map g.rank) (ms.map g.rank)

/-! ## Ranks -/

theorem getElem?_ids {i : Nat} {n : Node} (h : g.nodes[i]? = some n) :
    g.ids[i]? = some n.id := by
  simp [ids, h]

theorem mem_ids {n : Node} (h : n ∈ g.nodes) : n.id ∈ g.ids :=
  List.mem_map_of_mem h

section Distinct
variable (distinct : g.ids.Nodup)
include distinct

theorem nodes_nodup : g.nodes.Nodup :=
  .of_map _ distinct

theorem eq_of_id_eq {n m : Node} (hn : n ∈ g.nodes) (hm : m ∈ g.nodes) (h : n.id = m.id) :
    n = m :=
  List.inj_on_of_nodup_map distinct hn hm h

theorem rank_eq {i : Nat} {n : Node} (h : g.nodes[i]? = some n) : g.rank n = i := by
  have hi := getElem?_ids h
  have hn : n.id ∈ g.ids := List.mem_of_getElem? hi
  exact getElem?_inj_of_nodup distinct (List.getElem?_idxOf hn) hi

theorem rank_inj {n m : Node} (hn : n ∈ g.nodes) (hm : m ∈ g.nodes)
    (h : g.rank n = g.rank m) : n = m :=
  eq_of_id_eq distinct hn hm ((List.idxOf_inj (mem_ids hn)).mp h)

/-! ## An order that is locally earliest is the least one -/

theorem IsOrder.eq_or_lex {ns ms : List Node} (hn : g.IsOrder ns) (hm : g.IsOrder ms)
    (earliest : ∀ before n after, ns = before ++ n :: after →
      ∀ m ∈ g.nodes, m ∉ before → g.Fed before m → g.rank n ≤ g.rank m) :
    ∀ (before ns' ms' : List Node), ns = before ++ ns' → ms = before ++ ms' →
      ms' = ns' ∨ List.Lex (· < ·) (ns'.map g.rank) (ms'.map g.rank)
  | before, [], ms', hns, hms => by
      have hl := hn.perm.length_eq.trans hm.perm.length_eq.symm
      rw [hns, hms, List.length_append, List.length_append, List.length_nil] at hl
      exact Or.inl (List.eq_nil_of_length_eq_zero (by omega))
  | before, n :: ns', [], hns, hms => by
      have hl := hn.perm.length_eq.trans hm.perm.length_eq.symm
      rw [hns, hms, List.length_append, List.length_append, List.length_cons,
        List.length_nil] at hl
      omega
  | before, n :: ns', m :: ms', hns, hms => by
      by_cases h : m = n
      · subst h
        have ih := eq_or_lex hn hm earliest (before ++ [m]) ns' ms' (by simp [hns])
          (by simp [hms])
        rcases ih with rfl | ih
        · exact Or.inl rfl
        · exact Or.inr (.cons ih)
      · -- the lists part here, and the place of `n` was open to `m`
        have hmn : m ∈ g.nodes := hm.perm.subset (by simp [hms])
        have hnn : n ∈ g.nodes := hn.perm.subset (by simp [hns])
        have hnd : (before ++ m :: ms').Nodup :=
          hms ▸ hm.perm.nodup_iff.mpr (nodes_nodup distinct)
        have hnew : m ∉ before := fun hb =>
          List.disjoint_of_nodup_append hnd hb List.mem_cons_self
        have hle := earliest before n ns' hns m hmn hnew (hm.forward before m ms' hms)
        have hne : g.rank n ≠ g.rank m := fun he => h (rank_inj distinct hnn hmn he).symm
        exact Or.inr (.rel (Nat.lt_of_le_of_ne hle hne))

end Distinct

/-! ## From positions to nodes -/

/-- The nodes at the given positions. -/
def nodesAt (g : Graph) (is : List Nat) : List Node :=
  is.filterMap (g.nodes[·]?)

theorem nodesAt_range (g : Graph) : g.nodesAt (List.range g.nodes.length) = g.nodes := by
  have h : ∀ i ∈ List.range g.nodes.length, g.nodes[i]? = some (g.nodes[i]?.getD default) := by
    intro i hi
    rw [List.getElem?_eq_getElem (List.mem_range.mp hi)]
    rfl
  rw [nodesAt, List.filterMap_congr h, List.filterMap_eq_map']
  refine List.ext_getElem (by simp) fun i hi hi' => ?_
  simp [List.getElem?_eq_getElem hi']

theorem mem_nodesAt {is : List Nat} {n : Node} :
    n ∈ g.nodesAt is ↔ ∃ i ∈ is, g.nodes[i]? = some n :=
  List.mem_filterMap

theorem nodesAt_split {is : List Nat} {before after : List Node} {n : Node}
    (h : g.nodesAt is = before ++ n :: after) :
    ∃ js i ks, is = js ++ i :: ks ∧ g.nodesAt js = before ∧ g.nodes[i]? = some n ∧
      g.nodesAt ks = after := by
  obtain ⟨js, ls, rfl, hjs, hls⟩ := List.filterMap_eq_append_iff.mp h
  obtain ⟨js', i, ks, rfl, hnone, hi, hks⟩ := List.filterMap_eq_cons_iff.mp hls
  refine ⟨js ++ js', i, ks, by simp, ?_, hi, hks⟩
  have : js'.filterMap (g.nodes[·]?) = [] := List.filterMap_eq_nil_iff.mpr hnone
  simp only [nodesAt, List.filterMap_append, hjs, this, List.append_nil]

theorem fed_of_supplied {arcs : List (Nat × Nat)} (h : g.arcs = .ok arcs) {before : List Nat}
    {i : Nat} {n : Node} (hi : g.position? n.id = some i) (supplied : Supplied arcs before i) :
    g.Fed (g.nodesAt before) n := by
  intro e he htarget
  obtain ⟨a, ha, hsource, ht⟩ := exists_arc_of_edge h he
  have hai : a.2 = i := Option.some.inj (ht.symm.trans (htarget ▸ hi))
  have hlt := position?_lt hsource
  have hm : g.nodes[a.1]? = some g.nodes[a.1] := List.getElem?_eq_getElem hlt
  refine List.mem_map.mpr ⟨_, mem_nodesAt.mpr ⟨a.1, supplied a ha hai, hm⟩, ?_⟩
  exact Option.some.inj ((getElem?_ids hm).symm.trans (getElem?_of_position? hsource))

theorem fed_iff_supplied (distinct : g.ids.Nodup) {arcs : List (Nat × Nat)}
    (h : g.arcs = .ok arcs) {before : List Nat} {i : Nat} {n : Node}
    (hi : g.nodes[i]? = some n) : g.Fed (g.nodesAt before) n ↔ Supplied arcs before i := by
  constructor
  · intro hf a ha hai
    obtain ⟨e, he, hs, ht⟩ := exists_edge_of_arc h ha
    have htarget : e.target = n.id := by
      have := (getElem?_of_position? ht).symm.trans (hai ▸ getElem?_ids hi)
      exact Option.some.inj this
    obtain ⟨m, hm, hid⟩ := List.mem_map.mp (hf e he htarget)
    obtain ⟨j, hj, hjm⟩ := mem_nodesAt.mp hm
    have : a.1 = j := getElem?_inj_of_nodup distinct (getElem?_of_position? hs)
      (hid ▸ getElem?_ids hjm)
    exact this ▸ hj
  · intro hs
    have hid := getElem?_ids hi
    obtain ⟨j, hj⟩ := exists_position (List.mem_of_getElem? hid)
    have hji : j = i := getElem?_inj_of_nodup distinct (getElem?_of_position? hj) hid
    exact fed_of_supplied h (hji ▸ hj) hs

/-! ## What `order` answers -/

theorem order_of_arcs_error {e : OrderError} (h : g.arcs = .error e) : g.order = .error e := by
  simp [order, h, bind, Except.bind]

section Read
variable {arcs : List (Nat × Nat)} (h : g.arcs = .ok arcs)
include h

/-- The run of `place` behind `order`. -/
theorem order_of_arcs :
    g.order =
      let p := place g.nodes.length (List.range g.nodes.length) arcs
      if p.pool = [] then .ok (g.nodesAt p.placed)
      else .error (.cycle
        ((onCycle (linksOf g.nodes.length arcs).successors p.pool).filterMap (g.ids[·]?))) := by
  have run : g.order =
      let links := linksOf g.nodes.length arcs
      let placed := sweep links.successors g.nodes.length
        ⟨(List.range g.nodes.length).filter fun i => links.inDegrees.getD i 0 == 0,
          links.inDegrees⟩
      if placed.length == g.nodes.length then .ok (g.nodesAt placed)
      else .error (.cycle ((onCycle links.successors
        ((List.range g.nodes.length).filter fun i => !placed.contains i)).filterMap
          (g.ids[·]?))) := by
    rw [order, h]
    rfl
  have all := (place_perm g.nodes.length (List.range g.nodes.length) arcs).length_eq
  rw [List.length_append, List.length_range] at all
  simp only [run, sweep_range fun a ha => (arcs_closed h a ha).2, unplaced_range, beq_iff_eq]
  refine if_congr ?_ rfl rfl
  rw [← List.length_eq_zero_iff]
  omega

theorem order_eq_ok_iff {ns : List Node} :
    g.order = .ok ns ↔
      (place g.nodes.length (List.range g.nodes.length) arcs).pool = [] ∧
        ns = g.nodesAt (place g.nodes.length (List.range g.nodes.length) arcs).placed := by
  rw [order_of_arcs h]
  by_cases hp : (place g.nodes.length (List.range g.nodes.length) arcs).pool = []
  · simp [hp, eq_comm]
  · simp [hp]

theorem exists_order_iff :
    (∃ ns, g.order = .ok ns) ↔ ∀ id, ¬ Relation.TransGen g.Flows id id := by
  have hpool := place_pool_eq_nil_iff (List.nodup_range (n := g.nodes.length)) (arcs_closed h)
  rw [List.length_range] at hpool
  rw [← acyclic_arcs_iff h, ← hpool]
  constructor
  · rintro ⟨ns, hns⟩
    exact ((order_eq_ok_iff h).mp hns).1
  · intro hp
    exact ⟨_, (order_eq_ok_iff h).mpr ⟨hp, rfl⟩⟩

end Read

section Joined
variable (joins : ∀ e ∈ g.edges, g.Joins e)
include joins

theorem no_circles_of_order {ns : List Node} (h : g.order = .ok ns) :
    ∀ id, ¬ Relation.TransGen g.Flows id id := by
  obtain ⟨arcs, ha⟩ := exists_arcs joins
  exact (exists_order_iff ha).mp ⟨ns, h⟩

theorem exists_order_of_no_circles (acyclic : ∀ id, ¬ Relation.TransGen g.Flows id id) :
    ∃ ns, g.order = .ok ns := by
  obtain ⟨arcs, ha⟩ := exists_arcs joins
  exact (exists_order_iff ha).mpr acyclic

theorem cycle_of_order_error {cause : OrderError} (h : g.order = .error cause) :
    ∃ ids, cause = .cycle ids ∧ ∃ id, Relation.TransGen g.Flows id id := by
  have circle : ∃ id, Relation.TransGen g.Flows id id := by
    by_contra none
    obtain ⟨ns, hns⟩ := exists_order_of_no_circles joins (not_exists.mp none)
    cases h.symm.trans hns
  obtain ⟨arcs, ha⟩ := exists_arcs joins
  by_cases hp : (place g.nodes.length (List.range g.nodes.length) arcs).pool = []
  · cases h.symm.trans ((order_eq_ok_iff ha).mpr ⟨hp, rfl⟩)
  · simp only [order_of_arcs ha, if_neg hp, Except.error.injEq] at h
    exact ⟨_, h.symm, circle⟩

end Joined

theorem exists_arcs_of_order {ns : List Node} (h : g.order = .ok ns) :
    ∃ arcs, g.arcs = .ok arcs := by
  cases ha : g.arcs with
  | ok arcs => exact ⟨arcs, rfl⟩
  | error e => rw [order_of_arcs_error ha] at h; cases h

theorem exists_order_of_isAcyclic (h : g.isAcyclic = true) : ∃ ns, g.order = .ok ns := by
  cases ho : g.order with
  | ok ns => exact ⟨ns, rfl⟩
  | error cause => simp [isAcyclic, ho] at h

theorem order_perm {ns : List Node} (h : g.order = .ok ns) : ns.Perm g.nodes := by
  obtain ⟨arcs, ha⟩ := exists_arcs_of_order h
  obtain ⟨hp, rfl⟩ := (order_eq_ok_iff ha).mp h
  have perm := place_perm g.nodes.length (List.range g.nodes.length) arcs
  rw [hp, List.append_nil] at perm
  have := perm.filterMap (g.nodes[·]?)
  rwa [show (List.range g.nodes.length).filterMap (g.nodes[·]?) = g.nodes from
    g.nodesAt_range] at this

theorem order_ids_nodup (distinct : g.ids.Nodup) {ns : List Node} (h : g.order = .ok ns) :
    (ns.map (·.id)).Nodup :=
  ((order_perm h).map (fun n : Node => n.id)).nodup_iff.mpr distinct

theorem isOrder_of_order (distinct : g.ids.Nodup) {ns : List Node} (h : g.order = .ok ns) :
    g.IsOrder ns := by
  refine ⟨order_perm h, fun before n after hsplit => ?_⟩
  obtain ⟨arcs, ha⟩ := exists_arcs_of_order h
  obtain ⟨-, rfl⟩ := (order_eq_ok_iff ha).mp h
  obtain ⟨js, i, ks, hplaced, rfl, hi, -⟩ := nodesAt_split hsplit
  exact (fed_iff_supplied distinct ha hi).mpr (place_supplied hplaced)

theorem isCanonical_of_order (distinct : g.ids.Nodup) {ns : List Node} (h : g.order = .ok ns) :
    g.IsCanonical ns := by
  have isOrder := isOrder_of_order distinct h
  obtain ⟨arcs, ha⟩ := exists_arcs_of_order h
  obtain ⟨-, hns⟩ := (order_eq_ok_iff ha).mp h
  have earliest : ∀ before n after, ns = before ++ n :: after →
      ∀ m ∈ g.nodes, m ∉ before → g.Fed before m → g.rank n ≤ g.rank m := by
    intro before n after hsplit m hm hnew hfed
    obtain ⟨js, i, ks, hplaced, rfl, hi, -⟩ := nodesAt_split (hns.symm.trans hsplit)
    obtain ⟨j, hj⟩ := List.mem_iff_getElem?.mp hm
    obtain ⟨hlt, -⟩ := List.getElem?_eq_some_iff.mp hj
    rw [rank_eq distinct hi, rank_eq distinct hj]
    exact place_earliest List.pairwise_lt_range hplaced (List.mem_range.mpr hlt)
      (fun hjs => hnew (mem_nodesAt.mpr ⟨j, hjs, hj⟩)) ((fed_iff_supplied distinct ha hj).mp hfed)
  exact ⟨isOrder, earliest, fun ms hms =>
    IsOrder.eq_or_lex distinct isOrder hms earliest [] ns ms rfl rfl⟩

/-- **The order is correct and canonical.**  With distinct ids, `order` blames
the first edge that names a missing node, for its source if that is missing
and else for its target; if there is no such edge, it lists the nodes exactly
if no edges lead in a circle, and the list is the canonical one. -/
theorem order_canonical (g : Graph) (distinct : g.ids.Nodup) :
    (∀ before e after, g.edges = before ++ e :: after → (∀ d ∈ before, g.Joins d) →
      ¬ g.Joins e →
      g.order =
        .error (.danglingEdge (if e.source ∈ g.ids then e.target else e.source) e.target)) ∧
    ((∀ e ∈ g.edges, g.Joins e) →
      ((∃ ns, g.order = .ok ns) ↔ ∀ id, ¬ Relation.TransGen g.Flows id id) ∧
        ∀ ns, g.order = .ok ns → g.IsCanonical ns) := by
  refine ⟨fun before e after hsplit hb he => ?_, fun hjoin => ⟨?_, fun ns hns => ?_⟩⟩
  · exact order_of_arcs_error (arcs_of_dangling hsplit hb he)
  · obtain ⟨arcs, ha⟩ := exists_arcs hjoin
    exact exists_order_iff ha
  · exact isCanonical_of_order distinct hns

/-- A chain that was built from its end. -/
def backwardChain : Graph where
  nodes := [⟨"sink", "test", .null, ["in"], []⟩, ⟨"filter", "test", .null, ["in"], ["out"]⟩,
    ⟨"source", "test", .null, [], ["out"]⟩]
  edges := [⟨"source", "out", "filter", "in"⟩, ⟨"filter", "out", "sink", "in"⟩]

theorem order_canonical_backwardChain :
    backwardChain.ids.Nodup ∧ (∀ e ∈ backwardChain.edges, backwardChain.Joins e) ∧
      ∃ ns, backwardChain.order = .ok ns ∧ ns.map (·.id) = ["source", "filter", "sink"] ∧
        backwardChain.IsCanonical ns := by
  have distinct : backwardChain.ids.Nodup := by decide
  have joins : ∀ e ∈ backwardChain.edges, backwardChain.Joins e := by decide
  exact ⟨distinct, joins, _, rfl, rfl,
    ((order_canonical backwardChain distinct).2 joins).2 _ rfl⟩

end PipelineScript.Graph
