/-
# Cycle reports are exact

When no node is ready although some are left, `order` reports those that lie on
a cycle.  What is left is more than that: everything downstream of a cycle, and
everything between two of them, waits as well.  And the search for a cycle
stays among the positions that are left.

Neither matters.  A position on a cycle is never placed
(`not_placed_of_circle`), and a path that starts at one that is left over runs
among those (`within_of_path`); so the cycles of what is left are the cycles of
the graph (`mem_onCycle_place`), and a report names the nodes that can reach
themselves, in the order of their creation (`reports_of_order`).

A compilation orders the graph first, so it fails with the report before any
component is asked.
-/
import PipelineScript.Catalog.Standard
import PipelineScript.Proofs.Compile.Stage
import PipelineScript.Proofs.Graph.Reach

namespace PipelineScript.Graph

/-! ## Positions -/

/-- Where the arcs lead that leave a position. -/
def onward (n : Nat) (arcs : List (Nat × Nat)) (i : Nat) : List Nat :=
  (linksOf n arcs).successors.getD i []

section Positions
variable {n steps i j : Nat} {pool : List Nat} {arcs : List (Nat × Nat)}

theorem mem_onward_iff (hi : i < n) : j ∈ onward n arcs i ↔ Along arcs i j := by
  rw [onward, successors_getD hi]
  exact mem_ends

theorem flatten_successors :
    (linksOf n arcs).successors.flatten = (List.range n).flatMap (onward n arcs) := by
  rw [List.flatMap_def]
  refine congrArg List.flatten (List.ext_getElem? fun k => ?_)
  by_cases hk : k < n <;> simp [onward, successors_linksOf, hk]

theorem enough_looks (sub : pool.Sublist (List.range n)) (hi : i ∈ pool) :
    (onward n arcs i).reverse.length + unlooked (onward n arcs) pool [] ≤
      2 * (linksOf n arcs).successors.flatten.length := by
  have one : [i].Sublist (List.range n) := List.singleton_sublist.mpr (sub.subset hi)
  have all : (pool.filter fun k => !([] : List Nat).contains k).Sublist (List.range n) :=
    List.filter_sublist.trans sub
  have hone := (one.flatMap (onward n arcs)).length_le
  have hall := (all.flatMap (onward n arcs)).length_le
  rw [List.flatMap_singleton] at hone
  rw [List.length_reverse, unlooked, flatten_successors]
  omega

/-- The positions found to be on a cycle are those of the pool that reach
themselves within it. -/
theorem mem_onCycle_iff (sub : pool.Sublist (List.range n)) :
    i ∈ onCycle (linksOf n arcs).successors pool ↔
      i ∈ pool ∧ Relation.TransGen (Within (onward n arcs) pool) i i := by
  rw [onCycle, List.mem_filter]
  refine and_congr_right fun hi => ?_
  refine (meets_iff (enough_looks sub hi)).trans ?_
  rw [Relation.TransGen.head'_iff]
  refine exists_congr fun j => and_congr_left fun _ => ?_
  rw [List.mem_reverse]
  exact (and_iff_right hi).symm

/-- What is placed was supplied, so what is left over leads to nothing that is
placed. -/
theorem left_of_along (nodup : pool.Nodup) (closed : ∀ a ∈ arcs, a.1 ∈ pool ∧ a.2 ∈ pool)
    (ha : Along arcs i j) (hi : i ∈ (place steps pool arcs).pool) :
    j ∈ (place steps pool arcs).pool := by
  have perm := place_perm steps pool arcs
  have once := perm.nodup_iff.mpr nodup
  refine (List.mem_append.mp (perm.symm.subset (closed _ ha).2)).resolve_left fun hj => ?_
  have placed := idxOf_lt_of_along (List.nodup_append.mp once).1 (fun _ _ _ h => place_supplied h)
    hj ha
  exact List.disjoint_of_nodup_append once placed.1 hi

theorem left_sublist : (place steps pool arcs).pool.Sublist pool := by
  rw [place_pool]
  exact List.diff_sublist _ _

section Range
variable (closed : ∀ a ∈ arcs, a.1 ∈ List.range n ∧ a.2 ∈ List.range n)
include closed

theorem within_of_path (path : Relation.TransGen (Along arcs) i j)
    (hi : i ∈ (place steps (List.range n) arcs).pool) :
    j ∈ (place steps (List.range n) arcs).pool ∧
      Relation.TransGen (Within (onward n arcs) (place steps (List.range n) arcs).pool) i j := by
  have step : ∀ {k l : Nat}, k ∈ (place steps (List.range n) arcs).pool → Along arcs k l →
      Within (onward n arcs) (place steps (List.range n) arcs).pool k l := fun hk ha =>
    ⟨hk, (mem_onward_iff (List.mem_range.mp (left_sublist.subset hk))).mpr ha⟩
  induction path with
  | single ha => exact ⟨left_of_along List.nodup_range closed ha hi, .single (step hi ha)⟩
  | tail _ ha ih =>
      obtain ⟨hk, path⟩ := ih
      exact ⟨left_of_along List.nodup_range closed ha hk, path.tail (step hk ha)⟩

/-- The cycles among the positions that are left are all the cycles that there
are. -/
theorem mem_onCycle_place :
    i ∈ onCycle (linksOf n arcs).successors (place steps (List.range n) arcs).pool ↔
      Relation.TransGen (Along arcs) i i := by
  rw [mem_onCycle_iff left_sublist]
  constructor
  · rintro ⟨-, circle⟩
    refine Relation.TransGen.mono (fun k l h => ?_) _ _ circle
    exact (mem_onward_iff (List.mem_range.mp (left_sublist.subset h.1))).mp h.2
  · intro circle
    have unplaced : i ∉ (place steps (List.range n) arcs).placed :=
      not_placed_of_circle List.nodup_range circle
    obtain ⟨j, -, ha⟩ := Relation.TransGen.tail'_iff.mp circle
    have hi := (place_perm steps (List.range n) arcs).symm.subset (closed _ ha).2
    have left := (List.mem_append.mp hi).resolve_left unplaced
    exact ⟨left, (within_of_path closed circle left).2⟩

end Range

end Positions

/-! ## Nodes -/

variable {g : Graph}

/-- The report names the nodes that can reach themselves, and no others, each
once and in the order of their creation. -/
structure Reports (g : Graph) (members : List String) : Prop where
  nonempty : members ≠ []
  created : members.Sublist g.ids
  once : members.Nodup
  exact : ∀ id, id ∈ members ↔ Relation.TransGen g.Flows id id

/-- The ids at the given positions. -/
def idsAt (g : Graph) (is : List Nat) : List String :=
  is.filterMap (g.ids[·]?)

theorem idsAt_range (g : Graph) : g.idsAt (List.range g.nodes.length) = g.ids := by
  have same : ∀ i : Nat, g.ids[i]? = (g.nodes[i]?).map fun n => n.id := by
    intro i
    simp [ids]
  calc g.idsAt (List.range g.nodes.length)
      = (g.nodesAt (List.range g.nodes.length)).map (fun n => n.id) := by
        simp only [idsAt, nodesAt, List.map_filterMap, same]
    _ = g.ids := by rw [nodesAt_range]; rfl

section Read
variable {arcs : List (Nat × Nat)} (h : g.arcs = .ok arcs)
include h

theorem order_eq_cycle_iff {members : List String} :
    g.order = .error (.cycle members) ↔
      (place g.nodes.length (List.range g.nodes.length) arcs).pool ≠ [] ∧
        members = g.idsAt (onCycle (linksOf g.nodes.length arcs).successors
          (place g.nodes.length (List.range g.nodes.length) arcs).pool) := by
  rw [order_of_arcs h]
  by_cases hp : (place g.nodes.length (List.range g.nodes.length) arcs).pool = []
  · simp [hp]
  · simp [hp, idsAt, eq_comm]

theorem mem_idsAt_onCycle {steps : Nat} {id : String} :
    id ∈ g.idsAt (onCycle (linksOf g.nodes.length arcs).successors
        (place steps (List.range g.nodes.length) arcs).pool) ↔
      Relation.TransGen g.Flows id id := by
  simp only [idsAt, List.mem_filterMap, mem_onCycle_place (arcs_closed h)]
  constructor
  · rintro ⟨i, circle, hid⟩
    simpa [hid] using flows_of_along h circle
  · intro circle
    obtain ⟨_, -, e, he, -, rfl⟩ := Relation.TransGen.tail'_iff.mp circle
    obtain ⟨a, -, -, ht⟩ := exists_arc_of_edge h he
    exact ⟨a.2, by simpa [ht] using along_of_flows h circle, getElem?_of_position? ht⟩

end Read

section Joined
variable (joins : ∀ e ∈ g.edges, g.Joins e)
include joins

theorem exists_report_iff :
    (∃ members, g.order = .error (.cycle members)) ↔
      ∃ id, Relation.TransGen g.Flows id id := by
  constructor
  · rintro ⟨members, h⟩
    obtain ⟨-, -, circle⟩ := cycle_of_order_error joins h
    exact circle
  · rintro ⟨id, circle⟩
    cases h : g.order with
    | ok ns => exact absurd circle (no_circles_of_order joins h id)
    | error cause =>
        obtain ⟨members, rfl, -⟩ := cycle_of_order_error joins h
        exact ⟨members, rfl⟩

theorem reports_of_order (distinct : g.ids.Nodup) {members : List String}
    (h : g.order = .error (.cycle members)) : g.Reports members := by
  obtain ⟨id, circle⟩ := (exists_report_iff joins).mp ⟨members, h⟩
  obtain ⟨arcs, ha⟩ := exists_arcs joins
  obtain ⟨-, rfl⟩ := (order_eq_cycle_iff ha).mp h
  have created : (g.idsAt (onCycle (linksOf g.nodes.length arcs).successors
      (place g.nodes.length (List.range g.nodes.length) arcs).pool)).Sublist g.ids := by
    rw [← g.idsAt_range]
    exact (List.filter_sublist.trans left_sublist).filterMap (g.ids[·]?)
  refine ⟨?_, created, created.nodup distinct, fun id => mem_idsAt_onCycle ha⟩
  exact List.ne_nil_of_mem ((mem_idsAt_onCycle ha).mpr circle)

end Joined

end PipelineScript.Graph

namespace PipelineScript

open Compile

/-- A compilation reports what the order reports, before it asks any component. -/
theorem compile_eq_noOrder_iff (r : Registry) (header : Option String) (g : Graph)
    (cause : OrderError) :
    compile r header g = .error (.noOrder cause) ∧ stages r g = [] ↔ g.order = .error cause := by
  constructor
  · rintro ⟨h, unasked⟩
    rcases of_compile_error h with ⟨cause', ho, he⟩ | ⟨_, -, -, he⟩ | ⟨t, ht, -⟩
    · cases he
      exact ho
    · cases he
    · rw [unasked] at ht
      exact absurd ht List.not_mem_nil
  · intro ho
    exact ⟨by rw [compile, ho], by rw [stages, ho]⟩

/-- **Cycle reports are exact.**  If all edges of a graph with distinct ids join
nodes, there is a report exactly if some node can reach itself, and it names the
nodes that can, in the order of their creation; any compilation fails with it
before a component is asked. -/
theorem cycle_report_exact (g : Graph) (distinct : g.ids.Nodup)
    (joins : ∀ e ∈ g.edges, g.Joins e) :
    ((∃ members, g.order = .error (.cycle members)) ↔ ∃ id, Relation.TransGen g.Flows id id) ∧
      (∀ members, g.order = .error (.cycle members) → g.Reports members) ∧
      ∀ r header members,
        compile r header g = .error (.noOrder (.cycle members)) ∧ stages r g = [] ↔
          g.order = .error (.cycle members) := by
  refine ⟨Graph.exists_report_iff joins, ?_, ?_⟩
  · intro members h
    exact Graph.reports_of_order joins distinct h
  · intro r header members
    exact compile_eq_noOrder_iff r header g (.cycle members)

/-! Two cycles, one of them a loop, with a node before them, one between them
and one behind them; the nodes were created in another order. -/

def twoCycles : Graph where
  nodes := [⟨"behind", "test", .null, ["in"], []⟩, ⟨"loop", "test", .null, ["in", "on"], ["out"]⟩,
    ⟨"b", "test", .null, ["in"], ["out"]⟩, ⟨"between", "test", .null, ["in"], ["out"]⟩,
    ⟨"a", "test", .null, ["in", "on"], ["out"]⟩, ⟨"before", "test", .null, [], ["out"]⟩]
  edges := [⟨"before", "out", "a", "in"⟩, ⟨"a", "out", "b", "in"⟩, ⟨"b", "out", "a", "on"⟩,
    ⟨"b", "out", "between", "in"⟩, ⟨"between", "out", "loop", "in"⟩, ⟨"loop", "out", "loop", "on"⟩,
    ⟨"loop", "out", "behind", "in"⟩]

theorem cycle_report_exact_twoCycles :
    twoCycles.ids.Nodup ∧ (∀ e ∈ twoCycles.edges, twoCycles.Joins e) ∧
      twoCycles.order = .error (.cycle ["loop", "b", "a"]) ∧
      twoCycles.Reports ["loop", "b", "a"] ∧
      compile Registry.standard none twoCycles = .error (.noOrder (.cycle ["loop", "b", "a"])) := by
  have distinct : twoCycles.ids.Nodup := by decide
  have joins : ∀ e ∈ twoCycles.edges, twoCycles.Joins e := by decide
  have report : twoCycles.order = .error (.cycle ["loop", "b", "a"]) := by rfl
  obtain ⟨-, exact, fails⟩ := cycle_report_exact twoCycles distinct joins
  exact ⟨distinct, joins, report, exact _ report, ((fails Registry.standard none _).mpr report).1⟩

end PipelineScript
