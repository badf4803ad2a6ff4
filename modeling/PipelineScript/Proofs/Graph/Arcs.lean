/-
# Edges as arcs between positions

`Graph.arcs` reads every edge as a pair of positions and gives up at the
first edge that names a missing node.  Here is what that reading keeps:
which edge is blamed (`arcs_of_dangling`), that otherwise there is an arc
exactly for every edge (`mem_arcs_iff`), and that arcs lead in a circle when
edges do (`acyclic_arcs_iff`).

Ids may repeat: `position?` then answers with the last occurrence, and the
lemmas that do not ask for distinct ids hold for such graphs too.
-/
import Mathlib.Logic.Relation
import PipelineScript.Proofs.Graph.Placement

namespace PipelineScript.Graph

variable {g : Graph}

/-- The edge joins two nodes of the graph. -/
def Joins (g : Graph) (e : Edge) : Prop :=
  e.source ∈ g.ids ∧ e.target ∈ g.ids

instance (g : Graph) (e : Edge) : Decidable (g.Joins e) :=
  inferInstanceAs (Decidable (_ ∧ _))

/-- Data flows from one id to the other along an edge. -/
def Flows (g : Graph) (a b : String) : Prop :=
  ∃ e ∈ g.edges, e.source = a ∧ e.target = b

/-! ## Positions of ids -/

theorem lastIndex?_eq_none_iff {id : String} :
    ∀ {xs : List String}, lastIndex? id xs = none ↔ id ∉ xs
  | [] => by simp [lastIndex?]
  | x :: xs => by
      have ih : lastIndex? id xs = none ↔ id ∉ xs := lastIndex?_eq_none_iff
      cases h : lastIndex? id xs with
      | none =>
          have hx : id ∉ xs := ih.mp h
          by_cases he : x = id
          · simp [lastIndex?, h, he]
          · simp [lastIndex?, h, he, hx, Ne.symm he]
      | some i =>
          have hx : id ∈ xs := by
            by_contra hx
            simp [ih.mpr hx] at h
          simp [lastIndex?, h, hx]

theorem getElem?_of_lastIndex? {id : String} :
    ∀ {xs : List String} {i : Nat}, lastIndex? id xs = some i → xs[i]? = some id
  | [], _, h => by simp [lastIndex?] at h
  | x :: xs, i, h => by
      cases hr : lastIndex? id xs with
      | some j =>
          simp only [lastIndex?, hr, Option.some.injEq] at h
          subst h
          simpa using getElem?_of_lastIndex? hr
      | none =>
          by_cases he : x = id
          · simp only [lastIndex?, hr, he, beq_self_eq_true, if_true, Option.some.injEq] at h
            subst h
            simp [he]
          · simp [lastIndex?, hr, he] at h

theorem le_of_lastIndex? {id : String} :
    ∀ {xs : List String} {i j : Nat}, lastIndex? id xs = some j → xs[i]? = some id → i ≤ j
  | [], _, _, h, _ => by simp [lastIndex?] at h
  | x :: xs, 0, _, _, _ => Nat.zero_le _
  | x :: xs, i + 1, j, h, hi => by
      have later : xs[i]? = some id := by simpa using hi
      cases hr : lastIndex? id xs with
      | none => exact absurd (List.mem_of_getElem? later) (lastIndex?_eq_none_iff.mp hr)
      | some k =>
          simp only [lastIndex?, hr, Option.some.injEq] at h
          subst h
          exact Nat.succ_le_succ (le_of_lastIndex? hr later)

theorem position?_eq_none_iff {id : String} : g.position? id = none ↔ id ∉ g.ids :=
  lastIndex?_eq_none_iff

theorem getElem?_of_position? {id : String} {i : Nat} (h : g.position? id = some i) :
    g.ids[i]? = some id :=
  getElem?_of_lastIndex? h

theorem exists_position {id : String} (h : id ∈ g.ids) : ∃ i, g.position? id = some i :=
  Option.ne_none_iff_exists'.mp fun hn => position?_eq_none_iff.mp hn h

theorem getElem?_inj_of_nodup {xs : List String} (nodup : xs.Nodup) {i j : Nat} {id : String}
    (hi : xs[i]? = some id) (hj : xs[j]? = some id) : i = j := by
  obtain ⟨hlt, -⟩ := List.getElem?_eq_some_iff.mp hi
  exact (List.getElem?_inj hlt nodup).mp (hi.trans hj.symm)

theorem position?_lt {id : String} {i : Nat} (h : g.position? id = some i) :
    i < g.nodes.length := by
  obtain ⟨hlt, -⟩ := List.getElem?_eq_some_iff.mp (getElem?_of_position? h)
  simpa [ids] using hlt

/-! ## Reading the edges -/

theorem arc_eq_ok_iff {e : Edge} {a : Nat × Nat} :
    g.arc e = .ok a ↔ g.position? e.source = some a.1 ∧ g.position? e.target = some a.2 := by
  obtain ⟨s, t⟩ := a
  cases hs : g.position? e.source <;> cases ht : g.position? e.target <;>
    simp [arc, hs, ht]

theorem exists_arc_of_joins {e : Edge} (h : g.Joins e) : ∃ a, g.arc e = .ok a := by
  obtain ⟨s, hs⟩ := exists_position h.1
  obtain ⟨t, ht⟩ := exists_position h.2
  exact ⟨(s, t), arc_eq_ok_iff.mpr ⟨hs, ht⟩⟩

theorem joins_of_arc {e : Edge} {a : Nat × Nat} (h : g.arc e = .ok a) : g.Joins e := by
  obtain ⟨hs, ht⟩ := arc_eq_ok_iff.mp h
  exact ⟨List.mem_of_getElem? (getElem?_of_position? hs),
    List.mem_of_getElem? (getElem?_of_position? ht)⟩

/-- An edge that does not join two nodes is blamed for its source, or for its
target if the source is there. -/
theorem arc_of_not_joins {e : Edge} (h : ¬ g.Joins e) :
    g.arc e =
      .error (.danglingEdge (if e.source ∈ g.ids then e.target else e.source) e.target) := by
  by_cases hs : e.source ∈ g.ids
  · obtain ⟨s, hp⟩ := exists_position hs
    have ht : g.position? e.target = none := position?_eq_none_iff.mpr fun ht => h ⟨hs, ht⟩
    simp [arc, hp, ht, hs]
  · simp [arc, position?_eq_none_iff.mpr hs, hs]

section MapM
variable {α β ε : Type} {f : α → Except ε β}

theorem mapM_cons_eq_ok_iff {x : α} {xs : List α} {ys : List β} :
    (x :: xs).mapM f = .ok ys ↔
      ∃ z zs, f x = .ok z ∧ xs.mapM f = .ok zs ∧ ys = z :: zs := by
  rw [List.mapM_cons]
  cases hx : f x with
  | error e => simp [bind, Except.bind]
  | ok z =>
      cases hr : xs.mapM f with
      | error e => simp [bind, Except.bind]
      | ok zs => simp [bind, Except.bind, pure, Except.pure, eq_comm]

theorem mem_of_mapM_ok : ∀ {xs : List α} {ys : List β}, xs.mapM f = .ok ys →
    ∀ {y : β}, y ∈ ys ↔ ∃ x ∈ xs, f x = .ok y
  | [], ys, h, y => by
      cases h
      simp
  | x :: xs, ys, h, y => by
      obtain ⟨z, zs, hx, hr, rfl⟩ := mapM_cons_eq_ok_iff.mp h
      simp [mem_of_mapM_ok hr, hx, eq_comm]

theorem ok_of_mapM_ok : ∀ {xs : List α} {ys : List β}, xs.mapM f = .ok ys →
    ∀ x ∈ xs, ∃ y, f x = .ok y
  | [], _, _, x, hx => absurd hx List.not_mem_nil
  | z :: zs, ys, h, x, hx => by
      obtain ⟨w, ws, hz, hr, rfl⟩ := mapM_cons_eq_ok_iff.mp h
      rcases List.mem_cons.mp hx with rfl | hx
      · exact ⟨w, hz⟩
      · exact ok_of_mapM_ok hr x hx

theorem exists_mapM_ok : ∀ {xs : List α}, (∀ x ∈ xs, ∃ y, f x = .ok y) →
    ∃ ys, xs.mapM f = .ok ys
  | [], _ => ⟨[], rfl⟩
  | x :: xs, h => by
      obtain ⟨y, hy⟩ := h x List.mem_cons_self
      obtain ⟨ys, hys⟩ := exists_mapM_ok fun z hz => h z (List.mem_cons_of_mem _ hz)
      exact ⟨y :: ys, mapM_cons_eq_ok_iff.mpr ⟨y, ys, hy, hys, rfl⟩⟩

theorem mapM_of_first_error {before after : List α} {x : α} {e : ε}
    (hb : ∀ z ∈ before, ∃ y, f z = .ok y) (hx : f x = .error e) :
    (before ++ x :: after).mapM f = .error e := by
  obtain ⟨ys, hys⟩ := exists_mapM_ok hb
  simp [List.mapM_append, List.mapM_cons, hys, hx, bind, Except.bind]

end MapM

/-- The first edge that names a missing node is the one that is blamed. -/
theorem arcs_of_dangling {before after : List Edge} {e : Edge}
    (he : g.edges = before ++ e :: after) (hb : ∀ d ∈ before, g.Joins d) (h : ¬ g.Joins e) :
    g.arcs =
      .error (.danglingEdge (if e.source ∈ g.ids then e.target else e.source) e.target) := by
  rw [arcs, he]
  exact mapM_of_first_error (fun d hd => exists_arc_of_joins (hb d hd)) (arc_of_not_joins h)

theorem exists_arcs (h : ∀ e ∈ g.edges, g.Joins e) : ∃ arcs, g.arcs = .ok arcs :=
  exists_mapM_ok fun e he => exists_arc_of_joins (h e he)

section Read
variable {arcs : List (Nat × Nat)} (h : g.arcs = .ok arcs)
include h

theorem mem_arcs_iff {a : Nat × Nat} : a ∈ arcs ↔ ∃ e ∈ g.edges, g.arc e = .ok a :=
  mem_of_mapM_ok h

/-- When the edges can be read, none of them names a missing node. -/
theorem joins_of_arcs {e : Edge} (he : e ∈ g.edges) : g.Joins e := by
  obtain ⟨a, ha⟩ := ok_of_mapM_ok h e he
  exact joins_of_arc ha

theorem exists_arc_of_edge {e : Edge} (he : e ∈ g.edges) :
    ∃ a ∈ arcs, g.position? e.source = some a.1 ∧ g.position? e.target = some a.2 := by
  obtain ⟨a, ha⟩ := exists_arc_of_joins (joins_of_arcs h he)
  exact ⟨a, (mem_arcs_iff h).mpr ⟨e, he, ha⟩, arc_eq_ok_iff.mp ha⟩

theorem exists_edge_of_arc {a : Nat × Nat} (ha : a ∈ arcs) :
    ∃ e ∈ g.edges, g.position? e.source = some a.1 ∧ g.position? e.target = some a.2 := by
  obtain ⟨e, he, harc⟩ := (mem_arcs_iff h).mp ha
  exact ⟨e, he, arc_eq_ok_iff.mp harc⟩

theorem arcs_closed : ∀ a ∈ arcs,
    a.1 ∈ List.range g.nodes.length ∧ a.2 ∈ List.range g.nodes.length := by
  intro a ha
  obtain ⟨e, -, hs, ht⟩ := exists_edge_of_arc h ha
  exact ⟨List.mem_range.mpr (position?_lt hs), List.mem_range.mpr (position?_lt ht)⟩

theorem along_of_flows {a b : String} (path : Relation.TransGen g.Flows a b) :
    Relation.TransGen (Along arcs) ((g.position? a).getD 0) ((g.position? b).getD 0) := by
  refine path.lift (fun id => (g.position? id).getD 0) ?_
  rintro _ _ ⟨e, he, rfl, rfl⟩
  obtain ⟨a, ha, hs, ht⟩ := exists_arc_of_edge h he
  show ((g.position? e.source).getD 0, (g.position? e.target).getD 0) ∈ arcs
  rw [hs, ht]
  exact ha

theorem flows_of_along {i j : Nat} (path : Relation.TransGen (Along arcs) i j) :
    Relation.TransGen g.Flows ((g.ids[i]?).getD "") ((g.ids[j]?).getD "") := by
  refine path.lift (fun i => (g.ids[i]?).getD "") ?_
  intro i j ha
  obtain ⟨e, he, hs, ht⟩ := exists_edge_of_arc h ha
  exact ⟨e, he, by simp [getElem?_of_position? hs], by simp [getElem?_of_position? ht]⟩

/-- There is a circle of arcs exactly if there is one of edges. -/
theorem acyclic_arcs_iff :
    (∀ i, ¬ Relation.TransGen (Along arcs) i i) ↔ ∀ id, ¬ Relation.TransGen g.Flows id id := by
  constructor
  · intro hno id circle
    exact hno _ (along_of_flows h circle)
  · intro hno i circle
    exact hno _ (flows_of_along h circle)

end Read

end PipelineScript.Graph
