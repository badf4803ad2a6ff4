/-
# Placing the earliest position first

`place` is the order of a pipeline without its bookkeeping: it takes the first
ready position of its pool, drops the arcs that leave it, and starts again.
That `Graph.order`, which counts arcs and keeps the ready positions sorted,
places the same is shown in `PipelineScript.Proofs.Graph.Sweep`.

Three facts say everything about a run of `place` that later modules need:

  * nothing is lost: the placed positions and those left over are the pool
    (`place_perm`), and of the arcs those remain that start at no placed
    position (`place_arcs`);
  * it is greedy: a position is placed as soon as all arcs into it start at
    placed positions, and of several such positions the least comes first
    (`place_earliest`);
  * it stops for a reason: with as many steps as the pool has positions, each
    position left over has an arc into it from another one left over
    (`exists_arc_of_left`), so it stops early exactly on a cycle
    (`place_pool_eq_nil_iff`).

The pool of an order is a range, hence sorted; sortedness is what turns
"first in the pool" into "least".
-/
import Mathlib.Data.Fintype.Card
import Mathlib.Data.Fintype.EquivFin
import Mathlib.Data.Fintype.Sets
import Mathlib.Data.List.Basic
import Mathlib.Logic.Relation
import PipelineScript.Graph.Order

namespace PipelineScript.Graph

/-- Is no arc left that leads to this position? -/
def ready (arcs : List (Nat × Nat)) (i : Nat) : Bool :=
  arcs.all fun a => a.2 != i

/-- What has been placed, and what is left when no position is ready. -/
structure Placement where
  placed : List Nat
  pool : List Nat
  arcs : List (Nat × Nat)

/-- Places the first ready position of the pool and drops its arcs, over and
over. -/
def place : (steps : Nat) → (pool : List Nat) → (arcs : List (Nat × Nat)) → Placement
  | 0, pool, arcs => ⟨[], pool, arcs⟩
  | steps + 1, pool, arcs =>
    match pool.find? (ready arcs) with
    | none => ⟨[], pool, arcs⟩
    | some i =>
      let rest := place steps (pool.erase i) (arcs.filter fun a => a.1 != i)
      { rest with placed := i :: rest.placed }

/-- Every arc into `i` starts at a position of `placed`. -/
def Supplied (arcs : List (Nat × Nat)) (placed : List Nat) (i : Nat) : Prop :=
  ∀ a ∈ arcs, a.2 = i → a.1 ∈ placed

/-- One step along an arc. -/
def Along (arcs : List (Nat × Nat)) (i j : Nat) : Prop :=
  (i, j) ∈ arcs

theorem ready_iff_supplied {arcs : List (Nat × Nat)} {i : Nat} :
    ready arcs i = true ↔ Supplied arcs [] i := by
  simp [ready, Supplied]

theorem supplied_filter {arcs : List (Nat × Nat)} {before placed : List Nat} {i : Nat} :
    Supplied (arcs.filter fun a => !before.contains a.1) placed i ↔
      Supplied arcs (before ++ placed) i := by
  simp only [Supplied, List.mem_filter, Bool.not_eq_true', List.contains_eq_mem,
    decide_eq_false_iff_not, List.mem_append]
  constructor
  · intro h a ha hi
    by_cases hb : a.1 ∈ before
    · exact Or.inl hb
    · exact Or.inr (h a ⟨ha, hb⟩ hi)
  · intro h a ⟨ha, hb⟩ hi
    exact (h a ha hi).resolve_left hb

/-! ## What one step does -/

section Step
variable {pool : List Nat} {arcs : List (Nat × Nat)} {i : Nat}

theorem place_succ_none (steps : Nat) (h : pool.find? (ready arcs) = none) :
    place (steps + 1) pool arcs = ⟨[], pool, arcs⟩ := by
  simp [place, h]

theorem place_succ_some (steps : Nat) (h : pool.find? (ready arcs) = some i) :
    place (steps + 1) pool arcs =
      let rest := place steps (pool.erase i) (arcs.filter fun a => a.1 != i)
      ⟨i :: rest.placed, rest.pool, rest.arcs⟩ := by
  simp [place, h]

/-- The position that a step places is the least ready one of a sorted pool. -/
theorem find_ready_least (sorted : pool.Pairwise (· < ·))
    (h : pool.find? (ready arcs) = some i) {j : Nat} (hj : j ∈ pool)
    (hs : Supplied arcs [] j) : i ≤ j := by
  obtain ⟨-, before, after, rfl, hb⟩ := List.find?_eq_some_iff_append.mp h
  rcases List.mem_append.mp hj with hj | hj
  · have hr := hb j hj
    rw [ready_iff_supplied.mpr hs] at hr
    exact absurd hr (by decide)
  · rcases List.mem_cons.mp hj with rfl | hj
    · exact Nat.le_refl _
    · have hi := (List.pairwise_append.mp sorted).2.1
      exact Nat.le_of_lt ((List.pairwise_cons.mp hi).1 j hj)

end Step

/-! ## Nothing is lost -/

theorem place_perm : ∀ (steps : Nat) (pool : List Nat) (arcs : List (Nat × Nat)),
    ((place steps pool arcs).placed ++ (place steps pool arcs).pool).Perm pool
  | 0, pool, arcs => .refl _
  | steps + 1, pool, arcs => by
      cases h : pool.find? (ready arcs) with
      | none => rw [place_succ_none steps h]; exact .refl _
      | some i =>
          rw [place_succ_some steps h]
          have ih := place_perm steps (pool.erase i) (arcs.filter fun a => a.1 != i)
          exact (ih.cons i).trans (List.perm_cons_erase (List.mem_of_find?_eq_some h)).symm

theorem place_pool : ∀ (steps : Nat) (pool : List Nat) (arcs : List (Nat × Nat)),
    (place steps pool arcs).pool = pool.diff (place steps pool arcs).placed
  | 0, pool, arcs => by simp [place]
  | steps + 1, pool, arcs => by
      cases h : pool.find? (ready arcs) with
      | none => rw [place_succ_none steps h]; simp
      | some i =>
          rw [place_succ_some steps h]
          have ih := place_pool steps (pool.erase i) (arcs.filter fun a => a.1 != i)
          rwa [List.diff_cons]

theorem place_arcs : ∀ (steps : Nat) (pool : List Nat) (arcs : List (Nat × Nat)),
    (place steps pool arcs).arcs =
      arcs.filter fun a => !(place steps pool arcs).placed.contains a.1
  | 0, pool, arcs => by simp [place]
  | steps + 1, pool, arcs => by
      cases h : pool.find? (ready arcs) with
      | none => rw [place_succ_none steps h]; simp
      | some i =>
          rw [place_succ_some steps h]
          have ih := place_arcs steps (pool.erase i) (arcs.filter fun a => a.1 != i)
          show (place steps (pool.erase i) (arcs.filter fun a => a.1 != i)).arcs = _
          rw [ih, List.filter_filter]
          refine List.filter_congr fun a _ => ?_
          by_cases hi : a.1 = i <;> simp [hi]

/-! ## The placement is greedy -/

section Greedy
variable {steps : Nat} {pool : List Nat} {arcs : List (Nat × Nat)} {before after : List Nat} {i : Nat}

/-- The step that places `i` finds it in the pool without the positions before
it, by the arcs that start at none of them. -/
theorem find_of_placed (h : (place steps pool arcs).placed = before ++ i :: after) :
    (pool.diff before).find? (ready (arcs.filter fun a => !before.contains a.1)) = some i := by
  induction steps generalizing pool arcs before with
  | zero => simp [place] at h
  | succ steps ih =>
      cases hf : pool.find? (ready arcs) with
      | none => simp [place_succ_none steps hf] at h
      | some k =>
          rw [place_succ_some steps hf] at h
          cases before with
          | nil =>
              obtain ⟨rfl, -⟩ := List.cons.inj h
              simpa using hf
          | cons l before =>
              obtain ⟨rfl, hrest⟩ := List.cons.inj h
              have left : (arcs.filter fun a => !(k :: before).contains a.1) =
                  (arcs.filter fun a => a.1 != k).filter fun a => !before.contains a.1 := by
                rw [List.filter_filter]
                refine List.filter_congr fun a _ => ?_
                by_cases hk : a.1 = k <;> simp [hk]
              rw [List.diff_cons, left]
              exact ih hrest

theorem place_supplied (h : (place steps pool arcs).placed = before ++ i :: after) :
    Supplied arcs before i := by
  have hs := supplied_filter.mp (ready_iff_supplied.mp (List.find?_some (find_of_placed h)))
  rwa [List.append_nil] at hs

/-- When `i` is placed, it is the least of the positions that are not placed
and whose predecessors are. -/
theorem place_earliest (sorted : pool.Pairwise (· < ·))
    (h : (place steps pool arcs).placed = before ++ i :: after) {j : Nat} (hj : j ∈ pool)
    (hnew : j ∉ before) (hs : Supplied arcs before j) : i ≤ j := by
  refine find_ready_least (sorted.sublist (List.diff_sublist pool before)) (find_of_placed h)
    (List.mem_diff_of_mem hj hnew) (supplied_filter.mpr ?_)
  rwa [List.append_nil]

end Greedy

/-! ## Why it stops -/

/-- With enough steps no position that is left over is ready. -/
theorem left_not_ready : ∀ (steps : Nat) (pool : List Nat) (arcs : List (Nat × Nat)),
    pool.length ≤ steps → ∀ i ∈ (place steps pool arcs).pool,
      ready (place steps pool arcs).arcs i = false
  | 0, pool, arcs => by
      intro hl i hi
      have : pool = [] := List.eq_nil_of_length_eq_zero (Nat.le_zero.mp hl)
      subst this
      simp [place] at hi
  | steps + 1, pool, arcs => by
      intro hl
      cases h : pool.find? (ready arcs) with
      | none =>
          rw [place_succ_none steps h]
          intro i hi
          simpa using List.find?_eq_none.mp h i hi
      | some k =>
          rw [place_succ_some steps h]
          refine left_not_ready steps _ _ ?_
          rw [List.length_erase_of_mem (List.mem_of_find?_eq_some h)]
          omega

section Stuck
variable {pool : List Nat} {arcs : List (Nat × Nat)}

theorem exists_arc_of_left (closed : ∀ a ∈ arcs, a.1 ∈ pool) {i : Nat}
    (hi : i ∈ (place pool.length pool arcs).pool) :
    ∃ j ∈ (place pool.length pool arcs).pool, Along arcs j i := by
  have hr := left_not_ready pool.length pool arcs (Nat.le_refl _) i hi
  simp only [ready, List.all_eq_false, bne_iff_ne, ne_eq, Decidable.not_not] at hr
  obtain ⟨⟨j, i'⟩, ha, rfl⟩ := hr
  rw [place_arcs, List.mem_filter] at ha
  obtain ⟨ha, hnew⟩ := ha
  have hj := (place_perm pool.length pool arcs).symm.subset (closed _ ha)
  refine ⟨j, (List.mem_append.mp hj).resolve_left ?_, ha⟩
  simpa using hnew

/-- A finite set in which every position has a predecessor holds a cycle. -/
theorem exists_cycle_of_predecessors {left : List Nat} (hne : left ≠ [])
    (h : ∀ i ∈ left, ∃ j ∈ left, Along arcs j i) :
    ∃ i ∈ left, Relation.TransGen (Along arcs) i i := by
  by_contra hno
  let r : {i // i ∈ left} → {i // i ∈ left} → Prop :=
    fun i j => Relation.TransGen (Along arcs) i.1 j.1
  have : IsTrans _ r := ⟨fun _ _ _ => Relation.TransGen.trans⟩
  have : Std.Irrefl r := ⟨fun i hi => hno ⟨i.1, i.2, hi⟩⟩
  have wf : WellFounded r := Finite.wellFounded_of_trans_of_irrefl r
  have none : ∀ i : {i // i ∈ left}, False := fun i => by
    induction i using wf.induction with
    | _ i ih =>
        obtain ⟨j, hj, ha⟩ := h i.1 i.2
        exact ih ⟨j, hj⟩ (.single ha)
  obtain ⟨i, hi⟩ := List.exists_mem_of_ne_nil left hne
  exact none ⟨i, hi⟩

/-- Along a list in which every position is supplied by those before it, arcs
lead to later places. -/
theorem idxOf_lt_of_along {placed : List Nat} (nodup : placed.Nodup)
    (hs : ∀ before i after, placed = before ++ i :: after → Supplied arcs before i)
    {i j : Nat} (hj : j ∈ placed) (ha : Along arcs i j) :
    i ∈ placed ∧ placed.idxOf i < placed.idxOf j := by
  obtain ⟨before, after, rfl⟩ := List.append_of_mem hj
  have hi : i ∈ before := hs before j after rfl _ ha rfl
  have hnj : j ∉ before := fun hb =>
    (List.disjoint_of_nodup_append nodup) hb List.mem_cons_self
  refine ⟨List.mem_append_left _ hi, ?_⟩
  rw [List.idxOf_append_of_mem hi, List.idxOf_append_of_notMem hnj]
  exact Nat.lt_of_lt_of_le (List.idxOf_lt_length_of_mem hi) (Nat.le_add_right _ _)

theorem idxOf_lt_of_path {placed : List Nat} (nodup : placed.Nodup)
    (hs : ∀ before i after, placed = before ++ i :: after → Supplied arcs before i)
    {i j : Nat} (path : Relation.TransGen (Along arcs) i j) :
    j ∈ placed → i ∈ placed ∧ placed.idxOf i < placed.idxOf j := by
  induction path with
  | single ha =>
      intro hj
      exact idxOf_lt_of_along nodup hs hj ha
  | tail _ ha ih =>
      intro hj
      obtain ⟨hk, hlt⟩ := idxOf_lt_of_along nodup hs hj ha
      obtain ⟨hi, hlt'⟩ := ih hk
      exact ⟨hi, Nat.lt_trans hlt' hlt⟩

theorem not_placed_of_circle (nodup : pool.Nodup) {steps i : Nat}
    (circle : Relation.TransGen (Along arcs) i i) : i ∉ (place steps pool arcs).placed := by
  intro hi
  have once := (place_perm steps pool arcs).nodup_iff.mpr nodup
  have placed := (List.nodup_append.mp once).1
  have supplied : ∀ before j after, (place steps pool arcs).placed = before ++ j :: after →
      Supplied arcs before j := fun _ _ _ h => place_supplied h
  exact Nat.lt_irrefl _ (idxOf_lt_of_path placed supplied circle hi).2

/-- All positions are placed exactly if no arcs lead in a circle. -/
theorem place_pool_eq_nil_iff (nodup : pool.Nodup)
    (closed : ∀ a ∈ arcs, a.1 ∈ pool ∧ a.2 ∈ pool) :
    (place pool.length pool arcs).pool = [] ↔
      ∀ i, ¬ Relation.TransGen (Along arcs) i i := by
  constructor
  · intro hnil i circle
    have perm := place_perm pool.length pool arcs
    rw [hnil, List.append_nil] at perm
    obtain ⟨j, -, ha⟩ := Relation.TransGen.tail'_iff.mp circle
    exact not_placed_of_circle nodup circle (perm.symm.subset (closed _ ha).2)
  · intro hno
    by_contra hne
    obtain ⟨i, -, hi⟩ := exists_cycle_of_predecessors hne fun i hi =>
      exists_arc_of_left (fun a ha => (closed a ha).1) hi
    exact hno i hi

end Stuck

end PipelineScript.Graph
