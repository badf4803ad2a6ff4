/-
# A sweep places what `place` places

`Graph.order` never looks for the next position.  It counts for each position
the arcs that lead there, keeps the positions without any in a sorted queue, and
counts down when a position leaves the queue.  What it knows at any moment is
fixed by the pool and by the targets of the arcs that are left (`tally`):
dropping one arc takes one target away (`release_tally`), so dropping all arcs
of a position leads to the state that belongs to the arcs that remain.

Hence a sweep is `place` (`sweep_eq_placed`), about which everything else is
proved.
-/
import PipelineScript.Proofs.Graph.Placement
import PipelineScript.Proofs.Graph.Reach

namespace PipelineScript.Graph

/-! ## The queue -/

theorem enqueue_of_forall_le {j : Nat} : ∀ {is : List Nat}, (∀ i ∈ is, j ≤ i) →
    enqueue j is = j :: is
  | [], _ => rfl
  | i :: is, h => by rw [enqueue, if_pos (h i List.mem_cons_self)]

/-- A position that is ready from now on goes where the pool has it. -/
theorem enqueue_filter {p q : Nat → Bool} {j : Nat} (off : p j = false) (on : q j = true)
    (same : ∀ i, i ≠ j → q i = p i) : ∀ {pool : List Nat}, pool.Pairwise (· < ·) → j ∈ pool →
      enqueue j (pool.filter p) = pool.filter q
  | [], _, hj => absurd hj List.not_mem_nil
  | i :: pool, sorted, hj => by
      obtain ⟨first, sorted⟩ := List.pairwise_cons.mp sorted
      by_cases h : j = i
      · subst h
        have rest : pool.filter q = pool.filter p :=
          List.filter_congr fun k hk => same k (Nat.ne_of_gt (first k hk))
        rw [List.filter_cons_of_neg (by simp [off]), List.filter_cons_of_pos on, rest]
        exact enqueue_of_forall_le fun k hk =>
          Nat.le_of_lt (first k (List.mem_of_mem_filter hk))
      · have hj : j ∈ pool := (List.mem_cons.mp hj).resolve_left h
        have ih := enqueue_filter off on same sorted hj
        have later : ¬ j ≤ i := Nat.not_le.mpr (first j hj)
        have hi := same i (Ne.symm h)
        cases hp : p i with
        | true => simp [hp, hi.trans hp, enqueue, later, ih]
        | false => simp [hp, hi.trans hp, ih]

/-! ## What a sweep knows -/

/-- The state of a sweep over so many positions, by the pool and the targets of
the arcs that are left. -/
def tally (n : Nat) (pool targets : List Nat) : Sweep where
  ready := pool.filter fun i => !targets.contains i
  inDegrees := (List.range n).map fun i => targets.count i

theorem release_eq {s : Sweep} {j left : Nat} (h : s.inDegrees.getD j 0 - 1 = left) :
    s.release j = ⟨if left = 0 then enqueue j s.ready else s.ready, s.inDegrees.set j left⟩ := by
  subst h
  rfl

section Tally
variable {n : Nat} {pool : List Nat}

theorem tally_of_perm {targets targets' : List Nat} (perm : targets.Perm targets') :
    tally n pool targets = tally n pool targets' := by
  simp only [tally, Sweep.mk.injEq]
  constructor
  · refine List.filter_congr fun i _ => ?_
    rw [Bool.eq_iff_iff]
    simp [perm.mem_iff]
  · exact List.map_congr_left fun i _ => perm.count_eq i

variable (sorted : pool.Pairwise (· < ·)) (below : ∀ i ∈ pool, i < n)
include sorted below

theorem release_tally {j : Nat} (hj : j ∈ pool) (targets : List Nat) :
    (tally n pool (j :: targets)).release j = tally n pool targets := by
  have left : (tally n pool (j :: targets)).inDegrees.getD j 0 - 1 = targets.count j := by
    simp [tally, below j hj]
  rw [release_eq left, tally, tally, Sweep.mk.injEq]
  constructor
  · by_cases h : targets.count j = 0
    · have gone : j ∉ targets := List.count_eq_zero.mp h
      rw [if_pos h]
      exact enqueue_filter (by simp) (by simpa using gone) (fun i hi => by simp [hi]) sorted hj
    · have again : j ∈ targets := List.count_pos_iff.mp (Nat.pos_of_ne_zero h)
      rw [if_neg h]
      refine List.filter_congr fun i _ => ?_
      by_cases hi : i = j
      · simp [hi, again]
      · simp [hi]
  · refine List.ext_getElem (by simp) fun i _ _ => ?_
    by_cases hi : j = i
    · simp [hi]
    · simp [List.getElem_set_ne hi, hi]

theorem foldl_release_tally (targets : List Nat) : ∀ {js : List Nat}, (∀ j ∈ js, j ∈ pool) →
    js.foldl Sweep.release (tally n pool (js ++ targets)) = tally n pool targets
  | [], _ => rfl
  | j :: js, h => by
      rw [List.foldl_cons, List.cons_append,
        release_tally sorted below (h j List.mem_cons_self) (js ++ targets)]
      exact foldl_release_tally targets fun k hk => h k (List.mem_cons_of_mem j hk)

end Tally

/-! ## A sweep -/

theorem targets_perm (arcs : List (Nat × Nat)) (i : Nat) :
    (ends arcs i ++ (arcs.filter fun a => a.1 != i).map Prod.snd).Perm (arcs.map Prod.snd) := by
  rw [ends, ← List.map_append]
  exact (List.filter_append_perm (fun a : Nat × Nat => a.1 == i) arcs).map Prod.snd

section Step
variable {n i : Nat} {pool others : List Nat} {arcs : List (Nat × Nat)}

theorem tally_ready : (tally n pool (arcs.map Prod.snd)).ready = pool.filter (ready arcs) := by
  refine List.filter_congr fun i _ => ?_
  have : ready arcs i = true ↔ i ∉ arcs.map Prod.snd := by
    simp only [ready, List.all_eq_true, bne_iff_ne, List.mem_map, not_exists, not_and]
  rw [Bool.eq_iff_iff, this]
  simp

theorem tally_dequeue (sorted : pool.Pairwise (· < ·))
    (h : pool.filter (ready arcs) = i :: others) :
    ({ tally n pool (arcs.map Prod.snd) with ready := others } : Sweep) =
      tally n (pool.erase i) (arcs.map Prod.snd) := by
  have distinct : pool.Nodup := sorted.imp Nat.ne_of_lt
  have : others = (pool.erase i).filter (ready arcs) := by
    calc others = (pool.filter (ready arcs)).erase i := by rw [h, List.erase_cons_head]
      _ = _ := by
          rw [(distinct.filter _).erase_eq_filter, distinct.erase_eq_filter, List.filter_comm]
  rw [this, ← tally_ready (n := n)]
  rfl

/-- Placing a position and dropping the arcs that leave it. -/
theorem tally_step (sorted : pool.Pairwise (· < ·)) (below : ∀ j ∈ pool, j < n)
    (closed : ∀ a ∈ arcs, a.2 ∈ pool) (h : pool.filter (ready arcs) = i :: others) :
    (ends arcs i).foldl Sweep.release { tally n pool (arcs.map Prod.snd) with ready := others } =
      tally n (pool.erase i) ((arcs.filter fun a => a.1 != i).map Prod.snd) := by
  have hready : ready arcs i = true :=
    (List.mem_filter.mp (h ▸ List.mem_cons_self : i ∈ pool.filter (ready arcs))).2
  have inside : ∀ j ∈ ends arcs i, j ∈ pool.erase i := by
    intro j hj
    have ha := mem_ends.mp hj
    have hne : j ≠ i := by
      have := List.all_eq_true.mp hready _ ha
      simpa using this
    exact (List.mem_erase_of_ne hne).mpr (closed _ ha)
  rw [tally_dequeue sorted h, ← tally_of_perm (targets_perm arcs i)]
  exact foldl_release_tally (sorted.sublist List.erase_sublist)
    (fun j hj => below j (List.mem_of_mem_erase hj)) _ inside

end Step

theorem ends_filter_of_ne {i j : Nat} (h : j ≠ i) (arcs : List (Nat × Nat)) :
    ends (arcs.filter fun a => a.1 != i) j = ends arcs j := by
  rw [ends, ends, List.filter_filter]
  refine congrArg _ (List.filter_congr fun a _ => ?_)
  by_cases ha : a.1 = j
  · simp [ha, h]
  · simp [ha]

/-- A sweep places what `place` places. -/
theorem sweep_eq_placed {n : Nat} {successors : List (List Nat)} :
    ∀ (steps : Nat) {pool : List Nat} {arcs : List (Nat × Nat)}, pool.Pairwise (· < ·) →
      (∀ i ∈ pool, i < n) → (∀ a ∈ arcs, a.2 ∈ pool) →
      (∀ i ∈ pool, successors.getD i [] = ends arcs i) →
      sweep successors steps (tally n pool (arcs.map Prod.snd)) = (place steps pool arcs).placed
  | 0, _, _, _, _, _, _ => rfl
  | steps + 1, pool, arcs, sorted, below, closed, linked => by
      have first : (pool.filter (ready arcs)).head? = pool.find? (ready arcs) :=
        List.head?_filter
      cases hq : pool.filter (ready arcs) with
      | nil =>
          rw [hq] at first
          rw [place_succ_none steps first.symm, sweep, tally_ready, hq]
      | cons i others =>
          rw [hq] at first
          have hi := List.mem_filter.mp (hq ▸ List.mem_cons_self : i ∈ pool.filter (ready arcs))
          have away : ∀ a ∈ arcs, a.2 ≠ i := by simpa [ready] using hi.2
          have distinct : pool.Nodup := sorted.imp Nat.ne_of_lt
          have linked' : ∀ j ∈ pool.erase i,
              successors.getD j [] = ends (arcs.filter fun a => a.1 != i) j := by
            intro j hj
            obtain ⟨hne, hj⟩ := (distinct.mem_erase_iff).mp hj
            rw [linked j hj, ends_filter_of_ne hne]
          have closed' : ∀ a ∈ arcs.filter fun a => a.1 != i, a.2 ∈ pool.erase i := by
            intro a ha
            have ha := List.mem_of_mem_filter ha
            exact (List.mem_erase_of_ne (away a ha)).mpr (closed a ha)
          have ih := sweep_eq_placed steps (sorted.sublist (List.erase_sublist (a := i)))
            (fun j hj => below j (List.mem_of_mem_erase hj)) closed' linked'
          calc sweep successors (steps + 1) (tally n pool (arcs.map Prod.snd))
              = i :: sweep successors steps ((successors.getD i []).foldl Sweep.release
                  { tally n pool (arcs.map Prod.snd) with ready := others }) := by
                rw [sweep, tally_ready, hq]
            _ = i :: (place steps (pool.erase i) (arcs.filter fun a => a.1 != i)).placed := by
                rw [linked i hi.1, tally_step sorted below closed hq, ih]
            _ = (place (steps + 1) pool arcs).placed := by
                rw [place_succ_some steps first.symm]

/-! ## The links -/

section Links

theorem getElem?_foldl_add (arcs : List (Nat × Nat)) : ∀ (l : Links) (i : Nat),
    (arcs.foldl Links.add l).inDegrees[i]? =
        l.inDegrees[i]?.map (· + (arcs.map Prod.snd).count i) ∧
      (arcs.foldl Links.add l).successors[i]? = l.successors[i]?.map (· ++ ends arcs i) := by
  induction arcs with
  | nil => intro l i; simp [ends]
  | cons a arcs ih =>
      intro l i
      rw [List.foldl_cons, (ih (l.add a) i).1, (ih (l.add a) i).2, Links.add]
      constructor
      · by_cases h : a.2 = i
        · simp [h, Function.comp_def, Nat.add_assoc, Nat.add_comm 1]
        · simp [h]
      · by_cases h : a.1 = i
        · simp [h, Function.comp_def, ends]
        · simp [h, ends]

variable {n : Nat} {arcs : List (Nat × Nat)}

theorem inDegrees_linksOf :
    (linksOf n arcs).inDegrees = (List.range n).map fun i => (arcs.map Prod.snd).count i := by
  refine List.ext_getElem? fun i => ?_
  rw [linksOf, (getElem?_foldl_add arcs _ i).1]
  by_cases h : i < n <;> simp [h]

theorem successors_linksOf : (linksOf n arcs).successors = (List.range n).map (ends arcs) := by
  refine List.ext_getElem? fun i => ?_
  rw [linksOf, (getElem?_foldl_add arcs _ i).2]
  by_cases h : i < n <;> simp [h]

theorem successors_getD {i : Nat} (h : i < n) :
    (linksOf n arcs).successors.getD i [] = ends arcs i := by
  simp [successors_linksOf, h]

theorem tally_range : tally n (List.range n) (arcs.map Prod.snd) =
    ⟨(List.range n).filter fun i => (linksOf n arcs).inDegrees.getD i 0 == 0,
      (linksOf n arcs).inDegrees⟩ := by
  rw [tally, Sweep.mk.injEq, inDegrees_linksOf]
  refine ⟨List.filter_congr fun i hi => ?_, rfl⟩
  rw [Bool.eq_iff_iff]
  simp [List.mem_range.mp hi, List.count_eq_zero]

theorem sweep_range (closed : ∀ a ∈ arcs, a.2 ∈ List.range n) :
    sweep (linksOf n arcs).successors n
        ⟨(List.range n).filter fun i => (linksOf n arcs).inDegrees.getD i 0 == 0,
          (linksOf n arcs).inDegrees⟩ =
      (place n (List.range n) arcs).placed := by
  rw [← tally_range]
  exact sweep_eq_placed n List.pairwise_lt_range (fun _ => List.mem_range.mp) closed
    fun _ hi => successors_getD (List.mem_range.mp hi)

theorem unplaced_range :
    ((List.range n).filter fun i => !(place n (List.range n) arcs).placed.contains i) =
      (place n (List.range n) arcs).pool := by
  rw [place_pool, List.nodup_range.sdiff_eq_filter]
  refine List.filter_congr fun i _ => ?_
  rw [Bool.eq_iff_iff]
  simp

end Links

end PipelineScript.Graph
