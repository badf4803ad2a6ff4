/-
# What the two searches find

A search is right for a reason that holds at every moment (`Covers`): what it
has met can be reached, and everything one step away from what it has met and
looked at has been met as well.  When nothing is left to be looked at, what it
has met is closed under steps.

An arc puts its end on the stack once at most, so each look uses up a place of
the stack or the end of an arc that was not met before (`unmet`); as many looks
as there are arcs, and one more for the start, are enough.

`meets` notes a place down when it looks at it and not before, so a place can
stand on its stack more than once.  It is bounded by the steps that leave the
places of the pool (`unlooked`).
-/
import Mathlib.Data.List.Flatten
import Mathlib.Logic.Relation
import Mathlib.Tactic.ByContra
import PipelineScript.Graph.Reach

namespace PipelineScript.Graph

variable {α : Type}

theorem mem_ends [BEq α] [LawfulBEq α] {arcs : List (α × α)} {a b : α} :
    b ∈ ends arcs a ↔ (a, b) ∈ arcs := by
  simp [ends]

/-! ## Everything that can be reached -/

/-- The start counts as met. -/
def Search.Met (start : α) (s : Search α) (a : α) : Prop :=
  a = start ∨ a ∈ s.seen

/-- What holds of a search at every moment. -/
structure Search.Covers (arcs : List (α × α)) (start : α) (s : Search α) : Prop where
  reached : ∀ b ∈ s.seen, b ≠ start ∧ Relation.TransGen (fun x y => (x, y) ∈ arcs) start b
  stack : ∀ a ∈ s.stack, s.Met start a
  looked : ∀ a, s.Met start a → a ∉ s.stack → ∀ b, (a, b) ∈ arcs → s.Met start b

theorem covers_start (arcs : List (α × α)) (start : α) :
    Search.Covers arcs start { stack := [start] } where
  reached _ hb := absurd hb List.not_mem_nil
  stack _ ha := Or.inl (List.mem_singleton.mp ha)
  looked a ha hoff := by
    obtain rfl := ha.resolve_right List.not_mem_nil
    exact absurd List.mem_cons_self hoff

section Reached
variable [DecidableEq α] {arcs : List (α × α)} {start a b : α} {s : Search α} {bs : List α}

/-- How many arcs end at something that is not met. -/
def unmet (arcs : List (α × α)) (start : α) (seen : List α) : Nat :=
  arcs.countP fun a => a.2 != start && !seen.contains a.2

theorem unmet_split (before after : List (α × α)) (a b start : α) (seen : List α) :
    unmet (before ++ (a, b) :: after) start seen =
      unmet before start seen +
        (unmet after start seen + if b = start ∨ b ∈ seen then 0 else 1) := by
  by_cases h : b = start <;> by_cases h' : b ∈ seen <;> simp [unmet, h, h']

theorem unmet_cons_le (arcs : List (α × α)) (start b : α) (seen : List α) :
    unmet arcs start (b :: seen) ≤ unmet arcs start seen := by
  refine List.countP_mono_left fun c _ hc => ?_
  simp only [Bool.and_eq_true, Bool.not_eq_true', List.contains_eq_mem, decide_eq_false_iff_not,
    List.mem_cons, not_or] at hc ⊢
  exact ⟨hc.1, hc.2.2⟩

theorem unmet_cons_lt (harc : (a, b) ∈ arcs) (hnew : ¬ s.Met start b) :
    unmet arcs start (b :: s.seen) < unmet arcs start s.seen := by
  obtain ⟨before, after, rfl⟩ := List.append_of_mem harc
  have hbefore := unmet_cons_le before start b s.seen
  have hafter := unmet_cons_le after start b s.seen
  rw [unmet_split, unmet_split, if_pos (Or.inr List.mem_cons_self),
    if_neg (show ¬ (b = start ∨ b ∈ s.seen) from hnew)]
  omega

/-! ### Meeting the ends of the arcs that leave a place -/

theorem meet_of_met (h : s.Met start b) : s.meet start b = s := by
  rw [Search.meet, if_neg]
  rcases h with rfl | h
  · simp
  · simp [h]

theorem meet_of_new (h : ¬ s.Met start b) :
    s.meet start b = ⟨b :: s.stack, b :: s.seen⟩ := by
  obtain ⟨hb, hnew⟩ := not_or.mp h
  rw [Search.meet, if_pos]
  simp [hb, hnew]

theorem mem_seen_foldl_meet {x : α} : ∀ {bs : List α} {s : Search α},
    x ∈ (bs.foldl (Search.meet start) s).seen ↔ x ∈ s.seen ∨ x ∈ bs ∧ x ≠ start
  | [], s => by simp
  | b :: bs, s => by
      rw [List.foldl_cons, mem_seen_foldl_meet]
      by_cases h : s.Met start b
      · rw [meet_of_met h]
        simp only [Search.Met] at h
        grind
      · rw [meet_of_new h]
        simp only [Search.Met, List.mem_cons] at h ⊢
        grind

theorem met_foldl_meet {x : α} :
    (bs.foldl (Search.meet start) s).Met start x ↔ s.Met start x ∨ x ∈ bs := by
  simp only [Search.Met, mem_seen_foldl_meet]
  by_cases h : x = start
  · simp [h]
  · simp [h]

theorem mem_stack_foldl_meet {x : α} : ∀ {bs : List α} {s : Search α},
    x ∈ (bs.foldl (Search.meet start) s).stack ↔
      x ∈ s.stack ∨ x ∈ bs ∧ ¬ s.Met start x
  | [], s => by simp
  | b :: bs, s => by
      rw [List.foldl_cons, mem_stack_foldl_meet]
      by_cases h : s.Met start b
      · rw [meet_of_met h]
        grind
      · rw [meet_of_new h]
        simp only [Search.Met, List.mem_cons] at h ⊢
        grind

theorem cost_foldl_meet (start : α) : ∀ {bs : List α} (s : Search α), (∀ b ∈ bs, (a, b) ∈ arcs) →
    (bs.foldl (Search.meet start) s).stack.length +
        unmet arcs start (bs.foldl (Search.meet start) s).seen ≤
      s.stack.length + unmet arcs start s.seen
  | [], s, _ => Nat.le_refl _
  | b :: bs, s, h => by
      have rest : ∀ c ∈ bs, (a, c) ∈ arcs := fun c hc => h c (List.mem_cons_of_mem b hc)
      rw [List.foldl_cons]
      refine Nat.le_trans (cost_foldl_meet start _ rest) ?_
      by_cases met : s.Met start b
      · exact Nat.le_of_eq (by rw [meet_of_met met])
      · have fewer := unmet_cons_lt (h b List.mem_cons_self) met
        rw [meet_of_new met]
        simp only [List.length_cons]
        omega

/-! ### The search -/

/-- Looking at the place on top of the stack. -/
theorem Search.Covers.look {stack seen : List α} (h : Search.Covers arcs start ⟨a :: stack, seen⟩) :
    Search.Covers arcs start ((ends arcs a).foldl (Search.meet start) ⟨stack, seen⟩) := by
  have top : a = start ∨ a ∈ seen := h.stack a List.mem_cons_self
  refine ⟨fun b hb => ?_, fun x hx => met_foldl_meet.mpr ?_,
    fun x hx hoff b harc => met_foldl_meet.mpr ?_⟩
  · rcases mem_seen_foldl_meet.mp hb with hb | ⟨hend, apart⟩
    · exact h.reached b hb
    · refine ⟨apart, ?_⟩
      rcases top with rfl | top
      · exact .single (mem_ends.mp hend)
      · exact (h.reached a top).2.tail (mem_ends.mp hend)
  · rcases mem_stack_foldl_meet.mp hx with hx | ⟨hx, -⟩
    · exact Or.inl (h.stack x (List.mem_cons_of_mem a hx))
    · exact Or.inr hx
  · by_cases hxa : x = a
    · exact Or.inr (mem_ends.mpr (hxa ▸ harc))
    · obtain ⟨hstack, hnew⟩ := not_or.mp (mt mem_stack_foldl_meet.mpr hoff)
      have hmet : Search.Met start ⟨stack, seen⟩ x := by
        rcases met_foldl_meet.mp hx with hmet | hend
        · exact hmet
        · by_contra hmet
          exact hnew ⟨hend, hmet⟩
      have hrest : x ∉ a :: stack := fun hx => (List.mem_cons.mp hx).elim hxa hstack
      exact Or.inl (h.looked x hmet hrest b harc)

theorem Search.Covers.run : ∀ (looks : Nat) {s : Search α}, s.Covers arcs start →
    s.stack.length + unmet arcs start s.seen ≤ looks →
      Search.Covers arcs start ⟨[], Search.run arcs start looks s⟩
  | 0, s, h, room => by
      have none : s.stack = [] := List.eq_nil_of_length_eq_zero (by omega)
      rw [Search.run, ← none]
      exact h
  | looks + 1, ⟨[], seen⟩, h, _ => h
  | looks + 1, ⟨a :: stack, seen⟩, h, room => by
      have along : ∀ b ∈ ends arcs a, (a, b) ∈ arcs := fun b => mem_ends.mp
      have cost := cost_foldl_meet start ⟨stack, seen⟩ along
      simp only [List.length_cons] at room cost
      exact h.look.run looks (by omega)

/-- What is collected is what can be reached in one or more steps. -/
theorem mem_reached_iff :
    b ∈ reached arcs start ↔
      b ≠ start ∧ Relation.TransGen (fun x y => (x, y) ∈ arcs) start b := by
  have room : 1 + unmet arcs start [] ≤ arcs.length + 1 := by
    rw [Nat.add_comm]
    exact Nat.succ_le_succ List.countP_le_length
  have covers := (covers_start arcs start).run (arcs.length + 1) room
  have closed : ∀ x y, Search.Met start ⟨[], reached arcs start⟩ x → (x, y) ∈ arcs →
      Search.Met start ⟨[], reached arcs start⟩ y :=
    fun x y hx harc => covers.looked x hx List.not_mem_nil y harc
  constructor
  · exact covers.reached b
  · rintro ⟨apart, path⟩
    suffices Search.Met start ⟨[], reached arcs start⟩ b from this.resolve_left apart
    clear apart
    induction path with
    | single harc => exact closed _ _ (Or.inl rfl) harc
    | tail _ harc ih => exact closed _ _ ih harc

end Reached

/-! ## Meeting a goal -/

section Goal
variable {next : α → List α} {pool stack seen : List α} {goal a : α}

/-- One step within the pool. -/
def Within (next : α → List α) (pool : List α) (a b : α) : Prop :=
  a ∈ pool ∧ b ∈ next a

/-- Neither the goal nor a place of the pool that was not looked at. -/
def Passed (pool seen : List α) (goal a : α) : Prop :=
  a ≠ goal ∧ (a ∈ pool → a ∈ seen)

theorem Passed.mono {final : List α} (h : Passed pool seen goal a) (more : seen ⊆ final) :
    Passed pool final goal a :=
  ⟨h.1, fun ha => more (h.2 ha)⟩

/-- Every step from a place that was looked at leads to the stack, or has been
passed. -/
def Followed (next : α → List α) (pool : List α) (goal : α) (stack seen : List α) : Prop :=
  ∀ a ∈ seen, ∀ b ∈ next a, b ∈ stack ∨ Passed pool seen goal b

theorem Followed.drop (h : Followed next pool goal (a :: stack) seen)
    (passed : Passed pool seen goal a) : Followed next pool goal stack seen := by
  intro x hx b hb
  rcases h x hx b hb with hb | hb
  · rcases List.mem_cons.mp hb with rfl | hb
    · exact Or.inr passed
    · exact Or.inl hb
  · exact Or.inr hb

theorem Followed.look (h : Followed next pool goal (a :: stack) seen) (hgoal : a ≠ goal) :
    Followed next pool goal ((next a).reverse ++ stack) (a :: seen) := by
  intro x hx b hb
  rcases List.mem_cons.mp hx with rfl | hx
  · exact Or.inl (List.mem_append_left _ (List.mem_reverse.mpr hb))
  · rcases h x hx b hb with hb | hb
    · rcases List.mem_cons.mp hb with rfl | hb
      · exact Or.inr ⟨hgoal, fun _ => List.mem_cons_self⟩
      · exact Or.inl (List.mem_append_right _ hb)
    · exact Or.inr (hb.mono (List.subset_cons_self a seen))

variable [DecidableEq α]

/-- How many steps leave places of the pool that were not looked at. -/
def unlooked (next : α → List α) (pool seen : List α) : Nat :=
  ((pool.filter fun a => !seen.contains a).flatMap next).length

theorem unlooked_cons (ha : a ∈ pool) (hnew : a ∉ seen) :
    (next a).length + unlooked next pool (a :: seen) ≤ unlooked next pool seen := by
  have fewer : pool.filter (fun x => !(a :: seen).contains x) =
      (pool.filter fun x => !seen.contains x).filter (· != a) := by
    rw [List.filter_filter]
    refine List.filter_congr fun x _ => ?_
    by_cases hx : x = a <;> simp [hx]
  have member : a ∈ pool.filter fun x => !seen.contains x :=
    List.mem_filter.mpr ⟨ha, by simpa using hnew⟩
  obtain ⟨before, after, split⟩ := List.append_of_mem member
  have rest : ((before ++ a :: after).filter (· != a)).Sublist (before ++ after) := by
    rw [List.filter_append, List.filter_cons_of_neg (by simp)]
    exact List.filter_sublist.append List.filter_sublist
  have steps := (rest.flatMap next).length_le
  rw [unlooked, unlooked, fewer, split]
  simp only [List.flatMap_append, List.flatMap_cons, List.length_append] at steps ⊢
  omega

theorem exists_path_of_meets : ∀ (looks : Nat) {stack seen : List α},
    meets next pool goal looks stack seen = true →
      ∃ a ∈ stack, Relation.ReflTransGen (Within next pool) a goal
  | 0, _, _, h => by simp [meets] at h
  | looks + 1, [], _, h => by simp [meets] at h
  | looks + 1, a :: stack, seen, h => by
      rw [meets] at h
      split at h
      · next ha => exact ⟨a, List.mem_cons_self, by rw [eq_of_beq ha]⟩
      · split at h
        · obtain ⟨b, hb, path⟩ := exists_path_of_meets looks h
          exact ⟨b, List.mem_cons_of_mem a hb, path⟩
        · next hpool =>
          obtain ⟨b, hb, path⟩ := exists_path_of_meets looks h
          rcases List.mem_append.mp hb with hb | hb
          · have ha : a ∈ pool := by
              by_contra ha
              exact hpool (by simp [ha])
            exact ⟨a, List.mem_cons_self, path.head ⟨ha, List.mem_reverse.mp hb⟩⟩
          · exact ⟨b, List.mem_cons_of_mem a hb, path⟩

/-- A search that fails has passed everything that it was led to. -/
theorem exists_passed_of_not_meets : ∀ (looks : Nat) {stack seen : List α},
    stack.length + unlooked next pool seen ≤ looks → Followed next pool goal stack seen →
    meets next pool goal looks stack seen = false →
      ∃ final, seen ⊆ final ∧ (∀ a ∈ stack, Passed pool final goal a) ∧
        ∀ a ∈ final, ∀ b ∈ next a, Passed pool final goal b
  | _, [], seen, _, h, _ =>
      ⟨seen, List.Subset.refl seen, fun a ha => absurd ha List.not_mem_nil,
        fun a ha b hb => (h a ha b hb).resolve_left List.not_mem_nil⟩
  | 0, a :: stack, seen, room, _, _ => by simp at room
  | looks + 1, a :: stack, seen, room, h, fails => by
      rw [List.length_cons] at room
      by_cases hgoal : a = goal
      · simp [meets, hgoal] at fails
      by_cases hpool : a ∈ pool ∧ a ∉ seen
      · have uses : (next a).length + unlooked next pool (a :: seen) ≤ unlooked next pool seen :=
          unlooked_cons hpool.1 hpool.2
        have fails : meets next pool goal looks ((next a).reverse ++ stack) (a :: seen) = false := by
          simpa [meets, hgoal, hpool.1, hpool.2] using fails
        obtain ⟨final, keeps, passed, closed⟩ := exists_passed_of_not_meets looks
          (by rw [List.length_append, List.length_reverse]; omega) (h.look hgoal) fails
        have top : Passed pool final goal a := ⟨hgoal, fun _ => keeps List.mem_cons_self⟩
        exact ⟨final, fun x hx => keeps (List.mem_cons_of_mem a hx),
          List.forall_mem_cons.mpr ⟨top, fun x hx => passed x (List.mem_append_right _ hx)⟩, closed⟩
      · have top : Passed pool seen goal a := ⟨hgoal, fun ha => by simpa [ha] using hpool⟩
        have fails : meets next pool goal looks stack seen = false := by
          have pass : a ∉ pool ∨ a ∈ seen := Decidable.not_or_of_imp top.2
          simpa [meets, hgoal, pass] using fails
        obtain ⟨final, keeps, passed, closed⟩ := exists_passed_of_not_meets looks (by omega)
          (h.drop top) fails
        exact ⟨final, keeps, List.forall_mem_cons.mpr ⟨top.mono keeps, passed⟩, closed⟩

/-- With enough looks, the goal is met exactly if it can be reached. -/
theorem meets_iff {looks : Nat}
    (room : stack.length + unlooked next pool [] ≤ looks) :
    meets next pool goal looks stack [] = true ↔
      ∃ a ∈ stack, Relation.ReflTransGen (Within next pool) a goal := by
  refine ⟨exists_path_of_meets looks, fun ⟨a, ha, path⟩ => ?_⟩
  by_contra fails
  have followed : Followed next pool goal stack [] := fun x hx => absurd hx List.not_mem_nil
  obtain ⟨final, -, passed, closed⟩ :=
    exists_passed_of_not_meets looks room followed (Bool.eq_false_iff.mpr fails)
  have away : ∀ x, Relation.ReflTransGen (Within next pool) x goal → ¬ Passed pool final goal x := by
    intro x path
    induction path using Relation.ReflTransGen.head_induction_on with
    | refl => exact fun h => h.1 rfl
    | head step _ ih => exact fun h => ih (closed _ (h.2 step.1) _ step.2)
  exact away a path (passed a ha)

end Goal

end PipelineScript.Graph
