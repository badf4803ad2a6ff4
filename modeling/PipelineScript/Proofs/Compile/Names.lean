/-
# The table of names

`allocate` hands out the first free numbered name of a base.  Different bases
may lead to the same text, `df1` and `1` as much as `df` and `11`; what keeps
names apart is only that a taken one is never handed out (`HasRoom.allocate`).
That asks for a free suffix among those that are tried (`HasRoom`), and a table
with fewer names than there are suffixes has one for every base
(`hasRoom_of_size`, by counting).

Names that were allocated one after the other stand at the head of the table,
the latest first, and giving them back restores it (`releaseAll_reverse`).
-/
import PipelineScript.Compile.Names
import PipelineScript.Proofs.Text.Numbered

namespace PipelineScript.Compile.Names

variable {names : Names} {base : String}

theorem isTaken_iff {name : String} : names.isTaken name = true ↔ name ∈ names.taken := by
  simp [isTaken]

/-! ## The first free suffix -/

/-- The search ends at the first free suffix, or all suffixes are taken. -/
theorem firstFree_cases (names : Names) (base : String) : ∀ tries k : Nat,
    (∃ j, k ≤ j ∧ j < k + tries ∧ names.firstFree base tries k = base ++ toString j ∧
      base ++ toString j ∉ names.taken ∧ ∀ i, k ≤ i → i < j → base ++ toString i ∈ names.taken) ∨
    ∀ i, k ≤ i → i < k + tries → base ++ toString i ∈ names.taken
  | 0, k => Or.inr fun i hk hi => absurd hi (by omega)
  | tries + 1, k => by
      by_cases h : base ++ toString k ∈ names.taken
      · have hstep : names.firstFree base (tries + 1) k = names.firstFree base tries (k + 1) := by
          rw [firstFree, if_pos (isTaken_iff.mpr h)]
        -- the suffix `k` is taken, so what is known from `k + 1` on holds from `k` on
        have hfrom : ∀ {i : Nat}, k ≤ i → (k + 1 ≤ i → base ++ toString i ∈ names.taken) →
            base ++ toString i ∈ names.taken := by
          intro i hk hi
          rcases Nat.eq_or_lt_of_le hk with rfl | hlt
          · exact h
          · exact hi hlt
        rcases firstFree_cases names base tries (k + 1) with ⟨j, hkj, hj, he, hfree, hmin⟩ | hall
        · exact Or.inl ⟨j, by omega, by omega, hstep.trans he, hfree,
            fun i hk hi => hfrom hk fun hk' => hmin i hk' hi⟩
        · exact Or.inr fun i hk hi => hfrom hk fun hk' => hall i hk' (by omega)
      · refine Or.inl ⟨k, Nat.le_refl k, by omega, ?_, h, fun i hk hi => absurd hi (by omega)⟩
        rw [firstFree, if_neg (mt isTaken_iff.mp h)]

theorem exists_digits (names : Names) (base : String) :
    ∃ digits : String, (∀ c ∈ digits.toList, c.isDigit = true) ∧
      (names.allocate base).1 = base ++ digits := by
  suffices ∀ tries k : Nat, ∃ digits : String, (∀ c ∈ digits.toList, c.isDigit = true) ∧
      names.firstFree base tries k = base ++ digits from this suffixLimit 1
  intro tries
  induction tries with
  | zero => exact fun _ => ⟨"", by simp, (String.append_empty).symm⟩
  | succ tries ih =>
      intro k
      rw [firstFree]
      split
      · exact ih (k + 1)
      · exact ⟨toString k, fun _ => Text.digit_of_mem_toString, rfl⟩

/-! ## Room for one more -/

/-- One of the numbered names that are tried for this base is free. -/
def HasRoom (names : Names) (base : String) : Prop :=
  ∃ k, 1 ≤ k ∧ k ≤ suffixLimit ∧ base ++ toString k ∉ names.taken

theorem hasRoom_of_size (room : names.size < suffixLimit) (base : String) :
    names.HasRoom base := by
  obtain ⟨k, hk, hlt, hfree⟩ := Text.exists_numbered_not_mem room base 1
  exact ⟨k, hk, by omega, hfree⟩

/-- With room, the new name is the first numbered one that is free, and is
added. -/
theorem HasRoom.allocate_first (room : names.HasRoom base) :
    ∃ k, 1 ≤ k ∧ k ≤ suffixLimit ∧ base ++ toString k ∉ names.taken ∧
      (∀ i, 1 ≤ i → i < k → base ++ toString i ∈ names.taken) ∧
      names.allocate base = (base ++ toString k, ⟨(base ++ toString k) :: names.taken⟩) := by
  obtain ⟨i, hi, hlimit, hfree⟩ := room
  rcases firstFree_cases names base suffixLimit 1 with ⟨k, hk, hlt, he, hnew, hmin⟩ | hall
  · refine ⟨k, hk, by omega, hnew, hmin, ?_⟩
    rw [Names.allocate, he, insert, if_neg (mt isTaken_iff.mp hnew)]
  · exact absurd (hall i hi (by omega)) hfree

theorem HasRoom.allocate (room : names.HasRoom base) :
    ∃ k, 1 ≤ k ∧ k ≤ suffixLimit ∧ base ++ toString k ∉ names.taken ∧
      names.allocate base = (base ++ toString k, ⟨(base ++ toString k) :: names.taken⟩) := by
  obtain ⟨k, hk, hlimit, hnew, -, he⟩ := room.allocate_first
  exact ⟨k, hk, hlimit, hnew, he⟩

/-! ## Giving names back -/

theorem releaseAll_taken (names : Names) (given : List String) :
    (names.releaseAll given).taken = names.taken.diff given := by
  rw [List.diff_eq_foldl]
  induction given generalizing names with
  | nil => rfl
  | cons name given ih => exact ih (names.release name)

theorem releaseAll_reverse {given rest : List String} (h : names.taken = given.reverse ++ rest)
    (nodup : names.taken.Nodup) : (names.releaseAll given).taken = rest := by
  rw [releaseAll_taken, nodup.sdiff_eq_filter, h, List.filter_append]
  rw [h] at nodup
  have hdisjoint := List.disjoint_of_nodup_append nodup
  have hgiven : given.reverse.filter (fun name => decide (name ∉ given)) = [] :=
    List.filter_eq_nil_iff.mpr fun name hname => by simpa using hname
  have hrest : rest.filter (fun name => decide (name ∉ given)) = rest :=
    List.filter_eq_self.mpr fun name hname => by
      have : name ∉ given := fun hg => hdisjoint (List.mem_reverse.mpr hg) hname
      simpa using this
  rw [hgiven, hrest, List.nil_append]

/-! ## Reserved names -/

theorem insert_nodup (nodup : names.taken.Nodup) (name : String) :
    (names.insert name).taken.Nodup := by
  by_cases h : name ∈ names.taken
  · rw [insert, if_pos (isTaken_iff.mpr h)]
    exact nodup
  · rw [insert, if_neg (mt isTaken_iff.mp h)]
    exact List.nodup_cons.mpr ⟨h, nodup⟩

theorem mem_insert {name other : String} :
    other ∈ (names.insert name).taken ↔ other = name ∨ other ∈ names.taken := by
  by_cases h : name ∈ names.taken
  · rw [insert, if_pos (isTaken_iff.mpr h)]
    exact ⟨Or.inr, fun ho => ho.elim (fun he => he ▸ h) id⟩
  · rw [insert, if_neg (mt isTaken_iff.mp h)]
    exact List.mem_cons

theorem ofList_nodup (reserved : List String) : (ofList reserved).taken.Nodup := by
  suffices ∀ names : Names, names.taken.Nodup → (reserved.foldl insert names).taken.Nodup from
    this {} List.nodup_nil
  induction reserved with
  | nil => exact fun _ h => h
  | cons name reserved ih => exact fun names h => ih _ (insert_nodup h name)

theorem mem_ofList {reserved : List String} {name : String} :
    name ∈ (ofList reserved).taken ↔ name ∈ reserved := by
  suffices ∀ names : Names, name ∈ (reserved.foldl insert names).taken ↔
      name ∈ reserved ∨ name ∈ names.taken by
    have := this {}
    simpa [ofList] using this
  induction reserved with
  | nil => simp
  | cons other reserved ih =>
      intro names
      rw [List.foldl_cons, ih, mem_insert, List.mem_cons]
      tauto

end PipelineScript.Compile.Names
