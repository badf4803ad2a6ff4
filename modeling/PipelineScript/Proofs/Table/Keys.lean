/-
# Keys for new rows

The keys of new rows are the texts of ordinals, handed out one after the other
from where the last search ended (`handOut`).  With room among the ordinals a
new key differs from all keys in the table, even when the count has come round
(`handOut_fresh`); as long as it has not, the ordinals are handed out in order
(`handOut_inOrder`).

Whatever an edit does, it keeps some of the keys and hands out some new ones
(`applied_rekeyed`).
-/
import Mathlib.Data.List.Nodup
import Mathlib.Data.Nat.Find
import PipelineScript.Proofs.Table.Edits
import PipelineScript.Proofs.Text.Numbered
import PipelineScript.Proofs.Text.Ordinal

namespace PipelineScript

open Text (ordinalText ordinalCount greatestOrdinal)

/-! ## A free ordinal -/

section Free
variable {keys : List String}

theorem firstFreeOrdinal_eq : ∀ {tries i : Nat} {n : UInt64}, i ≤ tries →
    ordinalText (n + UInt64.ofNat i) ∉ keys →
    (∀ j < i, ordinalText (n + UInt64.ofNat j) ∈ keys) →
    firstFreeOrdinal keys tries n = n + UInt64.ofNat i
  | 0, i, n, hi, _, _ => by
      obtain rfl := Nat.le_zero.mp hi
      simp [firstFreeOrdinal]
  | tries + 1, 0, n, _, free, _ => by
      have free : ordinalText n ∉ keys := by simpa using free
      rw [firstFreeOrdinal, if_neg (mt List.contains_iff_mem.mp free)]
      simp
  | tries + 1, i + 1, n, hi, free, taken => by
      have first : ordinalText n ∈ keys := by simpa using taken 0 (Nat.succ_pos i)
      rw [firstFreeOrdinal, if_pos (List.contains_iff_mem.mpr first), ← Text.succ_add_ofNat]
      refine firstFreeOrdinal_eq (Nat.le_of_succ_le_succ hi) ?_ fun j hj => ?_
      · rwa [Text.succ_add_ofNat]
      · rw [Text.succ_add_ofNat]
        exact taken (j + 1) (Nat.succ_lt_succ hj)

/-- Keys cannot take all ordinals if they are fewer, so the search stops before
it has come round: at the first ordinal, counted from where it starts, whose text
is no key. -/
theorem exists_freeOrdinal_eq (room : keys.length < ordinalCount) (n : UInt64) :
    ∃ i < ordinalCount, freeOrdinal keys n = n + UInt64.ofNat i ∧
      ordinalText (n + UInt64.ofNat i) ∉ keys ∧
      ∀ j < i, ordinalText (n + UInt64.ofNat j) ∈ keys := by
  have apart : ∀ i < keys.length + 1, ∀ j < keys.length + 1,
      ordinalText (n + UInt64.ofNat i) = ordinalText (n + UInt64.ofNat j) → i = j :=
    fun i hi j hj h => Text.ordinal_add_inj (by omega) (by omega) (Text.ordinalText_inj h)
  obtain ⟨k, hk, hfree⟩ := Text.exists_lt_not_mem apart (Nat.lt_succ_self _)
  have free : ∃ i, ordinalText (n + UInt64.ofNat i) ∉ keys := ⟨k, hfree⟩
  have bound : Nat.find free ≤ keys.length :=
    Nat.le_trans (Nat.find_min' free hfree) (Nat.le_of_lt_succ hk)
  have taken : ∀ j < Nat.find free, ordinalText (n + UInt64.ofNat j) ∈ keys := fun j hj =>
    Decidable.not_not.mp (Nat.find_min free hj)
  exact ⟨_, by omega, firstFreeOrdinal_eq bound (Nat.find_spec free) taken, Nat.find_spec free,
    taken⟩

theorem freeOrdinal_not_mem (room : keys.length < ordinalCount) (n : UInt64) :
    ordinalText (freeOrdinal keys n) ∉ keys := by
  obtain ⟨i, -, he, hfree, -⟩ := exists_freeOrdinal_eq room n
  exact he ▸ hfree

theorem freeOrdinal_of_not_mem {n : UInt64} (h : ordinalText n ∉ keys) :
    freeOrdinal keys n = n := by
  have free : ordinalText (n + UInt64.ofNat 0) ∉ keys := by simpa using h
  have stops := @firstFreeOrdinal_eq keys keys.length 0 n (Nat.zero_le _) free nofun
  simpa [freeOrdinal] using stops

end Free

/-! ## Handing out keys -/

/-- So many new keys, none of them among the old ones or another, and where the
next search starts. -/
def handOut (keys : List String) (next : UInt64) : Nat → List String × UInt64
  | 0 => ([], next)
  | count + 1 =>
    let n := freeOrdinal keys next
    let (more, last) := handOut (ordinalText n :: keys) (n + 1) count
    (ordinalText n :: more, last)

section HandOut
variable {keys : List String} {next : UInt64} {count : Nat}

theorem handOut_length : (handOut keys next count).1.length = count := by
  induction count generalizing keys next with
  | zero => rfl
  | succ count ih => simp [handOut, ih]

/-- New keys differ from the old ones and from each other. -/
theorem handOut_fresh (room : keys.length + count ≤ ordinalCount) :
    (handOut keys next count).1.Nodup ∧ ∀ key ∈ (handOut keys next count).1, key ∉ keys := by
  induction count generalizing keys next with
  | zero => simp [handOut]
  | succ count ih =>
      have hfree := @freeOrdinal_not_mem keys (by omega) next
      obtain ⟨nodup, new⟩ := @ih (ordinalText (freeOrdinal keys next) :: keys)
        (freeOrdinal keys next + 1) (by rw [List.length_cons]; omega)
      refine ⟨List.nodup_cons.mpr ⟨fun h => new _ h List.mem_cons_self, nodup⟩, ?_⟩
      exact List.forall_mem_cons.mpr ⟨hfree, fun key h hmem =>
        new key h (List.mem_cons_of_mem _ hmem)⟩

/-- Short of the greatest ordinal, with all later ones free, the ordinals are
handed out in order. -/
theorem handOut_inOrder
    (clear : ∀ o : UInt64, next.toNat ≤ o.toNat → o ≠ greatestOrdinal → ordinalText o ∉ keys) :
    (∀ i < count, next.toNat + i < greatestOrdinal.toNat →
      (handOut keys next count).1[i]? = some (ordinalText (next + UInt64.ofNat i))) ∧
    (next.toNat + count ≤ greatestOrdinal.toNat →
      (handOut keys next count).2.toNat = next.toNat + count) := by
  induction count generalizing keys next with
  | zero => exact ⟨fun i hi => absurd hi (Nat.not_lt_zero i), fun _ => rfl⟩
  | succ count ih =>
      by_cases hlast : next = greatestOrdinal
      · constructor <;> intros <;> simp only [hlast] at * <;> omega
      have hfree := freeOrdinal_of_not_mem (clear next (Nat.le_refl _) hlast)
      have hlt := Text.toNat_lt_greatest hlast
      have hsucc := Text.toNat_succ hlast
      have clear' : ∀ o : UInt64, (next + 1).toNat ≤ o.toNat → o ≠ greatestOrdinal →
          ordinalText o ∉ ordinalText next :: keys := by
        intro o ho hne hmem
        rcases List.mem_cons.mp hmem with he | hmem
        · rw [Text.ordinalText_inj he] at ho
          omega
        · exact clear o (by omega) hne hmem
      obtain ⟨inOrder, last⟩ := ih clear'
      simp only [handOut, hfree]
      refine ⟨fun i hi hbound => ?_, fun hbound => ?_⟩
      · cases i with
        | zero => simp
        | succ i =>
            rw [List.getElem?_cons_succ, inOrder i (by omega) (by omega), Text.succ_add_ofNat]
      · rw [last (by omega)]
        omega

end HandOut

/-! ## What an edit does to the keys -/

namespace Table

variable {ρ : Type} [Row ρ] {kind : TableKind}

theorem keys_length (t : Table ρ) : t.keys.length = t.size := by
  simp [keys, rows, size]

/-- The edit has kept these keys and has handed out so many new ones. -/
structure Rekeyed (t t' : Table ρ) (kept fresh : List String) (count : Nat) : Prop where
  sub : kept ⊆ t.keys
  nodup : t.keys.Nodup → kept.Nodup
  keys : t'.keys.Perm (kept ++ fresh)
  handOut : handOut kept t.nextOrdinal count = (fresh, t'.nextOrdinal)

/-- The keys of the rows that were made for columns that had none, in order. -/
def rebuiltKeys (t t' : Table MappingRow) (columns : List Column) : List String :=
  ((matchColumns t.entries columns).zip t'.keys).filterMap fun
    | (.new _, key) => some key
    | (.kept _, _) => none

/-- The keys of the rows that an edit has made, in order. -/
def newKeys : {kind : TableKind} → (t t' : Table kind.RowType) → TableEdit kind → List String
  | _, t, t', .add => t'.keys.drop t.keys.length
  | .mappings, t, t', .schema columns => rebuiltKeys t t' columns
  | .mappings, t, t', .receiveSchema (.ok (.current columns)) => rebuiltKeys t t' columns
  | _, _, _, _ => []

section Rekeyed
variable {t t' : Table ρ} {kept fresh : List String} {count : Nat}
  (rekeyed : Rekeyed t t' kept fresh count)
include rekeyed

theorem Rekeyed.fresh_length : fresh.length = count := by
  have := @handOut_length kept t.nextOrdinal count
  rwa [rekeyed.handOut] at this

theorem Rekeyed.apart (size : t'.size ≤ ordinalCount) :
    fresh.Nodup ∧ ∀ key ∈ fresh, key ∉ kept := by
  have room : kept.length + count ≤ ordinalCount := by
    rwa [← keys_length, rekeyed.keys.length_eq, List.length_append, rekeyed.fresh_length] at size
  have := @handOut_fresh kept t.nextOrdinal count room
  rwa [rekeyed.handOut] at this

theorem Rekeyed.distinct (size : t'.size ≤ ordinalCount) (distinct : t.keys.Nodup) :
    t'.keys.Nodup := by
  obtain ⟨nodup, apart⟩ := rekeyed.apart size
  refine rekeyed.keys.nodup_iff.mpr (List.nodup_append.mpr ⟨rekeyed.nodup distinct, nodup, ?_⟩)
  rintro _ hkept _ hfresh rfl
  exact apart _ hfresh hkept

end Rekeyed

theorem rekeyed_of_sublist {t t' : Table ρ} (keys : t'.keys.Sublist t.keys)
    (next : t'.nextOrdinal = t.nextOrdinal) : Rekeyed t t' t'.keys [] 0 where
  sub := keys.subset
  nodup := keys.nodup
  keys := by simp
  handOut := by rw [PipelineScript.handOut, next]

theorem rekeyed_of_rows {t t' : Table ρ} (rows : t'.rows = t.rows)
    (next : t'.nextOrdinal = t.nextOrdinal) : Rekeyed t t' t'.keys [] 0 := by
  refine rekeyed_of_sublist ?_ next
  rw [Table.keys, Table.keys, rows]

theorem withRow_keys (t : Table kind.RowType) :
    t.withRow.keys = t.keys ++ [ordinalText t.freshOrdinal.1] := by
  have key_blank : ∀ key n, Row.key (Row.blank key n : kind.RowType) = key := by
    cases kind <;> intros <;> rfl
  simp [Table.keys, rows, withRow, key_blank]

theorem rekeyed_withRow (t : Table kind.RowType) :
    Rekeyed t t.withRow t.keys (newKeys t t.withRow .add) 1 := by
  refine ⟨List.Subset.refl _, id, ?_, ?_⟩ <;> simp only [newKeys, withRow_keys, List.drop_left]
  · exact List.Perm.refl _
  · rfl

theorem key_apply (r : kind.RowType) (patch : Row.Patch kind.RowType) :
    Row.key (Row.apply r patch) = Row.key r := by
  cases kind <;> rfl

theorem keys_eq (t : Table ρ) : t.keys = t.entries.map fun e => Row.key e.row := by
  simp [Table.keys, rows]

theorem rekeyed_withUpdate (t : Table kind.RowType) (key : String)
    (patch : Row.Patch kind.RowType) :
    Rekeyed t (t.withUpdate key patch) (t.withUpdate key patch).keys [] 0 := by
  refine rekeyed_of_sublist ?_ rfl
  rw [keys_eq, keys_eq, withUpdate, map_updateFirst fun e => key_apply e.row patch]

theorem rekeyed_without (t : Table ρ) (key : String) :
    Rekeyed t (t.without key) (t.without key).keys [] 0 := by
  refine rekeyed_of_sublist ?_ rfl
  rw [keys_eq, keys_eq]
  exact List.eraseP_sublist.map _

/-! ### Rebuilding from a schema -/

theorem keptKeys_subset : ∀ {columns : List Column} {old : List (TableEntry MappingRow)},
    keptKeys (matchColumns old columns) ⊆ old.map (·.row.key)
  | [], _ => by simp [matchColumns, keptKeys]
  | c :: columns, old => by
      cases hfind : old.find? (·.row.outputName == c.value) with
      | none => simpa [matchColumns, hfind, keptKeys] using @keptKeys_subset columns old
      | some e =>
          have ih := @keptKeys_subset columns (old.filter (·.row.outputName != c.value))
          have he : e ∈ old := List.mem_of_find?_eq_some hfind
          simp only [matchColumns, hfind, keptKeys, List.filterMap_cons] at ih ⊢
          refine List.cons_subset.mpr ⟨List.mem_map_of_mem he, List.Subset.trans ih ?_⟩
          exact (List.filter_sublist.map _).subset

theorem keptKeys_nodup : ∀ {columns : List Column} {old : List (TableEntry MappingRow)},
    (old.map (·.row.key)).Nodup → (keptKeys (matchColumns old columns)).Nodup
  | [], _, _ => by simp [matchColumns, keptKeys]
  | c :: columns, old, nodup => by
      cases hfind : old.find? (·.row.outputName == c.value) with
      | none =>
          have ih := @keptKeys_nodup columns old nodup
          simpa [matchColumns, hfind, keptKeys] using ih
      | some e =>
          have rest : (old.filter (·.row.outputName != c.value)).Sublist old :=
            List.filter_sublist
          have ih := @keptKeys_nodup columns _ ((rest.map _).nodup nodup)
          have he : e ∈ old := List.mem_of_find?_eq_some hfind
          have hname : e.row.outputName = c.value := by simpa using List.find?_some hfind
          -- no other entry has the key, and this one is not among the rest
          have hnew : e.row.key ∉ keptKeys
              (matchColumns (old.filter (·.row.outputName != c.value)) columns) := by
            intro hmem
            obtain ⟨d, hd, hkey⟩ := List.mem_map.mp (keptKeys_subset hmem)
            have hde := List.inj_on_of_nodup_map nodup (rest.subset hd) he hkey
            have := (List.mem_filter.mp hd).2
            simp [hde, hname] at this
          simp only [matchColumns, hfind, keptKeys, List.filterMap_cons] at ih hnew ⊢
          exact List.nodup_cons.mpr ⟨hnew, ih⟩

/-- How many entries are new. -/
def newCount (ms : List Matched) : Nat :=
  ms.countP fun
    | .new _ => true
    | .kept _ => false

theorem withKeys_eq : ∀ (ms : List Matched) (keys : List String) (next : UInt64),
    (withKeys keys next ms).2 = (handOut keys next (newCount ms)).2 ∧
      ((ms.zip ((withKeys keys next ms).1.map (·.row.key))).filterMap fun
        | (.new _, key) => some key
        | (.kept _, _) => none) = (handOut keys next (newCount ms)).1 ∧
      ((withKeys keys next ms).1.map (·.row.key)).Perm
        (keptKeys ms ++ (handOut keys next (newCount ms)).1)
  | [], _, _ => ⟨rfl, rfl, List.Perm.refl _⟩
  | .kept e :: ms, keys, next => by
      obtain ⟨last, fresh, perm⟩ := withKeys_eq ms keys next
      refine ⟨?_, ?_, ?_⟩
      · simpa [withKeys, newCount] using last
      · simpa [withKeys, newCount] using fresh
      · simpa [withKeys, newCount, keptKeys] using perm
  | .new c :: ms, keys, next => by
      obtain ⟨last, fresh, perm⟩ :=
        withKeys_eq ms (ordinalText (freeOrdinal keys next) :: keys) (freeOrdinal keys next + 1)
      have count : newCount (.new c :: ms) = newCount ms + 1 := by simp [newCount]
      rw [count]
      refine ⟨?_, ?_, ?_⟩
      · simpa [withKeys, handOut] using last
      · simpa [withKeys, handOut] using fresh
      · have := (perm.cons (ordinalText (freeOrdinal keys next))).trans List.perm_middle.symm
        simpa [withKeys, handOut, keptKeys] using this

theorem rekeyed_withSchema (t : Table MappingRow) (columns : List Column) :
    Rekeyed t (t.withSchema columns) (keptKeys (matchColumns t.entries columns))
      (rebuiltKeys t (t.withSchema columns) columns)
      (newCount (matchColumns t.entries columns)) := by
  have old : t.keys = t.entries.map (·.row.key) := keys_eq t
  have new : (t.withSchema columns).keys = (withKeys (keptKeys (matchColumns t.entries columns))
      t.nextOrdinal (matchColumns t.entries columns)).1.map (·.row.key) := keys_eq _
  obtain ⟨last, fresh, perm⟩ := withKeys_eq (matchColumns t.entries columns)
    (keptKeys (matchColumns t.entries columns)) t.nextOrdinal
  have handed : rebuiltKeys t (t.withSchema columns) columns =
      (handOut (keptKeys (matchColumns t.entries columns)) t.nextOrdinal
        (newCount (matchColumns t.entries columns))).1 := by
    rw [← fresh, ← new]
    rfl
  refine ⟨?_, fun nodup => keptKeys_nodup (old ▸ nodup), ?_, ?_⟩
  · exact old ▸ keptKeys_subset
  · rw [new, handed]
    exact perm
  · rw [handed]
    exact Prod.ext rfl last.symm

/-- **What an edit does to the keys**: it keeps some of them, and hands out new
ones for the rows that it makes. -/
theorem applied_rekeyed (t : Table kind.RowType) (e : TableEdit kind) :
    ∃ kept count, Rekeyed t (t.applied e) kept (newKeys t (t.applied e) e) count := by
  cases e with
  | add => exact ⟨_, _, rekeyed_withRow t⟩
  | update key patch => exact ⟨_, _, rekeyed_withUpdate t key patch⟩
  | delete key => exact ⟨_, _, rekeyed_without t key⟩
  | beginEdit key =>
      have next : (t.beginEdit key).2.nextOrdinal = t.nextOrdinal := by
        unfold beginEdit
        split <;> rfl
      exact ⟨_, _, rekeyed_of_rows (beginEdit_rows t key) next⟩
  | sync | pending | failure | choices => exact ⟨_, _, rekeyed_of_rows rfl rfl⟩
  | receiveChoices outcome =>
      obtain cause | columns | _ := outcome <;> exact ⟨_, _, rekeyed_of_rows rfl rfl⟩
  | select key value =>
      cases h : t.choices.find? (·.value == value) with
      | none =>
          have same := applied_select_none key h
          exact ⟨_, _, rekeyed_of_rows (congrArg rows same) (congrArg nextOrdinal same)⟩
      | some c =>
          rw [applied_select_some key h]
          exact ⟨_, _, @rekeyed_withUpdate .mappings t key _⟩
  | schema columns => exact ⟨_, _, rekeyed_withSchema t columns⟩
  | receiveSchema outcome =>
      obtain cause | columns | _ := outcome
      · exact ⟨_, _, rekeyed_of_rows rfl rfl⟩
      · exact ⟨_, _, rekeyed_withSchema t columns⟩
      · exact ⟨_, _, rekeyed_of_rows rfl rfl⟩

end Table

end PipelineScript
