/-
# Numbered names

A numbered name is a base followed by a number in decimal.  Different numbers
give different names, so a list of names cannot hold more of them than it is
long: among more numbers than that, one is free.
-/
import Mathlib.Data.List.Nodup
import Mathlib.Data.List.Perm.Subperm
import Std.Data.String.ToNat

namespace PipelineScript.Text

theorem numbered_inj {base : String} {i j : Nat} (h : base ++ toString i = base ++ toString j) :
    i = j :=
  Nat.repr_injective ((String.append_right_inj base).mp h)

theorem digit_of_mem_toString {k : Nat} {c : Char} (h : c ∈ (toString k).toList) :
    c.isDigit = true := by
  have written : (toString k).toList = Nat.toDigits 10 k := by simp
  exact Nat.isDigit_of_mem_toDigits (by decide) (by decide) (written ▸ h)

theorem exists_lt_not_mem {taken : List String} {tries : Nat} {name : Nat → String}
    (apart : ∀ i < tries, ∀ j < tries, name i = name j → i = j) (room : taken.length < tries) :
    ∃ i < tries, name i ∉ taken := by
  by_contra hno
  simp only [not_exists, not_and, Decidable.not_not] at hno
  have nodup : ((List.range tries).map name).Nodup :=
    List.Nodup.map_on (fun i hi j hj => apart i (List.mem_range.mp hi) j (List.mem_range.mp hj))
      List.nodup_range
  have sub : (List.range tries).map name ⊆ taken := by
    intro _ hname
    obtain ⟨i, hi, rfl⟩ := List.mem_map.mp hname
    exact hno i (List.mem_range.mp hi)
  have hle := (nodup.subperm sub).length_le
  rw [List.length_map, List.length_range] at hle
  exact absurd room (Nat.not_lt.mpr hle)

theorem exists_numbered_not_mem {taken : List String} {tries : Nat}
    (room : taken.length < tries) (base : String) (k : Nat) :
    ∃ i, k ≤ i ∧ i < k + tries ∧ base ++ toString i ∉ taken := by
  have apart : ∀ i < tries, ∀ j < tries,
      base ++ toString (k + i) = base ++ toString (k + j) → i = j := fun i _ j _ h =>
    Nat.add_left_cancel (numbered_inj h)
  obtain ⟨i, hi, free⟩ := exists_lt_not_mem apart room
  exact ⟨k + i, Nat.le_add_right k i, Nat.add_lt_add_left hi k, free⟩

end PipelineScript.Text
