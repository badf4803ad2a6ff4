/-
# Ordinals and their texts

A text is read as the ordinal that it writes in decimal (`Writes`), and every
ordinal can be read back from its text, so different ordinals have different
texts.  Not every text of an ordinal is the one that is written for it: `+7` and
`007` are read as 7.

Counting on from an ordinal passes all others before it comes back
(`ordinal_add_inj`).
-/
import Std.Data.String.ToNat
import PipelineScript.Text.Ordinal

namespace PipelineScript.Text

/-- The text writes this number: decimal digits, with or without a plus sign in
front. -/
def Writes (s : String) (n : Nat) : Prop :=
  ∃ digits : List Char, digits ≠ [] ∧ (∀ c ∈ digits, c.isDigit = true) ∧
    (s.toList = digits ∨ s.toList = '+' :: digits) ∧ Nat.ofDigitChars 10 digits 0 = n

theorem digitsValue_eq_some_iff {n : Nat} : ∀ {cs : List Char} {acc : Nat},
    digitsValue acc cs = some n ↔
      (∀ c ∈ cs, c.isDigit = true) ∧ Nat.ofDigitChars 10 cs acc = n := by
  intro cs
  induction cs with
  | nil =>
      intro acc
      simp [digitsValue]
  | cons c cs ih =>
      intro acc
      rw [digitsValue, List.forall_mem_cons]
      by_cases hc : c.isDigit = true
      · rw [if_pos hc, ih, Nat.ofDigitChars_cons, Nat.mul_comm acc]
        simp [hc]
      · simp [hc]

theorem natOfText?_eq_some_iff {s : String} {n : Nat} : natOfText? s = some n ↔ Writes s n := by
  constructor
  · intro h
    rw [natOfText?] at h
    split at h
    · cases h
    · cases h
    · next digits single chars =>
      obtain ⟨all, value⟩ := digitsValue_eq_some_iff.mp h
      exact ⟨digits, fun empty => single empty, all, Or.inr chars, value⟩
    · next nonempty _ _ =>
      obtain ⟨all, value⟩ := digitsValue_eq_some_iff.mp h
      exact ⟨s.toList, nonempty, all, Or.inl rfl, value⟩
  · rintro ⟨digits, nonempty, all, chars, value⟩
    have value := digitsValue_eq_some_iff.mpr ⟨all, value⟩
    rw [natOfText?]
    cases digits with
    | nil => exact absurd rfl nonempty
    | cons c cs =>
        rcases chars with chars | chars
        · have plain : c ≠ '+' := by
            rintro rfl
            exact absurd (all '+' List.mem_cons_self) (by decide)
          simp [chars, plain, value]
        · simp [chars, value]

theorem ordinalOfText?_eq_some_iff {s : String} {i : UInt64} :
    ordinalOfText? s = some i ↔ Writes s i.toNat := by
  rw [ordinalOfText?, Option.bind_eq_some_iff]
  constructor
  · rintro ⟨n, hn, h⟩
    split at h
    · next room =>
      cases h
      rw [UInt64.toNat_ofNat_of_lt' room]
      exact natOfText?_eq_some_iff.mp hn
    · cases h
  · intro h
    exact ⟨_, natOfText?_eq_some_iff.mpr h, by
      rw [if_pos (show i.toNat < ordinalCount from i.toNat_lt), UInt64.ofNat_toNat]⟩

theorem writes_toString (n : Nat) : Writes (toString n) n := by
  have digits : ∀ c ∈ Nat.toDigits 10 n, c.isDigit = true := fun c hc =>
    Nat.isDigit_of_mem_toDigits (by decide) (by decide) hc
  have chars : (toString n).toList = Nat.toDigits 10 n := Nat.toList_repr
  exact ⟨_, Nat.toDigits_ne_nil, digits, Or.inl chars,
    Nat.ofDigitChars_toDigits (by decide) (by decide)⟩

theorem ordinalOfText?_ordinalText (n : UInt64) : ordinalOfText? (ordinalText n) = some n :=
  ordinalOfText?_eq_some_iff.mpr (writes_toString n.toNat)

theorem ordinalText_inj {m n : UInt64} (h : ordinalText m = ordinalText n) : m = n :=
  UInt64.toNat_inj.mp (Nat.repr_injective h)

theorem succ_add_ofNat (n : UInt64) (i : Nat) :
    n + 1 + UInt64.ofNat i = n + UInt64.ofNat (i + 1) := by
  rw [UInt64.ofNat_add, UInt64.add_assoc, UInt64.add_comm 1]
  rfl

/-- The ordinal so many steps further; behind the greatest one it goes on at
zero. -/
theorem toNat_add_ofNat_mod (n : UInt64) (i : Nat) :
    (n + UInt64.ofNat i).toNat = (n.toNat + i) % ordinalCount := by
  have count : ordinalCount = 2 ^ 64 := rfl
  rw [UInt64.toNat_add, UInt64.toNat_ofNat', count]
  exact Nat.add_mod_mod ..

theorem toNat_add_ofNat {n : UInt64} {i : Nat} (h : n.toNat + i < ordinalCount) :
    (n + UInt64.ofNat i).toNat = n.toNat + i := by
  rw [toNat_add_ofNat_mod, Nat.mod_eq_of_lt h]

section Greatest
variable {n : UInt64} (h : n ≠ greatestOrdinal)
include h

theorem toNat_lt_greatest : n.toNat < greatestOrdinal.toNat := by
  have hne : n.toNat ≠ greatestOrdinal.toNat := fun he => h (UInt64.toNat_inj.mp he)
  have hlt := n.toNat_lt
  have greatest : greatestOrdinal.toNat = 2 ^ 64 - 1 := rfl
  omega

theorem toNat_succ : (n + 1).toNat = n.toNat + 1 := by
  have hlt := toNat_lt_greatest h
  have greatest : greatestOrdinal.toNat = ordinalCount - 1 := rfl
  exact toNat_add_ofNat (i := 1) (by omega)

end Greatest

theorem ordinal_add_inj {n : UInt64} {i j : Nat} (hi : i < ordinalCount) (hj : j < ordinalCount)
    (h : n + UInt64.ofNat i = n + UInt64.ofNat j) : i = j := by
  have count : ordinalCount = 2 ^ 64 := rfl
  have h := congrArg UInt64.toNat h
  have hn := n.toNat_lt
  rw [toNat_add_ofNat_mod, toNat_add_ofNat_mod, count] at h
  omega

end PipelineScript.Text
