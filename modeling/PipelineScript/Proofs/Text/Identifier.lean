/-
# The shape of an identifier

`snakeCase` reads a name once, from left to right, and what it has written so far
keeps its shape at every character (`Shaped.push`): small letters, digits and
underscores, no underscore in front and no two in a row.  An underscore goes in
front of a capital only behind a small letter or a digit, which is what the flag
of the draft is for, and in place of other characters only behind something else
than an underscore.

So the result is in snake case (`isSnake_snakeCase`).  What is in snake case is
written again as it is read (`reversed_foldl_push`), so doing it twice changes
nothing (`snakeCase_snakeCase`).

With a number behind it, the result is an identifier of the script's language
(`IsSnake.isIdentifier_append`) and none of the reserved names, since these do not
end in a digit (`numbered_not_reserved`).
-/
import Mathlib.Data.List.Basic
import Mathlib.Data.List.Chain
import PipelineScript.Proofs.Text.Numbered
import PipelineScript.Text.Identifier

namespace PipelineScript.Text

/-! ## Snake case -/

/-- The characters of words: small letters and digits. -/
def isWordChar (c : Char) : Bool :=
  c.isLower || c.isDigit

/-- Small letters, digits and underscores, no two underscores in a row. -/
structure Single (cs : List Char) : Prop where
  chars : ∀ c ∈ cs, isWordChar c = true ∨ c = '_'
  single : cs.IsChain fun a b => a ≠ '_' ∨ b ≠ '_'

/-- Words of small letters and digits, with single underscores between them and
perhaps one in front.  There are some characters, and the first one is no digit. -/
structure IsSnake (s : String) : Prop extends Single s.toList where
  nonempty : s ≠ ""
  head : ∀ c ∈ s.toList.head?, c.isDigit = false
  last : s.toList.getLast? ≠ some '_'

theorem ne_underscore {c : Char} (h : isWordChar c = true) : c ≠ '_' := by
  rintro rfl
  exact absurd h (by decide)

/-! Letters and digits, by the places of their characters. -/

theorem isUpper_iff {c : Char} : c.isUpper = true ↔ 65 ≤ c.toNat ∧ c.toNat ≤ 90 := by
  show decide (c.val ≥ 'A'.val ∧ c.val ≤ 'Z'.val) = true ↔ _
  rw [decide_eq_true_iff]
  exact Iff.rfl

theorem isLower_iff {c : Char} : c.isLower = true ↔ 97 ≤ c.toNat ∧ c.toNat ≤ 122 := by
  show (decide (c.val ≥ 'a'.val) && decide (c.val ≤ 'z'.val)) = true ↔ _
  rw [Bool.and_eq_true, decide_eq_true_iff, decide_eq_true_iff]
  exact Iff.rfl

theorem isDigit_iff {c : Char} : c.isDigit = true ↔ 48 ≤ c.toNat ∧ c.toNat ≤ 57 := by
  show (decide (c.val ≥ '0'.val) && decide (c.val ≤ '9'.val)) = true ↔ _
  rw [Bool.and_eq_true, decide_eq_true_iff, decide_eq_true_iff]
  exact Iff.rfl

theorem isAlpha_eq (c : Char) : c.isAlpha = (c.isUpper || c.isLower) :=
  rfl

theorem isAlphanum_eq (c : Char) : c.isAlphanum = (c.isUpper || c.isLower || c.isDigit) :=
  rfl

theorem alphanum_of_word {c : Char} (h : isWordChar c = true) : c.isAlphanum = true := by
  simp only [isWordChar, Bool.or_eq_true] at h
  rw [isAlphanum_eq, Bool.or_assoc, Bool.or_eq_true, Bool.or_eq_true]
  exact Or.inr h

theorem not_isUpper_of_word {c : Char} (h : isWordChar c = true) : ¬ c.isUpper = true := by
  rw [isWordChar, Bool.or_eq_true, isLower_iff, isDigit_iff] at h
  rw [isUpper_iff]
  omega

theorem isLower_toLower {c : Char} (h : c.isUpper = true) : c.toLower.isLower = true := by
  obtain ⟨low, high⟩ := isUpper_iff.mp h
  have small : c.toLower.val = c.val + 32 := congrArg Char.val (dif_pos ⟨low, high⟩)
  have place : c.toLower.toNat = c.toNat + 32 := by
    have sum := congrArg UInt32.toNat small
    rw [UInt32.toNat_add] at sum
    refine sum.trans (Nat.mod_eq_of_lt ?_)
    have : c.val.toNat ≤ 90 := high
    show c.val.toNat + 32 < 2 ^ 32
    omega
  rw [isLower_iff, place]
  omega

namespace Single

variable {c : Char} {cs : List Char}

theorem nil : Single [] :=
  ⟨by simp, .nil⟩

theorem word (h : Single cs) (hc : isWordChar c = true) : Single (c :: cs) where
  chars := List.forall_mem_cons.mpr ⟨Or.inl hc, h.chars⟩
  single := List.isChain_cons.mpr ⟨fun _ _ => Or.inl (ne_underscore hc), h.single⟩

theorem underscore (h : Single (c :: cs)) (hc : c ≠ '_') : Single ('_' :: c :: cs) where
  chars := List.forall_mem_cons.mpr ⟨Or.inr rfl, h.chars⟩
  single := List.isChain_cons_cons.mpr ⟨Or.inr hc, h.single⟩

theorem reverse (h : Single cs) : Single cs.reverse where
  chars c hc := h.chars c (List.mem_reverse.mp hc)
  single := List.isChain_reverse.mpr (h.single.imp fun _ _ => Or.symm)

theorem suffix {ds : List Char} (h : Single cs) (hs : ds <:+ cs) : Single ds where
  chars c hc := h.chars c (hs.subset hc)
  single := h.single.suffix hs

end Single

/-! ## Drafts -/

/-- What has been written begins with a letter or a digit, and ends in one if the
flag says so. -/
structure Shaped (d : IdentifierDraft) : Prop extends Single d.reversed where
  first : d.reversed.getLast? ≠ some '_'
  small : d.afterSmall = true → ∃ c before, d.reversed = c :: before ∧ c ≠ '_'

namespace Shaped

variable {d : IdentifierDraft} {c : Char}

theorem start : Shaped {} :=
  ⟨.nil, by simp, by simp⟩

theorem underscore (h : Shaped d) {before : List Char} (hd : d.reversed = c :: before)
    (hc : c ≠ '_') : Single ('_' :: d.reversed) ∧ ('_' :: d.reversed).getLast? ≠ some '_' := by
  have first := h.first
  rw [hd] at first ⊢
  exact ⟨(hd ▸ h.toSingle).underscore hc, by rwa [List.getLast?_cons_cons]⟩

theorem word {written : List Char} (h : Single written) (first : written.getLast? ≠ some '_')
    (hc : isWordChar c = true) (small : Bool) : Shaped ⟨c :: written, small⟩ where
  toSingle := h.word hc
  first := by
    cases written with
    | nil => simpa using ne_underscore hc
    | cons x before => rwa [List.getLast?_cons_cons]
  small _ := ⟨c, written, rfl, ne_underscore hc⟩

theorem push (h : Shaped d) (c : Char) : Shaped (d.push c) := by
  unfold IdentifierDraft.push
  split
  next upper =>
    have letter : isWordChar c.toLower = true := by simp [isWordChar, isLower_toLower upper]
    cases hs : d.afterSmall with
    | false => exact word h.toSingle h.first letter false
    | true =>
        obtain ⟨x, before, hd, hx⟩ := h.small hs
        obtain ⟨single, first⟩ := h.underscore hd hx
        exact word single first letter false
  next noCapital =>
    split
    next alnum =>
      have letter : isWordChar c = true := by
        simpa [isAlphanum_eq, isWordChar, noCapital] using alnum
      exact word h.toSingle h.first letter true
    next =>
      split
      next => exact ⟨.nil, by simp, by simp⟩
      next => exact ⟨h.toSingle, h.first, by simp⟩
      next x before apart hd =>
        obtain ⟨single, first⟩ := h.underscore hd fun he => apart (he ▸ rfl)
        exact ⟨single, first, by simp⟩

theorem foldl_push (h : Shaped d) (cs : List Char) : Shaped (cs.foldl IdentifierDraft.push d) := by
  induction cs generalizing d with
  | nil => exact h
  | cons c cs ih => exact ih (h.push c)

end Shaped

/-! ## Finished identifiers -/

/-- Words with single underscores between them, or nothing. -/
structure IsWords (cs : List Char) : Prop extends Single cs where
  first : cs.head? ≠ some '_'
  last : cs.getLast? ≠ some '_'

/-- The words of a draft: underscores at its end do not count. -/
def IdentifierDraft.words (d : IdentifierDraft) : List Char :=
  (d.reversed.dropWhile (· == '_')).reverse

/-- The identifier that some words make. -/
def ofWords : List Char → List Char
  | [] => ['n', 'o', 'd', 'e']
  | c :: r => if c.isDigit then '_' :: c :: r else c :: r

/-- The words of a free name. -/
def wordsOf (name : String) : List Char :=
  (name.toList.foldl IdentifierDraft.push {}).words

theorem toList_snakeCase (name : String) : (snakeCase name).toList = ofWords (wordsOf name) := by
  rw [snakeCase, String.toList_ofList]
  rfl

theorem Shaped.isWords {d : IdentifierDraft} (h : Shaped d) : IsWords d.words where
  toSingle := (h.suffix (List.dropWhile_suffix _)).reverse
  first := by
    rw [IdentifierDraft.words, List.head?_reverse]
    intro he
    obtain ⟨front, hd⟩ := List.dropWhile_suffix (l := d.reversed) (· == '_')
    exact h.first (by rw [← hd, List.getLast?_append, he, Option.some_or])
  last := by
    rw [IdentifierDraft.words, List.getLast?_reverse]
    intro he
    have := List.head?_dropWhile_not (· == '_') d.reversed
    simp [he] at this

theorem isWords_wordsOf (name : String) : IsWords (wordsOf name) :=
  (Shaped.start.foldl_push name.toList).isWords

theorem isSnake_ofWords {cs : List Char} (h : IsWords cs) : IsSnake (String.ofList (ofWords cs)) := by
  have shape : Single (ofWords cs) ∧ ofWords cs ≠ [] ∧
      (∀ c ∈ (ofWords cs).head?, c.isDigit = false) ∧ (ofWords cs).getLast? ≠ some '_' := by
    cases cs with
    | nil =>
        refine ⟨?_, by decide, ?_, by decide⟩
        · iterate 4 refine Single.word ?_ (by decide)
          exact .nil
        · intro c hc
          cases hc
          rfl
    | cons c r =>
        cases digit : c.isDigit with
        | true =>
            have behind : c ≠ '_' := fun he => h.first (congrArg some he)
            rw [ofWords, if_pos digit, List.getLast?_cons_cons]
            exact ⟨h.toSingle.underscore behind, by simp, by simp, h.last⟩
        | false =>
            rw [ofWords, if_neg (by simp [digit])]
            exact ⟨h.toSingle, by simp, by simpa using digit, h.last⟩
  obtain ⟨single, nonempty, head, last⟩ := shape
  rw [← String.toList_ofList (l := ofWords cs)] at single head last
  exact ⟨single, by simpa using nonempty, head, last⟩

theorem isSnake_snakeCase (name : String) : IsSnake (snakeCase name) := by
  rw [← String.ofList_toList (s := snakeCase name), toList_snakeCase]
  exact isSnake_ofWords (isWords_wordsOf name)

/-! ## Doing it twice -/

/-- What keeps the shape is written as it is read. -/
theorem reversed_push {d : IdentifierDraft} {c : Char} (single : Single (c :: d.reversed))
    (first : (c :: d.reversed).getLast? ≠ some '_') : (d.push c).reversed = c :: d.reversed := by
  unfold IdentifierDraft.push
  rcases single.chars c List.mem_cons_self with letter | rfl
  · rw [if_neg (not_isUpper_of_word letter), if_pos (alphanum_of_word letter)]
  · rw [if_neg (by decide), if_neg (by decide)]
    split
    next hd => simp [hd] at first
    next before hd =>
      have apart := single.single
      rw [hd] at apart
      simp at apart
    next => rfl

theorem reversed_foldl_push {cs : List Char} : ∀ {d : IdentifierDraft},
    Single (cs.reverse ++ d.reversed) → (cs.reverse ++ d.reversed).getLast? ≠ some '_' →
      (cs.foldl IdentifierDraft.push d).reversed = cs.reverse ++ d.reversed := by
  induction cs with
  | nil => exact fun _ _ => rfl
  | cons c cs ih =>
      intro d single first
      rw [List.reverse_cons, List.append_assoc, List.singleton_append] at single first ⊢
      have next := reversed_push (single.suffix (List.suffix_append _ _))
        (by rwa [List.getLast?_append_of_ne_nil _ (List.cons_ne_nil _ _)] at first)
      rw [List.foldl_cons, ih (by rwa [next]) (by rwa [next]), next]

theorem words_foldl_push {cs : List Char} (h : IsWords cs) :
    (cs.foldl IdentifierDraft.push {}).words = cs := by
  have read : (cs.foldl IdentifierDraft.push {}).reversed = cs.reverse := by
    rw [reversed_foldl_push] <;> rw [List.append_nil]
    · exact h.reverse
    · rw [List.getLast?_reverse]
      exact h.first
  have kept : cs.reverse.dropWhile (· == '_') = cs.reverse := by
    have last := h.last
    rw [← List.head?_reverse] at last
    cases hr : cs.reverse with
    | nil => rfl
    | cons x before =>
        rw [hr] at last
        exact List.dropWhile_cons_of_neg (by simpa using last)
  rw [IdentifierDraft.words, read, kept, List.reverse_reverse]

/-- **Snake case stays as it is.** -/
theorem snakeCase_snakeCase (name : String) : snakeCase (snakeCase name) = snakeCase name := by
  have again : ∀ cs, IsWords cs → ofWords (((ofWords cs).foldl IdentifierDraft.push {}).words) =
      ofWords cs := by
    intro cs h
    cases cs with
    | nil => decide
    | cons c r =>
        -- an underscore in front of a digit is not written, and comes back in the end
        have skipped : (ofWords (c :: r)).foldl IdentifierDraft.push {} =
            (c :: r).foldl IdentifierDraft.push {} := by
          rw [ofWords]
          split <;> rfl
        rw [skipped, words_foldl_push h]
  rw [← String.toList_inj, toList_snakeCase, toList_snakeCase, wordsOf, toList_snakeCase]
  exact again _ (isWords_wordsOf name)

/-! ## Identifiers -/

/-- A word of the script's language: letters, digits and underscores, and no digit
in front. -/
def IsIdentifier (s : String) : Prop :=
  ∃ c rest, s.toList = c :: rest ∧ (c.isAlpha = true ∨ c = '_') ∧
    ∀ x ∈ rest, x.isAlphanum = true ∨ x = '_'

theorem IsSnake.isIdentifier_append {base digits : String} (h : IsSnake base)
    (hdigits : ∀ c ∈ digits.toList, c.isDigit = true) : IsIdentifier (base ++ digits) := by
  obtain ⟨c, rest, hbase⟩ := List.exists_cons_of_ne_nil (mt String.toList_eq_nil_iff.mp h.nonempty)
  have chars := h.chars
  have head := h.head
  rw [hbase] at chars head
  obtain ⟨hc, hrest⟩ := List.forall_mem_cons.mp chars
  refine ⟨c, rest ++ digits.toList, by simp [hbase], ?_, fun x hx => ?_⟩
  · have noDigit := head c rfl
    exact hc.imp_left fun hc => by simp_all [isWordChar, isAlpha_eq]
  · rcases List.mem_append.mp hx with hx | hx
    · exact (hrest x hx).imp_left alphanum_of_word
    · exact Or.inl (by simp [isAlphanum_eq, hdigits x hx])

/-- No reserved name ends in a number. -/
theorem numbered_not_reserved (base : String) (k : Nat) : base ++ toString k ∉ reservedNames := by
  have words : (reservedNames.all fun name => name.toList.getLast?.all (!·.isDigit)) = true := by
    decide
  intro reserved
  have written : (toString k).toList ≠ [] := by simp
  have digit := digit_of_mem_toString (List.getLast_mem written)
  have ends : (base ++ toString k).toList.getLast? =
      some ((toString k).toList.getLast written) := by
    rw [String.toList_append, List.getLast?_append, List.getLast?_eq_some_getLast written,
      Option.some_or]
  have noDigit := List.all_eq_true.mp words _ reserved
  rw [ends, Option.all_some, digit] at noDigit
  exact Bool.false_ne_true noDigit

end PipelineScript.Text
