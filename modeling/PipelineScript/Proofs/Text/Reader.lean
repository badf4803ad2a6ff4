/-
# Reading literals back

A `Reader` takes a value off the front of a text.  It never takes nothing, which
is what lets `Reader.list` go on for as long as commas follow: items between two
brackets, with or without blanks around the commas.  Items may be literals
(`Reader.text`), numerals (`Reader.numeral`), or pairs of items with a mark between
them (`Reader.pair`).

What `literal` and `literalList` write is read back as what it was written for,
and the text behind it is left alone (`literals_read_back`).  A backslash in front
of a quote, digits behind an escape or text that looks like the end of the list
make no difference, since `Takes` asks for any text to follow: one character is
taken whatever comes after it, so a literal is, so a list of them is
(`Takes.list`).
-/
import Mathlib.Data.List.Basic
import Mathlib.Data.List.TakeWhile
import Mathlib.Order.Basic
import PipelineScript.Proofs.Text.Literal

namespace PipelineScript.Text

/-! ## Blanks and marks -/

/-- The text without the blanks in front of it. -/
def skipBlanks (cs : List Char) : List Char :=
  cs.dropWhile (· == ' ')

/-- What comes after this character, if it is the next one but for blanks. -/
def afterMark (mark : Char) (cs : List Char) : Option (List Char) :=
  match skipBlanks cs with
  | [] => none
  | c :: rest => if c = mark then some rest else none

theorem length_skipBlanks_le (cs : List Char) : (skipBlanks cs).length ≤ cs.length :=
  List.length_dropWhile_le _ cs

theorem length_lt_of_afterMark {mark : Char} {cs rest : List Char}
    (h : afterMark mark cs = some rest) : rest.length < cs.length := by
  have skipped := length_skipBlanks_le cs
  rw [afterMark] at h
  split at h
  · cases h
  · next c rest' hcs =>
    split at h
    · cases h
      rw [hcs, List.length_cons] at skipped
      omega
    · cases h

theorem skipBlanks_cons {c : Char} (hc : c ≠ ' ') (cs : List Char) :
    skipBlanks (c :: cs) = c :: cs :=
  List.dropWhile_cons_of_neg (by simpa using hc)

theorem skipBlanks_blank (cs : List Char) : skipBlanks (' ' :: cs) = skipBlanks cs :=
  rfl

theorem afterMark_self {mark : Char} (hm : mark ≠ ' ') (cs : List Char) :
    afterMark mark (mark :: cs) = some cs := by
  rw [afterMark, skipBlanks_cons hm]
  exact if_pos rfl

theorem afterMark_other {mark c : Char} (hc : c ≠ ' ') (hne : c ≠ mark) (cs : List Char) :
    afterMark mark (c :: cs) = none := by
  rw [afterMark, skipBlanks_cons hc]
  exact if_neg hne

/-- What comes after the word that the text begins with. -/
def afterWord (word : String) (cs : List Char) : Option (List Char) :=
  word.toList.isPrefixOf? cs

theorem afterWord_append (word : String) (cs : List Char) :
    afterWord word (word.toList ++ cs) = some cs :=
  List.isPrefixOf?_eq_some_iff_append_eq.mpr rfl

/-! ## Readers -/

/-- A value is taken off the front of a text, with some of the text. -/
structure Reader (α : Type) where
  read : List Char → Option (α × List Char)
  shorter : ∀ {cs : List Char} {a : α} {rest : List Char},
    read cs = some (a, rest) → rest.length < cs.length

namespace Reader

variable {α β : Type}

/-- A literal, quotes included. -/
def text : Reader String where
  read
    | '"' :: rest => (readLiteral rest).map fun read => (String.ofList read.1, read.2)
    | _ => none
  shorter {cs a rest} h := by
    split at h
    · next behind =>
      obtain ⟨⟨chars, rest'⟩, hread, he⟩ := Option.map_eq_some_iff.mp h
      obtain ⟨-, rfl⟩ := Prod.mk.inj he
      exact Nat.lt_succ_of_lt (length_lt_of_readLiteral hread)
    · cases h

/-- A number in decimal, as its digits are written. -/
def numeral : Reader Nat where
  read cs :=
    let digits := cs.takeWhile Char.isDigit
    let n := Nat.ofDigitChars 10 digits 0
    if Nat.toDigits 10 n = digits then some (n, cs.dropWhile Char.isDigit) else none
  shorter {cs n rest} h := by
    dsimp only at h
    split at h
    · next written =>
      cases h
      have digits : cs.takeWhile Char.isDigit ≠ [] := written ▸ Nat.toDigits_ne_nil
      have parts := congrArg List.length (@List.takeWhile_append_dropWhile _ Char.isDigit cs)
      rw [List.length_append] at parts
      have := List.length_pos_iff.mpr digits
      omega
    · cases h

/-- What is read, under another name. -/
def map (f : α → β) (r : Reader α) : Reader β where
  read cs := (r.read cs).map fun read => (f read.1, read.2)
  shorter h := by
    obtain ⟨⟨a, rest⟩, hread, he⟩ := Option.map_eq_some_iff.mp h
    obtain ⟨-, rfl⟩ := Prod.mk.inj he
    exact r.shorter hread

/-- The second reader gets its turn if the first one takes nothing. -/
def either (r s : Reader α) : Reader α where
  read cs := (r.read cs).or (s.read cs)
  shorter h := by
    rcases Option.or_eq_some_iff.mp h with h | ⟨-, h⟩
    · exact r.shorter h
    · exact s.shorter h

/-- Two things with a mark between them. -/
def pair (r : Reader α) (mark : Char) (s : Reader β) : Reader (α × β) where
  read cs := do
    let (a, rest) ← r.read cs
    let rest ← afterMark mark rest
    let (b, rest) ← s.read (skipBlanks rest)
    return ((a, b), rest)
  shorter {cs ab rest} h := by
    obtain ⟨⟨a, behind⟩, first, h⟩ := Option.bind_eq_some_iff.mp h
    obtain ⟨inner, marked, h⟩ := Option.bind_eq_some_iff.mp h
    obtain ⟨⟨b, rest'⟩, second, h⟩ := Option.bind_eq_some_iff.mp h
    cases h
    exact (s.shorter second).trans ((length_skipBlanks_le inner).trans_lt
      ((length_lt_of_afterMark marked).trans (r.shorter first)))

/-- One item or more, with commas between them, up to the closing bracket. -/
def items (r : Reader α) (closing : Char) (cs : List Char) : Option (List α × List Char) :=
  match item : r.read cs with
  | none => none
  | some (a, rest) =>
    match comma : afterMark ',' rest with
    | some more =>
      have : (skipBlanks more).length < cs.length :=
        (length_skipBlanks_le more).trans_lt
          ((length_lt_of_afterMark comma).trans (r.shorter item))
      (items r closing (skipBlanks more)).map fun read => (a :: read.1, read.2)
    | none => (afterMark closing rest).map fun rest => ([a], rest)
termination_by cs.length

section Items
variable {r : Reader α} {closing : Char} {cs rest : List Char} {a : α} (item : r.read cs = some (a, rest))
include item

theorem items_of_comma {more : List Char} (comma : afterMark ',' rest = some more) :
    r.items closing cs =
      (r.items closing (skipBlanks more)).map fun read => (a :: read.1, read.2) := by
  rw [items]
  split
  · next none => cases item.symm.trans none
  · next a' rest' item' =>
    cases item.symm.trans item'
    split
    · next more' comma' =>
      cases comma.symm.trans comma'
      rfl
    · next none => cases comma.symm.trans none

theorem items_of_last (last : afterMark ',' rest = none) :
    r.items closing cs = (afterMark closing rest).map fun rest => ([a], rest) := by
  rw [items]
  split
  · next none => cases item.symm.trans none
  · next a' rest' item' =>
    cases item.symm.trans item'
    split
    · next more comma => cases last.symm.trans comma
    · rfl

end Items

theorem items_of_none {r : Reader α} {closing : Char} {cs : List Char} (item : r.read cs = none) :
    r.items closing cs = none := by
  rw [items]
  split
  · rfl
  · next a rest some => cases item.symm.trans some

theorem length_lt_of_items {r : Reader α} {closing : Char} {cs : List Char} :
    ∀ {as : List α} {rest : List Char},
      r.items closing cs = some (as, rest) → rest.length < cs.length := by
  induction cs using items.induct (r := r) with
  | case1 cs item =>
      intro as rest h
      rw [items_of_none item] at h
      cases h
  | case2 cs a behind item more comma shorter ih =>
      intro as rest h
      rw [items_of_comma item comma] at h
      obtain ⟨⟨as', rest'⟩, hread, he⟩ := Option.map_eq_some_iff.mp h
      obtain ⟨-, rfl⟩ := Prod.mk.inj he
      exact (ih hread).trans shorter
  | case3 cs a behind item comma =>
      intro as rest h
      rw [items_of_last item comma] at h
      obtain ⟨rest', hread, he⟩ := Option.map_eq_some_iff.mp h
      obtain ⟨-, rfl⟩ := Prod.mk.inj he
      exact (length_lt_of_afterMark hread).trans (r.shorter item)

/-- Any number of items between two brackets. -/
def list (r : Reader α) (opening closing : Char) : Reader (List α) where
  read cs := (afterMark opening cs).bind fun cs =>
    match afterMark closing cs with
    | some rest => some ([], rest)
    | none => r.items closing (skipBlanks cs)
  shorter {cs as rest} h := by
    obtain ⟨inner, hopen, h⟩ := Option.bind_eq_some_iff.mp h
    have inside := length_lt_of_afterMark hopen
    split at h
    · next behind hclose =>
      cases h
      exact (length_lt_of_afterMark hclose).trans inside
    · exact ((length_lt_of_items h).trans_le (length_skipBlanks_le inner)).trans inside

section List
variable (r : Reader α) {opening closing : Char} (hopen : opening ≠ ' ')
include hopen

theorem list_nil (hclose : closing ≠ ' ') (rest : List Char) :
    (r.list opening closing).read (opening :: closing :: rest) = some ([], rest) := by
  show (afterMark opening _).bind _ = _
  rw [afterMark_self hopen, Option.bind_some, afterMark_self hclose]

theorem list_cons {c : Char} (hc : c ≠ ' ') (hne : c ≠ closing) (cs : List Char) :
    (r.list opening closing).read (opening :: c :: cs) = r.items closing (c :: cs) := by
  show (afterMark opening _).bind _ = _
  rw [afterMark_self hopen, Option.bind_some, afterMark_other hc hne, skipBlanks_cons hc]

end List

/-! ## Reading what was written -/

/-- What is written for a thing is taken as the value of the thing, whatever comes
after it. -/
def Takes (r : Reader β) (write : α → List Char) (value : α → β) : Prop :=
  ∀ a rest, r.read (write a ++ rest) = some (value a, rest)

/-- A literal is read as the text that it was written for. -/
theorem read_literal (s : String) (rest : List Char) :
    text.read ((literal s).toList ++ rest) = some (s, rest) := by
  have body : readLiteral (s.toList.flatMap escapeChar ++ ['"'] ++ rest) =
      some (s.toList, rest) := by
    rw [List.append_assoc]
    exact readLiteral_literalChars s.toList rest
  rw [literal, String.toList_ofList, literalChars, List.cons_append]
  show (readLiteral _).map _ = _
  rw [body, Option.map_some, String.ofList_toList]

theorem read_text_of_ne {c : Char} (hc : c ≠ '"') (cs : List Char) : text.read (c :: cs) = none := by
  show (match c :: cs with
    | '"' :: rest => (readLiteral rest).map fun read => (String.ofList read.1, read.2)
    | _ => none) = none
  split
  · next rest he => exact absurd (List.cons.inj he).1 hc
  · rfl

theorem read_numeral (n : Nat) {c : Char} (hc : c.isDigit = false) (rest : List Char) :
    numeral.read (Nat.toDigits 10 n ++ c :: rest) = some (n, c :: rest) := by
  have digits : ∀ d ∈ Nat.toDigits 10 n, d.isDigit = true := fun d hd =>
    Nat.isDigit_of_mem_toDigits (by decide) (by decide) hd
  have stop : ¬ c.isDigit = true := by simp [hc]
  have taken : (Nat.toDigits 10 n ++ c :: rest).takeWhile Char.isDigit = Nat.toDigits 10 n := by
    rw [List.takeWhile_append_of_pos digits, List.takeWhile_cons_of_neg stop, List.append_nil]
  have left : (Nat.toDigits 10 n ++ c :: rest).dropWhile Char.isDigit = c :: rest := by
    rw [List.dropWhile_append_of_pos digits, List.dropWhile_cons_of_neg stop]
  have value : Nat.ofDigitChars 10 (Nat.toDigits 10 n) 0 = n :=
    Nat.ofDigitChars_toDigits (by decide) (by decide)
  simp only [numeral, taken, left, value, if_true]

theorem read_pair {r : Reader α} {s : Reader β} {mark : Char} (hm : mark ≠ ' ') {first cs : List Char}
    {a : α} {c : Char} (hc : c ≠ ' ')
    (read : r.read (first ++ mark :: ' ' :: c :: cs) = some (a, mark :: ' ' :: c :: cs)) :
    (r.pair mark s).read (first ++ mark :: ' ' :: c :: cs) =
      (s.read (c :: cs)).map fun read => ((a, read.1), read.2) := by
  simp only [pair, read, afterMark_self hm, skipBlanks_blank, skipBlanks_cons hc, bind,
    Option.bind_some]
  cases s.read (c :: cs) <;> rfl

/-- Items with a comma and a blank between them. -/
def spaced (write : α → List Char) (as : List α) : List Char :=
  [',', ' '].intercalate (as.map write)

theorem toList_spaced (write : α → String) (as : List α) :
    (", ".intercalate (as.map write)).toList = spaced (fun a => (write a).toList) as := by
  have blank : ", ".toList = [',', ' '] := by rfl
  rw [spaced, String.toList_intercalate, blank, List.map_map]
  rfl

theorem spaced_cons_cons (write : α → List Char) (a b : α) (as : List α) :
    spaced write (a :: b :: as) = write a ++ ',' :: ' ' :: spaced write (b :: as) := by
  simp only [spaced, List.map_cons, List.intercalate_cons_cons, List.append_assoc]
  rfl

theorem spaced_singleton (write : α → List Char) (a : α) : spaced write [a] = write a :=
  List.intercalate_singleton

section Written
variable {r : Reader β} {write : α → List Char} {value : α → β} {closing : Char}
  (bare : ∀ a, ∃ c cs, write a = c :: cs ∧ c ≠ ' ' ∧ c ≠ closing)
include bare

theorem spaced_bare (a : α) (as : List α) (rest : List Char) :
    ∃ c cs, spaced write (a :: as) ++ rest = c :: cs ∧ c ≠ ' ' ∧ c ≠ closing := by
  obtain ⟨c, cs, ha, hc⟩ := bare a
  cases as with
  | nil =>
      rw [spaced_singleton, ha]
      exact ⟨c, cs ++ rest, rfl, hc⟩
  | cons b as =>
      rw [spaced_cons_cons, ha]
      exact ⟨c, _, rfl, hc⟩

variable (takes : r.Takes write value) (blank : closing ≠ ' ') (comma : closing ≠ ',')
include takes blank comma

theorem Takes.items (rest : List Char) : ∀ (as : List α) (a : α),
    r.items closing (spaced write (a :: as) ++ closing :: rest) =
      some ((a :: as).map value, rest) := by
  intro as
  induction as with
  | nil =>
      intro a
      rw [spaced_singleton, items_of_last (takes a _) (afterMark_other blank comma rest),
        afterMark_self blank]
      rfl
  | cons b as ih =>
      intro a
      obtain ⟨c, cs, next, hc, -⟩ := spaced_bare bare b as (closing :: rest)
      have skipped : skipBlanks (' ' :: (spaced write (b :: as) ++ closing :: rest)) =
          spaced write (b :: as) ++ closing :: rest := by
        rw [skipBlanks_blank, next, skipBlanks_cons hc]
      rw [spaced_cons_cons, List.append_assoc, List.cons_append, List.cons_append,
        items_of_comma (takes a _) (afterMark_self (by decide) _), skipped, ih b]
      rfl

/-- A list of things is taken if each of them is. -/
theorem Takes.list {opening : Char} (hopen : opening ≠ ' ') :
    (r.list opening closing).Takes (fun as => opening :: (spaced write as ++ [closing]))
      (List.map value) := by
  intro as rest
  rw [List.cons_append, List.append_assoc]
  cases as with
  | nil => exact list_nil r hopen blank rest
  | cons a as =>
      obtain ⟨c, cs, first, hc, hclose⟩ := spaced_bare bare a as (closing :: rest)
      have taken := Takes.items bare takes blank comma rest as a
      rw [List.singleton_append, first, list_cons r hopen hc hclose, ← first]
      exact taken

end Written

/-- A list of literals. -/
def textList : Reader (List String) :=
  text.list '[' ']'

theorem read_literalList (items : List String) (rest : List Char) :
    textList.read ((literalList items).toList ++ rest) = some (items, rest) := by
  have bare : ∀ s, ∃ c cs, (literal s).toList = c :: cs ∧ c ≠ ' ' ∧ c ≠ ']' := by
    intro s
    obtain ⟨cs, quoted⟩ := exists_quote s
    exact ⟨'"', cs, quoted, by decide, by decide⟩
  have takes : text.Takes (fun s => (literal s).toList) id := by
    intro s rest
    simp only [id]
    exact read_literal s rest
  have opens : '[' ≠ ' ' := by decide
  have read := Takes.list bare takes (by decide) (by decide) opens items rest
  have chars : (literalList items).toList =
      '[' :: (spaced (fun s => (literal s).toList) items ++ [']']) := by
    rw [literalList, String.toList_append, String.toList_append, toList_spaced]
    rfl
  rw [List.map_id] at read
  rw [chars]
  exact read

end Reader

/-- **Literals are read back.**  Whatever text comes after it, a literal is read as
the text that it was written for, and nothing of what follows is used up; there is
no control character in it, and no two texts have the same literal.  A list of
literals is read as the list that it was written for. -/
theorem literals_read_back :
    (∀ s rest, Reader.text.read ((literal s).toList ++ rest) = some (s, rest)) ∧
      (∀ s, ∀ c ∈ (literal s).toList, 0x20 ≤ c.toNat ∧ c.toNat ≠ 0x7F) ∧
      Function.Injective literal ∧
      ∀ items rest,
        Reader.textList.read ((literalList items).toList ++ rest) = some (items, rest) := by
  refine ⟨Reader.read_literal, ?_, ?_, Reader.read_literalList⟩
  · intro s c hc
    have plain := not_control_of_mem_literal hc
    simp only [isControl, Bool.or_eq_false_iff, decide_eq_false_iff_not, beq_eq_false_iff_ne,
      UInt32.lt_iff_toNat_lt] at plain
    obtain ⟨low, delete⟩ := plain
    exact ⟨Nat.le_of_not_lt low, fun he => delete (UInt32.toNat_inj.mp he)⟩
  · intro s t h
    have hs := Reader.read_literal s []
    have ht := Reader.read_literal t []
    rw [h, ht] at hs
    exact (congrArg Prod.fst (Option.some.inj hs)).symm

/-- Text that looks like an escape and like the end of a list, and a control
character with a digit of base sixteen behind it. -/
def hostile : String :=
  "\\x41\"], [\"\x01f"

theorem literals_read_back_hostile :
    literal hostile = "\"\\\\x41\\\"], [\\\"\\x01f\"" ∧
      Reader.text.read ((literal hostile).toList ++ ['f', '"']) = some (hostile, ['f', '"']) ∧
      ('x' ∈ (literal hostile).toList ∧ 0x20 ≤ 'x'.toNat ∧ 'x'.toNat ≠ 0x7F) ∧
      Reader.textList.read ((literalList [hostile, "", hostile]).toList ++ [']']) =
        some ([hostile, "", hostile], [']']) := by
  obtain ⟨text, plain, -, list⟩ := literals_read_back
  have written : 'x' ∈ (literal hostile).toList := by decide
  exact ⟨by decide, text _ _, ⟨written, plain _ _ written⟩, list _ _⟩

end PipelineScript.Text
