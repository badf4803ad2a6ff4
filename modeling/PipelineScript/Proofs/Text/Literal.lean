/-
# Reading literals back

`readLiteral` reads the literals that a script holds, the way the script's
language does: a quote ends the literal, a backslash opens one of six escapes,
and no control character, a line break in particular, may stand in between.
`lex` takes code apart into its literals and the characters around them.

What `literal` writes is read back, whatever comes after it
(`readLiteral_literalChars`), so code that is glued together from literals and
from pieces without a quote comes apart the same way (`lex_literal`,
`lex_code`).  Quotes of no other kind are looked for.
-/
import Mathlib.Data.List.Basic
import PipelineScript.Text.Literal

namespace PipelineScript.Text

/-! ## One literal -/

/-- What a backslash and one more character stand for. -/
def escaped? : Char → Option Char
  | '\\' => some '\\'
  | '"' => some '"'
  | 'n' => some '\n'
  | 'r' => some '\r'
  | 't' => some '\t'
  | _ => none

/-- The character of two digits of base sixteen. -/
def hexPair? (high low : Char) : Option Char := do
  let h ← hexValue? high
  let l ← hexValue? low
  return Char.ofNat (16 * h + l)

/-- A character in front of what was read after it. -/
def prepend (c : Char) (read : List Char × List Char) : List Char × List Char :=
  (c :: read.1, read.2)

/-- Reads a literal behind its opening quote: its text, and what comes after
the closing one. -/
def readLiteral : List Char → Option (List Char × List Char)
  | [] => none
  | '"' :: rest => some ([], rest)
  | '\\' :: 'x' :: high :: low :: rest =>
    (hexPair? high low).bind fun c => (readLiteral rest).map (prepend c)
  | '\\' :: c :: rest => (escaped? c).bind fun c => (readLiteral rest).map (prepend c)
  | c :: rest => if c = '\\' || isControl c then none else (readLiteral rest).map (prepend c)

theorem hexValue?_hexDigit {n : Nat} (h : n < 16) : hexValue? (hexDigit n) = some n := by
  have all : ∀ k : Fin 16, hexValue? (hexDigit k) = some k.val := by decide
  exact all ⟨n, h⟩

theorem hexPair?_hexDigits {n : Nat} (h : n < 256) :
    hexPair? (hexDigit (n / 16)) (hexDigit (n % 16)) = some (Char.ofNat n) := by
  rw [hexPair?, hexValue?_hexDigit (by omega), hexValue?_hexDigit (by omega)]
  simp [Nat.div_add_mod]

theorem toNat_lt_of_isControl {c : Char} (h : isControl c = true) : c.toNat < 256 := by
  simp only [isControl, Bool.or_eq_true, decide_eq_true_eq, beq_iff_eq] at h
  rcases h with h | h
  · have : c.toNat < 32 := h
    omega
  · have : c.toNat = 127 := congrArg UInt32.toNat h
    omega

/-- A character is read back from the way it is written. -/
theorem readLiteral_escapeChar (c : Char) (rest : List Char) :
    readLiteral (escapeChar c ++ rest) = (readLiteral rest).map (prepend c) := by
  by_cases backslash : c = '\\'
  · subst backslash
    simp [escapeChar, readLiteral, escaped?]
  by_cases quote : c = '"'
  · subst quote
    simp [escapeChar, readLiteral, escaped?]
  by_cases newline : c = '\n'
  · subst newline
    simp [escapeChar, readLiteral, escaped?]
  by_cases return_ : c = '\r'
  · subst return_
    simp [escapeChar, readLiteral, escaped?]
  by_cases tab : c = '\t'
  · subst tab
    simp [escapeChar, readLiteral, escaped?]
  by_cases control : isControl c
  · have pair := hexPair?_hexDigits (toNat_lt_of_isControl control)
    rw [Char.ofNat_toNat] at pair
    simp [escapeChar, backslash, quote, newline, return_, tab, control, readLiteral, pair]
  · simp [escapeChar, backslash, quote, newline, return_, tab, control, readLiteral]

theorem readLiteral_literalChars (cs rest : List Char) :
    readLiteral (cs.flatMap escapeChar ++ '"' :: rest) = some (cs, rest) := by
  induction cs with
  | nil => rfl
  | cons c cs ih =>
      rw [List.flatMap_cons, List.append_assoc, readLiteral_escapeChar, ih]
      rfl

theorem exists_quote (s : String) : ∃ cs, (literal s).toList = '"' :: cs := by
  rw [literal, String.toList_ofList]
  exact ⟨_, rfl⟩

theorem not_control_of_mem_literal {s : String} {c : Char} (h : c ∈ (literal s).toList) :
    isControl c = false := by
  have digit : ∀ n : Nat, n < 16 → isControl (hexDigit n) = false := by
    intro n hn
    have all : ∀ k : Fin 16, isControl (hexDigit k) = false := by decide
    exact all ⟨n, hn⟩
  have backslash : isControl '\\' = false := by decide
  have pair : ∀ {second : Char}, isControl second = false →
      ∀ e ∈ ['\\', second], isControl e = false := by
    intro second plain e he
    rcases List.mem_pair.mp he with rfl | rfl
    · exact backslash
    · exact plain
  have escaped : ∀ c, ∀ e ∈ escapeChar c, isControl e = false := by
    intro c
    unfold escapeChar
    split_ifs with _ _ _ _ _ control
    · exact pair (by decide)
    · exact pair (by decide)
    · exact pair (by decide)
    · exact pair (by decide)
    · exact pair (by decide)
    · have := toNat_lt_of_isControl control
      have high := digit (c.toNat / 16) (by omega)
      have low := digit (c.toNat % 16) (by omega)
      simp [high, low, backslash, show isControl 'x' = false by decide]
    · simpa using control
  have quote : isControl '"' = false := by decide
  rw [literal, String.toList_ofList, literalChars, List.mem_cons, List.mem_append,
    List.mem_singleton] at h
  rcases h with rfl | h | rfl
  · exact quote
  · obtain ⟨d, -, hc⟩ := List.mem_flatMap.mp h
    exact escaped d c hc
  · exact quote

theorem newline_not_mem_literal (s : String) : '\n' ∉ (literal s).toList := by
  intro h
  exact absurd (not_control_of_mem_literal h) (by decide)

/-- What comes after a literal does not depend on how it begins. -/
theorem exists_of_map_prepend {c : Char} {read : Option (List Char × List Char)}
    {text rest : List Char} (h : read.map (prepend c) = some (text, rest)) :
    ∃ shorter, read = some (shorter, rest) := by
  obtain ⟨⟨shorter, rest'⟩, hr, hp⟩ := Option.map_eq_some_iff.mp h
  obtain ⟨-, rfl⟩ := Prod.mk.inj hp
  exact ⟨shorter, hr⟩

theorem length_lt_of_readLiteral {cs text rest : List Char}
    (h : readLiteral cs = some (text, rest)) : rest.length < cs.length := by
  induction cs using readLiteral.induct generalizing text rest with
  | case1 => simp [readLiteral] at h
  | case2 after =>
      simp only [readLiteral, Option.some.injEq, Prod.mk.injEq] at h
      simp [← h.2]
  | case3 high low after ih =>
      simp only [readLiteral] at h
      obtain ⟨c, -, h⟩ := Option.bind_eq_some_iff.mp h
      obtain ⟨shorter, h⟩ := exists_of_map_prepend h
      have := ih h
      simp only [List.length_cons]
      omega
  | case4 c after _ ih =>
      simp only [readLiteral] at h
      obtain ⟨c, -, h⟩ := Option.bind_eq_some_iff.mp h
      obtain ⟨shorter, h⟩ := exists_of_map_prepend h
      have := ih h
      simp only [List.length_cons]
      omega
  | case5 c after _ _ _ refused => simp [readLiteral, refused] at h
  | case6 c after _ _ _ allowed ih =>
      rw [readLiteral, if_neg allowed] at h
      · obtain ⟨shorter, h⟩ := exists_of_map_prepend h
        have := ih h
        simp only [List.length_cons]
        omega
      all_goals assumption

/-! ## Code with literals -/

/-- What code is made of: single characters, and literals. -/
inductive Piece where
  | code (c : Char)
  | literal (text : String)
deriving Repr, DecidableEq

namespace Piece

/-- The text of a literal. -/
def text? : Piece → Option String
  | code _ => none
  | literal text => some text

/-- The character of code; nothing where a literal stands. -/
def char? : Piece → Option Char
  | code c => some c
  | literal _ => none

end Piece

/-- The texts of the literals, in order. -/
def literals (pieces : List Piece) : List String :=
  pieces.filterMap Piece.text?

/-- The code around the literals, with a gap for each of them. -/
def skeleton (pieces : List Piece) : List (Option Char) :=
  pieces.map Piece.char?

/-- Takes code apart; fails at a literal that cannot be read. -/
def lex (cs : List Char) : Option (List Piece) :=
  match cs with
  | [] => some []
  | c :: rest =>
    if c = '"' then
      match h : readLiteral rest with
      | none => none
      | some (text, after) =>
        have : after.length < rest.length := length_lt_of_readLiteral h
        (lex after).map (.literal (String.ofList text) :: ·)
    else (lex rest).map (.code c :: ·)
termination_by cs.length

theorem lex_nil : lex [] = some [] := by
  rw [lex]

theorem lex_code {cs : List Char} (h : '"' ∉ cs) (rest : List Char) :
    lex (cs ++ rest) = (lex rest).map (cs.map .code ++ ·) := by
  induction cs with
  | nil => simp
  | cons c cs ih =>
      obtain ⟨hc, hcs⟩ := not_or.mp (mt List.mem_cons.mpr h)
      rw [List.cons_append, lex, if_neg (Ne.symm hc), ih hcs, Option.map_map]
      rfl

theorem lex_literal (s : String) (rest : List Char) :
    lex ((literal s).toList ++ rest) = (lex rest).map (.literal s :: ·) := by
  have hread : readLiteral (s.toList.flatMap escapeChar ++ ['"'] ++ rest) =
      some (s.toList, rest) := by
    rw [List.append_assoc]
    exact readLiteral_literalChars s.toList rest
  rw [literal, String.toList_ofList, literalChars, List.cons_append, lex, if_pos rfl]
  split
  · next h => cases hread.symm.trans h
  · next text after h =>
      obtain ⟨rfl, rfl⟩ := Prod.mk.inj (Option.some.inj (hread.symm.trans h))
      rw [String.ofList_toList]

end PipelineScript.Text
