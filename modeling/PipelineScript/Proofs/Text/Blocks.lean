/-
# Blocks of lines

`blocks` splits a text at its blank lines, the way `split` does with a pattern
of two line feeds: from the left, and a third line feed belongs to what comes
next.

A text is taken apart as it was put together if its parts are blocks: full lines
(`IsLine`) with one line feed between them (`IsBlock`).  No line is empty, so no
line feed in a block is next to another, and none stands at an end.
-/
import Mathlib.Data.List.Basic
import PipelineScript.Text.Blank

namespace PipelineScript.Text

/-- What stands between blank lines; `current` is the block being read, its last
character first. -/
def blocksFrom (current : List Char) : List Char → List (List Char)
  | [] => [current.reverse]
  | '\n' :: '\n' :: rest => current.reverse :: blocksFrom [] rest
  | c :: rest => blocksFrom (c :: current) rest

/-- What stands between the blank lines of a text. -/
def blocks (s : String) : List String :=
  (blocksFrom [] s.toList).map String.ofList

/-! ## Lines that say something -/

/-- A full line: there is no line feed in it, and it does not end in a blank. -/
structure IsLine (s : String) : Prop where
  unbroken : '\n' ∉ s.toList
  tight : ∃ front x, s.toList = front ++ [x] ∧ isBlank x = false

theorem IsLine.isBlankText_eq {s : String} (h : IsLine s) : isBlankText s = false := by
  obtain ⟨front, x, hs, visible⟩ := h.tight
  simp [isBlankText, hs, visible]

/-- Full lines with one line feed between any two. -/
inductive IsBlock : String → Prop
  | line {s : String} : IsLine s → IsBlock s
  | cons {s rest : String} : IsLine s → IsBlock rest → IsBlock (s ++ "\n" ++ rest)

theorem isBlock_intercalate : ∀ {lines : List String}, lines ≠ [] → (∀ l ∈ lines, IsLine l) →
    IsBlock ("\n".intercalate lines)
  | [], full, _ => absurd rfl full
  | [l], _, hlines => by
      rw [String.intercalate_singleton]
      exact .line (hlines l List.mem_cons_self)
  | l :: next :: rest, _, hlines => by
      obtain ⟨hl, hrest⟩ := List.forall_mem_cons.mp hlines
      rw [String.intercalate_cons_cons]
      exact .cons hl (isBlock_intercalate (List.cons_ne_nil next rest) hrest)

theorem IsLine.exists_cons {s : String} (h : IsLine s) :
    ∃ x cs, s.toList = x :: cs ∧ x ≠ '\n' := by
  obtain ⟨front, x, hs, -⟩ := h.tight
  cases hc : s.toList with
  | nil => simp [hc] at hs
  | cons y cs =>
      refine ⟨y, cs, rfl, ?_⟩
      rintro rfl
      exact h.unbroken (hc ▸ List.mem_cons_self)

theorem IsBlock.exists_cons {s : String} (h : IsBlock s) :
    ∃ x cs, s.toList = x :: cs ∧ x ≠ '\n' := by
  cases h with
  | line h => exact h.exists_cons
  | cons h _ =>
      obtain ⟨x, cs, hs, hx⟩ := h.exists_cons
      exact ⟨x, _, by rw [String.toList_append, String.toList_append, hs]; rfl, hx⟩

theorem IsBlock.ne_empty {s : String} (h : IsBlock s) : s ≠ "" := by
  obtain ⟨x, cs, hs, -⟩ := h.exists_cons
  rintro rfl
  cases hs

theorem IsBlock.tight {s : String} (h : IsBlock s) :
    ∃ front x, s.toList = front ++ [x] ∧ isBlank x = false := by
  induction h with
  | line h => exact h.tight
  | @cons s rest _ _ ih =>
      obtain ⟨front, x, hrest, hx⟩ := ih
      exact ⟨(s ++ "\n").toList ++ front, x, by simp [hrest], hx⟩

theorem IsBlock.trimEnd_eq {s : String} (h : IsBlock s) : trimEnd s = s := by
  obtain ⟨front, x, hs, visible⟩ := h.tight
  have chars : trimEndChars s.toList = s.toList := by
    simp [trimEndChars, hs, visible]
  rw [trimEnd, chars, String.ofList_toList]

/-! ## Taking texts apart -/

theorem blocksFrom_cons {c : Char} {rest : List Char}
    (single : c = '\n' → ∀ after, rest ≠ '\n' :: after) (current : List Char) :
    blocksFrom current (c :: rest) = blocksFrom (c :: current) rest := by
  rw [blocksFrom]
  intro after hc hrest
  exact single hc after hrest

theorem blocksFrom_line {cs : List Char} (h : '\n' ∉ cs) (current rest : List Char) :
    blocksFrom current (cs ++ rest) = blocksFrom (cs.reverse ++ current) rest := by
  induction cs generalizing current with
  | nil => rfl
  | cons c cs ih =>
      obtain ⟨hc, hcs⟩ := not_or.mp (mt List.mem_cons.mpr h)
      rw [List.cons_append, blocksFrom_cons (fun feed => absurd feed.symm hc), ih hcs]
      simp

theorem IsBlock.blocksFrom_append {s : String} (h : IsBlock s) (current rest : List Char) :
    blocksFrom current (s.toList ++ rest) = blocksFrom (s.toList.reverse ++ current) rest := by
  induction h generalizing current with
  | line h => exact blocksFrom_line h.unbroken current rest
  | @cons s after h hafter ih =>
      obtain ⟨x, cs, hx, hne⟩ := hafter.exists_cons
      have feed : blocksFrom (s.toList.reverse ++ current) ('\n' :: (after.toList ++ rest)) =
          blocksFrom ('\n' :: (s.toList.reverse ++ current)) (after.toList ++ rest) := by
        refine blocksFrom_cons (fun _ later h => ?_) _
        rw [hx] at h
        exact hne (List.cons.inj h).1
      have text : (s ++ "\n" ++ after).toList ++ rest =
          s.toList ++ '\n' :: (after.toList ++ rest) := by simp
      rw [text, blocksFrom_line h.unbroken, feed, ih]
      simp

/-- **Blocks are found again**, if there are blank lines between them and no
others. -/
theorem blocks_intercalate : ∀ {texts : List String}, texts ≠ [] → (∀ s ∈ texts, IsBlock s) →
    blocks ("\n\n".intercalate texts) = texts
  | [], full, _ => absurd rfl full
  | [s], _, hblocks => by
      have h := (hblocks s List.mem_cons_self).blocksFrom_append [] []
      rw [List.append_nil, List.append_nil] at h
      rw [String.intercalate_singleton, blocks, h]
      simp [blocksFrom]
  | s :: next :: rest, _, hblocks => by
      obtain ⟨hs, hrest⟩ := List.forall_mem_cons.mp hblocks
      have ih := blocks_intercalate (List.cons_ne_nil next rest) hrest
      have h := hs.blocksFrom_append []
        ('\n' :: '\n' :: ("\n\n".intercalate (next :: rest)).toList)
      have text : ("\n\n".intercalate (s :: next :: rest)).toList =
          s.toList ++ '\n' :: '\n' :: ("\n\n".intercalate (next :: rest)).toList := by
        simp [String.intercalate_cons_cons]
      rw [blocks] at ih
      rw [blocks, text, h, blocksFrom, List.map_cons, ih]
      simp

theorem splitOn_intercalate_lines {lines : List String} (full : lines ≠ [])
    (hlines : ∀ l ∈ lines, IsLine l) :
    ("\n".intercalate lines).toList.splitOn '\n' = lines.map String.toList := by
  rw [String.toList_intercalate]
  refine List.splitOn_intercalate '\n' ?_ (mt List.map_eq_nil_iff.mp full)
  intro cs hcs
  obtain ⟨l, hl, rfl⟩ := List.mem_map.mp hcs
  exact (hlines l hl).unbroken

end PipelineScript.Text
