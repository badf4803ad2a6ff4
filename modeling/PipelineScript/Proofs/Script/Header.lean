/-
# A header is a comment until a line of it ends in another way

`headerSection` puts `# ` in front of the lines of the header and the program is
read in lines of its own (`Text.sourceLines`).  Line feeds end a line for both, with
and without a carriage return in front.  A carriage return that stands alone ends
a line of the program only: the header does not come back then, and what is behind
the carriage return is code, unless it happens to begin with `#` itself
(`header_commented`).
-/
import PipelineScript.Proofs.Text.Lines
import PipelineScript.Script.Basic

namespace PipelineScript

open Text (lines sourceLines sourceLinesFrom linesFrom joined ReturnBefore LoneReturn)

namespace Script

variable {s : Script} {header comment : String}

/-- The mark in front of the lines of a header. -/
def hash : List Char :=
  ['#', ' ']

theorem hash_bare : ∀ c ∈ hash, Text.isBreak c = false := by
  intro c hc
  rcases List.mem_pair.mp hc with rfl | rfl
  · rfl
  · rfl

theorem headerSection_of_ne (h : s.header = some header) (full : header ≠ "") :
    s.headerSection = ["\n".intercalate ((lines header).map ("# " ++ ·))] := by
  rw [headerSection, h]
  exact if_neg (by simpa using full)

theorem headerSection_eq_nil_iff : s.headerSection = [] ↔ s.header.getD "" = "" := by
  cases h : s.header with
  | none =>
      rw [headerSection, h]
      exact iff_of_true rfl rfl
  | some header =>
      by_cases empty : header = ""
      · rw [headerSection, h, empty]
        exact iff_of_true rfl rfl
      · rw [headerSection_of_ne h empty]
        exact iff_of_false (List.cons_ne_nil _ _) empty

theorem exists_render (h : s.headerSection = [comment]) :
    ∃ rest, s.render = comment ++ "\n" ++ rest := by
  rw [render, sections, h, List.singleton_append]
  cases [s.importsBlock, s.bodyBlock].filter (· != "") with
  | nil => exact ⟨"", by rw [String.intercalate_singleton, String.append_empty]⟩
  | cons next others =>
      refine ⟨"\n" ++ "\n\n".intercalate (next :: others) ++ "\n", ?_⟩
      have gap : "\n\n" = "\n" ++ "\n" := rfl
      rw [String.intercalate_cons_cons, gap]
      simp only [String.append_assoc]

theorem map_toList_injective : Function.Injective (List.map String.toList) :=
  List.map_injective_iff.mpr fun _ _ h => String.toList_injective h

theorem toList_map_hash (texts : List String) :
    (texts.map ("# " ++ ·)).map String.toList = (texts.map String.toList).map (hash ++ ·) := by
  rw [List.map_map, List.map_map]
  exact List.map_congr_left fun _ _ => String.toList_append

theorem toList_comment (header : String) :
    ("\n".intercalate ((lines header).map ("# " ++ ·))).toList =
      joined hash (linesFrom [] header.toList) := by
  rw [String.toList_intercalate, toList_map_hash, Text.toList_lines]
  rfl

/-- The section of a header in the text of a program: it comes first, and its lines
are read for themselves.  They all begin with `#` as long as nothing else stands
behind a carriage return in a line of the header, and without the marks they are
the lines of the header as long as there is no lone carriage return in it. -/
structure Headed (s : Script) (header comment : String) : Prop where
  only : s.headerSection = [comment]
  first : ∃ rest, s.render = comment ++ "\n" ++ rest ∧
    sourceLines s.render = sourceLines comment ++ sourceLines rest
  marked : (∀ line ∈ sourceLines comment, ∃ text, line = "#" ++ text) ↔
    ∀ l ∈ lines header, ¬ ReturnBefore (· ≠ '#') l.toList
  faithful : sourceLines comment = (sourceLines header).map ("# " ++ ·) ↔
    ¬ LoneReturn header.toList

theorem begins_iff {line : String} :
    (∃ text, line = "#" ++ text) ↔ line.toList.head? = some '#' := by
  have hashed : "#".toList = ['#'] := rfl
  constructor
  · rintro ⟨text, rfl⟩
    rw [String.toList_append, hashed]
    rfl
  · intro h
    obtain ⟨rest, hline⟩ := List.head?_eq_some_iff.mp h
    refine ⟨String.ofList rest, String.toList_injective ?_⟩
    rw [hline, String.toList_append, hashed, String.toList_ofList, List.singleton_append]

/-- **A header stays a comment** unless a carriage return stands alone in it. -/
theorem header_commented (s : Script) :
    (s.headerSection = [] ↔ s.header.getD "" = "") ∧
      ∀ header, s.header = some header → header ≠ "" → ∃ comment, s.Headed header comment := by
  refine ⟨headerSection_eq_nil_iff, fun header hheader full => ?_⟩
  have only := headerSection_of_ne hheader full
  have marked : hash ≠ [] := List.cons_ne_nil _ _
  have unbroken : ∀ l ∈ linesFrom [] header.toList, '\n' ∉ l :=
    Text.newline_not_mem_of_mem_linesFrom List.not_mem_nil
  have some : linesFrom [] header.toList ≠ [] :=
    Text.linesFrom_ne_nil fun none => absurd (String.toList_eq_nil_iff.mp none) full
  refine ⟨_, only, ?_, ?_, ?_⟩
  · obtain ⟨rest, hrender⟩ := exists_render only
    refine ⟨rest, hrender, map_toList_injective ?_⟩
    have text : s.render.toList =
        joined hash (linesFrom [] header.toList) ++ '\n' :: rest.toList := by
      rw [hrender, String.toList_append, String.toList_append, toList_comment, List.append_assoc]
      rfl
    rw [List.map_append, Text.toList_sourceLines, Text.toList_sourceLines, Text.toList_sourceLines,
      text, toList_comment]
    exact Text.sourceLinesFrom_joined_append marked hash_bare unbroken some rest.toList
  · have marks := Text.joined_marked_iff hash_bare marked header.toList rfl
    rw [← toList_comment, ← Text.toList_sourceLines, ← Text.toList_lines, List.forall_mem_map,
      List.forall_mem_map] at marks
    simp only [begins_iff]
    exact marks
  · rw [← map_toList_injective.eq_iff, toList_map_hash,
      Text.toList_sourceLines, Text.toList_sourceLines, toList_comment]
    exact Text.joined_faithful_iff hash_bare marked header.toList

/-! A header from a file with two kinds of line ends, and one with a third kind. -/

def titled : Script where
  header := some "sales\r\n\ndo not edit\n"
  imports := ["import os"]

theorem header_commented_titled :
    titled.header = some "sales\r\n\ndo not edit\n" ∧ "sales\r\n\ndo not edit\n" ≠ "" ∧
      ∃ comment, titled.Headed "sales\r\n\ndo not edit\n" comment ∧
        sourceLines comment = ["# sales", "# ", "# do not edit"] := by
  have full : "sales\r\n\ndo not edit\n" ≠ "" := by decide
  obtain ⟨comment, headed⟩ := (header_commented titled).2 _ rfl full
  refine ⟨rfl, full, comment, headed, ?_⟩
  rw [headed.faithful.mpr (by decide)]
  decide

def injected : Script where
  header := some "sales\rimport os"

theorem header_not_commented :
    ¬ ∀ (s : Script) (header comment : String), s.header = some header → header ≠ "" →
      s.headerSection = [comment] → ∀ line ∈ sourceLines comment, ∃ text, line = "#" ++ text := by
  intro always
  have statement : "import os" ∈ sourceLines "# sales\rimport os" := by decide
  have begins := always injected _ "# sales\rimport os" rfl (by decide) (by decide) _ statement
  exact absurd (begins_iff.mp begins) (by decide)

end Script

end PipelineScript
