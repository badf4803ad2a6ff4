/-
# Code laid out in segments

Code that holds texts of the user is laid out as a list of segments: fixed
code, and texts that become literals.  A layout does not look into the texts,
so their type may be anything; `gaps` is what is left of it without them, and
does not change when they do (`gaps_map`).

As long as fixed code has no quote, the lexer finds the segments again
(`lex_render`): the literals are the texts, in order, and the code around them
is the gaps.
-/
import PipelineScript.Proofs.Text.Literal

namespace PipelineScript.Text

/-- A part of code: fixed code, or a text that becomes a literal. -/
inductive Segment (α : Type) where
  | code (s : String)
  | literal (value : α)

namespace Segment

variable {α β : Type}

def map (f : α → β) : Segment α → Segment β
  | code s => code s
  | literal value => literal (f value)

/-- The text of a literal. -/
def text? : Segment α → Option α
  | code _ => none
  | literal value => some value

/-- Code as it is, and a gap for a literal. -/
def gap : Segment α → List (Option Char)
  | code s => s.toList.map some
  | literal _ => [none]

/-- Fixed code does not have this character in it. -/
def Lacks (x : Char) : Segment α → Prop
  | code s => x ∉ s.toList
  | literal _ => True

/-- A segment as code. -/
@[simp]
def written : Segment String → String
  | code s => s
  | literal value => Text.literal value

/-- A segment as the lexer reads it. -/
def pieces : Segment String → List Piece
  | code s => s.toList.map .code
  | literal value => [.literal value]

end Segment

variable {α β : Type}

/-- The texts of a layout. -/
def texts (segments : List (Segment α)) : List α :=
  segments.filterMap Segment.text?

/-- The code of a layout, with a gap for each text. -/
def gaps (segments : List (Segment α)) : List (Option Char) :=
  segments.flatMap Segment.gap

/-- Segments as code. -/
def render (segments : List (Segment String)) : String :=
  String.join (segments.map Segment.written)

/-- Lists of segments with fixed code between them. -/
def listing (separator : String) : List (List (Segment α)) → List (Segment α)
  | [] => []
  | [item] => item
  | item :: next :: rest => item ++ .code separator :: listing separator (next :: rest)

/-! ## What a layout keeps -/

@[simp]
theorem texts_nil : texts ([] : List (Segment α)) = [] :=
  rfl

@[simp]
theorem texts_code (s : String) (rest : List (Segment α)) : texts (.code s :: rest) = texts rest :=
  rfl

@[simp]
theorem texts_literal (value : α) (rest : List (Segment α)) :
    texts (.literal value :: rest) = value :: texts rest :=
  rfl

@[simp]
theorem texts_append (xs ys : List (Segment α)) : texts (xs ++ ys) = texts xs ++ texts ys :=
  List.filterMap_append

theorem gaps_map (f : α → β) (segments : List (Segment α)) :
    gaps (segments.map (Segment.map f)) = gaps segments := by
  rw [gaps, List.flatMap_map]
  exact List.flatMap_congr fun s _ => by cases s <;> rfl

@[simp]
theorem render_nil : render [] = "" :=
  rfl

@[simp]
theorem render_append (xs ys : List (Segment String)) :
    render (xs ++ ys) = render xs ++ render ys := by
  rw [render, List.map_append, String.join_append]
  rfl

@[simp]
theorem render_cons (s : Segment String) (rest : List (Segment String)) :
    render (s :: rest) = s.written ++ render rest :=
  String.join_cons

theorem map_listing (f : α → β) (separator : String) (items : List (List (Segment α))) :
    (listing separator items).map (Segment.map f) =
      listing separator (items.map (List.map (Segment.map f))) := by
  induction items using listing.induct with
  | case1 => rfl
  | case2 item => rfl
  | case3 item next rest ih =>
      simp only [listing, List.map_append, List.map_cons, ih, Segment.map]

theorem texts_listing (separator : String) (items : List (List (Segment α))) :
    texts (listing separator items) = items.flatMap texts := by
  induction items using listing.induct with
  | case1 => rfl
  | case2 item => simp [listing]
  | case3 item next rest ih =>
      rw [listing, texts_append, List.flatMap_cons, ← ih]
      rfl

@[simp]
theorem render_listing (separator : String) (items : List (List (Segment String))) :
    render (listing separator items) = separator.intercalate (items.map render) := by
  induction items using listing.induct with
  | case1 => rfl
  | case2 item => simp [listing]
  | case3 item next rest ih =>
      rw [listing, render_append, render_cons, ih]
      simp only [List.map_cons, String.intercalate_cons_cons, String.append_assoc, Segment.written]

theorem of_mem_listing {separator : String} {items : List (List (Segment α))} {s : Segment α}
    (h : s ∈ listing separator items) : s = .code separator ∨ ∃ item ∈ items, s ∈ item := by
  induction items using listing.induct with
  | case1 => cases h
  | case2 item => exact Or.inr ⟨item, List.mem_cons_self, h⟩
  | case3 item next rest ih =>
      rw [listing] at h
      rcases List.mem_append.mp h with h | h
      · exact Or.inr ⟨item, List.mem_cons_self, h⟩
      · rcases List.mem_cons.mp h with h | h
        · exact Or.inl h
        · rcases ih h with h | ⟨other, hmem, h⟩
          · exact Or.inl h
          · exact Or.inr ⟨other, List.mem_cons_of_mem _ hmem, h⟩

theorem newline_not_mem_render {segments : List (Segment String)}
    (h : ∀ s ∈ segments, s.Lacks '\n') : '\n' ∉ (render segments).toList := by
  induction segments with
  | nil => simp
  | cons s rest ih =>
      obtain ⟨hs, hrest⟩ := List.forall_mem_cons.mp h
      rw [render_cons, String.toList_append, List.mem_append, not_or]
      refine ⟨?_, ih hrest⟩
      cases s with
      | code s => exact hs
      | literal value => exact newline_not_mem_literal value

/-! ## Reading a layout back -/

theorem lex_render {segments : List (Segment String)} (h : ∀ s ∈ segments, s.Lacks '"') :
    lex (render segments).toList = some (segments.flatMap Segment.pieces) := by
  induction segments with
  | nil => exact lex_nil
  | cons s rest ih =>
      obtain ⟨hs, hrest⟩ := List.forall_mem_cons.mp h
      rw [render_cons, String.toList_append, List.flatMap_cons]
      cases s with
      | code s =>
          rw [Segment.written, lex_code hs, ih hrest]
          rfl
      | literal value =>
          rw [Segment.written, lex_literal, ih hrest]
          rfl

theorem literals_pieces (segments : List (Segment String)) :
    literals (segments.flatMap Segment.pieces) = texts segments := by
  induction segments with
  | nil => rfl
  | cons s rest ih =>
      rw [List.flatMap_cons, literals, List.filterMap_append]
      cases s with
      | code s =>
          have hnone : (s.toList.map Piece.code).filterMap Piece.text? = [] := by
            simp [Function.comp_def, Piece.text?]
          rw [Segment.pieces, hnone]
          exact ih
      | literal value => exact congrArg (value :: ·) ih

theorem skeleton_pieces (segments : List (Segment String)) :
    skeleton (segments.flatMap Segment.pieces) = gaps segments := by
  rw [skeleton, List.map_flatMap]
  refine List.flatMap_congr fun s _ => ?_
  cases s with
  | code s => simp [Segment.pieces, Segment.gap, Function.comp_def, Piece.char?]
  | literal value => rfl

end PipelineScript.Text
