/-
# The lines that a program is read in

`Text.lines` takes a text apart at its line feeds.  A program is read in lines
that a carriage return ends as well (`sourceLines`), and the two do not agree
where a carriage return stands alone: in the middle of one line for `lines`, it
is the end of a line of the program.

A mark is put in front of the lines that `lines` finds and nowhere else
(`sourceLinesFrom_joined`).  What stands behind a lone carriage return goes without
it, and so the lines of the program are the marked lines of the text just when
there is no such return (`joined_faithful_iff`); they all begin with the mark just
when it was there already (`joined_marked_iff`).
-/
import Mathlib.Data.List.Basic
import PipelineScript.Text.Lines

namespace PipelineScript.Text

/-- The lines of a program; `current` is the line being read, its last character
first.  A carriage return and a line feed behind it end one line together. -/
def sourceLinesFrom (current : List Char) : List Char → List (List Char)
  | [] => if current.isEmpty then [] else [current.reverse]
  | '\r' :: '\n' :: rest => current.reverse :: sourceLinesFrom [] rest
  | '\r' :: rest => current.reverse :: sourceLinesFrom [] rest
  | '\n' :: rest => current.reverse :: sourceLinesFrom [] rest
  | c :: rest => sourceLinesFrom (c :: current) rest

/-- The lines of a program. -/
def sourceLines (s : String) : List String :=
  (sourceLinesFrom [] s.toList).map String.ofList

/-- Somewhere a carriage return stands in front of such a character. -/
inductive ReturnBefore (p : Char → Prop) : List Char → Prop
  | here {c : Char} {rest : List Char} : p c → ReturnBefore p ('\r' :: c :: rest)
  | there {c : Char} {rest : List Char} : ReturnBefore p rest → ReturnBefore p (c :: rest)

/-- Somewhere a carriage return stands alone, in front of something. -/
abbrev LoneReturn : List Char → Prop :=
  ReturnBefore (· ≠ '\n')

/-- A character that may end a line. -/
def isBreak (c : Char) : Bool :=
  c == '\r' || c == '\n'

/-- Lines with a mark in front of each, and line feeds between them. -/
def joined (mark : List Char) (lines : List (List Char)) : List Char :=
  ['\n'].intercalate (lines.map (mark ++ ·))

/-! ## One character after the other -/

section Steps
variable (current rest : List Char)

theorem sourceLinesFrom_both :
    sourceLinesFrom current ('\r' :: '\n' :: rest) =
      current.reverse :: sourceLinesFrom [] rest := by
  rw [sourceLinesFrom]

theorem sourceLinesFrom_feed :
    sourceLinesFrom current ('\n' :: rest) = current.reverse :: sourceLinesFrom [] rest := by
  rw [sourceLinesFrom]

theorem sourceLinesFrom_return {rest : List Char} (alone : ∀ after, rest ≠ '\n' :: after) :
    sourceLinesFrom current ('\r' :: rest) = current.reverse :: sourceLinesFrom [] rest := by
  rw [sourceLinesFrom]
  exact alone

theorem sourceLinesFrom_other {c : Char} (hr : c ≠ '\r') (hn : c ≠ '\n') :
    sourceLinesFrom current (c :: rest) = sourceLinesFrom (c :: current) rest := by
  rw [sourceLinesFrom]
  · exact fun _ h => absurd h hr
  · exact hr
  · exact hn

theorem sourceLinesFrom_nil (h : current ≠ []) :
    sourceLinesFrom current [] = [current.reverse] := by
  rw [sourceLinesFrom, if_neg (by simpa using h)]

theorem linesFrom_nil (h : current ≠ []) : linesFrom current [] = [current.reverse] := by
  rw [linesFrom, if_neg (by simpa using h)]

theorem linesFrom_feed :
    linesFrom current ('\n' :: rest) = dropReturn current :: linesFrom [] rest := by
  rw [linesFrom]

theorem linesFrom_other {c : Char} (hn : c ≠ '\n') :
    linesFrom current (c :: rest) = linesFrom (c :: current) rest := by
  rw [linesFrom]
  exact hn

end Steps

/-- A text is read for the lines of a program in one of six ways. -/
@[elab_as_elim]
theorem sourceLines_induction {motive : List Char → List Char → Prop} (done : motive [] [])
    (unended : ∀ current, current ≠ [] → motive current [])
    (both : ∀ current rest, motive [] rest → motive current ('\r' :: '\n' :: rest))
    (lone : ∀ current rest, (∀ after, rest ≠ '\n' :: after) → motive [] rest →
      motive current ('\r' :: rest))
    (feed : ∀ current rest, motive [] rest → motive current ('\n' :: rest))
    (other : ∀ current c rest, c ≠ '\r' → c ≠ '\n' → motive (c :: current) rest →
      motive current (c :: rest))
    (current cs : List Char) : motive current cs := by
  induction current, cs using sourceLinesFrom.induct with
  | case1 current empty => exact List.isEmpty_iff.mp empty ▸ done
  | case2 current full => exact unended current fun h => full (List.isEmpty_iff.mpr h)
  | case3 current rest ih => exact both current rest ih
  | case4 current rest alone ih => exact lone current rest alone ih
  | case5 current rest ih => exact feed current rest ih
  | case6 current c rest _ hr hn ih => exact other current c rest hr hn ih

@[elab_as_elim]
theorem lines_induction {motive : List Char → List Char → Prop} (done : motive [] [])
    (unended : ∀ current, current ≠ [] → motive current [])
    (feed : ∀ current rest, motive [] rest → motive current ('\n' :: rest))
    (other : ∀ current c rest, c ≠ '\n' → motive (c :: current) rest → motive current (c :: rest))
    (current cs : List Char) : motive current cs := by
  induction current, cs using linesFrom.induct with
  | case1 current empty => exact List.isEmpty_iff.mp empty ▸ done
  | case2 current full => exact unended current fun h => full (List.isEmpty_iff.mpr h)
  | case3 current rest ih => exact feed current rest ih
  | case4 current c rest hn ih => exact other current c rest hn ih

theorem isBreak_eq_false_iff {c : Char} : isBreak c = false ↔ c ≠ '\r' ∧ c ≠ '\n' := by
  simp [isBreak]

theorem ReturnBefore.tail {p : Char → Prop} {c : Char} {rest : List Char}
    (h : ReturnBefore p (c :: rest)) (hc : c ≠ '\r') : ReturnBefore p rest := by
  cases h with
  | here _ => exact absurd rfl hc
  | there h => exact h

theorem not_returnBefore_nil {p : Char → Prop} : ¬ ReturnBefore p [] := by
  intro h
  cases h

instance decReturnBefore (p : Char → Prop) [DecidablePred p] :
    ∀ cs : List Char, Decidable (ReturnBefore p cs)
  | [] => isFalse not_returnBefore_nil
  | c :: rest =>
    match decReturnBefore p rest with
    | isTrue later => isTrue (.there later)
    | isFalse never =>
      match rest with
      | [] => isFalse fun h => by
          cases h with
          | there later => exact never later
      | d :: rest =>
        if h : c = '\r' ∧ p d then isTrue (h.1 ▸ .here h.2)
        else isFalse fun before => by
          cases before with
          | here hd => exact h ⟨rfl, hd⟩
          | there later => exact never later

/-! ## Lines one after the other -/

theorem unended_tail {c x : Char} {rest : List Char} (h : (c :: rest).getLast? ≠ some x) :
    rest.getLast? ≠ some x := by
  intro last
  apply h
  rw [List.getLast?_cons, last]
  rfl

/-- A line feed closes what is open, and there is nothing else it could do. -/
theorem sourceLinesFrom_append {current first : List Char} (rest : List Char)
    (written : first = [] → current ≠ []) (unended : first.getLast? ≠ some '\n') :
    sourceLinesFrom current (first ++ '\n' :: rest) =
      sourceLinesFrom current first ++ sourceLinesFrom [] rest := by
  induction current, first using sourceLines_induction with
  | done => exact absurd rfl (written rfl)
  | unended current full =>
      rw [List.nil_append, sourceLinesFrom_feed, sourceLinesFrom_nil _ full]
      rfl
  | both current after ih =>
      have more : after ≠ [] := by
        rintro rfl
        exact unended rfl
      rw [List.cons_append, List.cons_append, sourceLinesFrom_both, sourceLinesFrom_both,
        ih (fun none => absurd none more) (unended_tail (unended_tail unended))]
      rfl
  | lone current after alone ih =>
      cases after with
      | nil =>
          rw [sourceLinesFrom_return _ alone]
          exact sourceLinesFrom_both current rest
      | cons d after =>
          have other : ∀ later, d :: after ++ '\n' :: rest ≠ '\n' :: later := by
            intro later h
            exact alone after (by rw [(List.cons.inj h).1])
          rw [List.cons_append, sourceLinesFrom_return _ other, sourceLinesFrom_return _ alone,
            ih (fun none => absurd none (List.cons_ne_nil _ _)) (unended_tail unended)]
          rfl
  | feed current after ih =>
      have more : after ≠ [] := by
        rintro rfl
        exact unended rfl
      rw [List.cons_append, sourceLinesFrom_feed, sourceLinesFrom_feed,
        ih (fun none => absurd none more) (unended_tail unended)]
      rfl
  | other current c after hr hn ih =>
      rw [List.cons_append, sourceLinesFrom_other _ _ hr hn, sourceLinesFrom_other _ _ hr hn]
      exact ih (fun _ => List.cons_ne_nil _ _) (unended_tail unended)

theorem newline_not_mem_dropReturn {current : List Char} (h : '\n' ∉ current) :
    '\n' ∉ dropReturn current := by
  intro hmem
  unfold dropReturn at hmem
  split at hmem
  · next rest => exact h (List.mem_cons_of_mem _ (List.mem_reverse.mp hmem))
  · exact h (List.mem_reverse.mp hmem)

theorem newline_not_mem_of_mem_linesFrom {current cs : List Char} (h : '\n' ∉ current) :
    ∀ l ∈ linesFrom current cs, '\n' ∉ l := by
  induction current, cs using lines_induction with
  | done => exact fun l hl => absurd hl List.not_mem_nil
  | unended current full =>
      rw [linesFrom_nil _ full]
      intro l hl
      rw [List.mem_singleton.mp hl, List.mem_reverse]
      exact h
  | feed current rest ih =>
      rw [linesFrom_feed]
      intro l hl
      rcases List.mem_cons.mp hl with rfl | hl
      · exact newline_not_mem_dropReturn h
      · exact ih List.not_mem_nil l hl
  | other current c rest hn ih =>
      rw [linesFrom_other _ _ hn]
      exact ih (List.not_mem_cons_of_ne_of_not_mem (Ne.symm hn) h)

section Joined
variable {lines : List (List Char)}

theorem joined_cons_cons (mark first next : List Char) (rest : List (List Char)) :
    joined mark (first :: next :: rest) =
      mark ++ first ++ '\n' :: joined mark (next :: rest) := by
  rw [joined, List.map_cons, List.map_cons, List.intercalate_cons_cons]
  rw [List.append_assoc, List.singleton_append]
  rfl

theorem joined_singleton (mark l : List Char) : joined mark [l] = mark ++ l :=
  List.intercalate_singleton

theorem exists_last_joined (mark : List Char) (some : lines ≠ []) :
    ∃ front, ∃ l ∈ lines, joined mark lines = front ++ (mark ++ l) := by
  induction lines with
  | nil => exact absurd rfl some
  | cons first rest ih =>
      cases rest with
      | nil => exact ⟨[], first, List.mem_singleton_self first, joined_singleton mark first⟩
      | cons next rest =>
          obtain ⟨front, l, hl, hjoined⟩ := ih (List.cons_ne_nil _ _)
          refine ⟨mark ++ first ++ '\n' :: front, l, List.mem_cons_of_mem _ hl, ?_⟩
          rw [joined_cons_cons, hjoined, List.append_assoc, List.append_assoc, List.cons_append]
          simp only [List.append_assoc]

variable {mark : List Char} (full : mark ≠ []) (bare : ∀ c ∈ mark, isBreak c = false)
include full bare

theorem unended_marked (front : List Char) {l : List Char} (h : '\n' ∉ l) :
    (front ++ (mark ++ l)).getLast? ≠ some '\n' := by
  rw [List.getLast?_append_of_ne_nil _ (List.append_ne_nil_of_left_ne_nil full l)]
  intro last
  rcases List.mem_append.mp (List.mem_of_getLast? last) with hm | hl
  · cases bare _ hm
  · exact h hl

variable (unbroken : ∀ l ∈ lines, '\n' ∉ l)
include unbroken

/-- Each line that a mark was put in front of is read for itself. -/
theorem sourceLinesFrom_joined :
    sourceLinesFrom [] (joined mark lines) =
      lines.flatMap fun l => sourceLinesFrom [] (mark ++ l) := by
  induction lines with
  | nil => rfl
  | cons first rest ih =>
      obtain ⟨hfirst, hrest⟩ := List.forall_mem_cons.mp unbroken
      cases rest with
      | nil => rw [joined_singleton, List.flatMap_singleton]
      | cons next rest =>
          have written : mark ++ first ≠ [] := List.append_ne_nil_of_left_ne_nil full _
          rw [joined_cons_cons, sourceLinesFrom_append _ (fun none => absurd none written)
            (unended_marked full bare [] hfirst), ih hrest]
          rfl

theorem sourceLinesFrom_joined_append (some : lines ≠ []) (rest : List Char) :
    sourceLinesFrom [] (joined mark lines ++ '\n' :: rest) =
      sourceLinesFrom [] (joined mark lines) ++ sourceLinesFrom [] rest := by
  obtain ⟨front, l, hl, hjoined⟩ := exists_last_joined mark some
  rw [hjoined]
  have unended := unended_marked full bare front (unbroken l hl)
  refine sourceLinesFrom_append rest (fun none => ?_) unended
  exact absurd (List.append_eq_nil_iff.mp (List.append_eq_nil_iff.mp none).2).1 full

end Joined

/-! ## Marks at the beginning of lines -/

theorem returnBefore_cons_iff {m : Char} {rest : List Char} :
    ¬ ReturnBefore (· ≠ m) ('\r' :: rest) ↔
      (rest = [] ∨ rest.head? = some m) ∧ ¬ ReturnBefore (· ≠ m) rest := by
  constructor
  · intro h
    refine ⟨?_, fun later => h (.there later)⟩
    cases rest with
    | nil => exact Or.inl rfl
    | cons c rest =>
        by_cases hc : c = m
        · exact Or.inr (congrArg some hc)
        · exact absurd (.here hc) h
  · rintro ⟨begins, h⟩ before
    cases before with
    | here hc =>
        rcases begins with none | first
        · cases none
        · exact hc (Option.some.inj first)
    | there later => exact h later

/-- The lines that one line is read in all begin with a character if it does, and
if the carriage returns in it are in front of that character. -/
theorem head_sourceLinesFrom_iff {m : Char} (hm : isBreak m = false) {current l : List Char}
    (unbroken : '\n' ∉ l) :
    (∀ line ∈ sourceLinesFrom current l, line.head? = some m) ↔
      (current.reverse ++ l = [] ∨ (current.reverse ++ l).head? = some m) ∧
        ¬ ReturnBefore (· ≠ m) l := by
  induction current, l using sourceLines_induction with
  | done =>
      exact iff_of_true (fun _ h => absurd h List.not_mem_nil) ⟨Or.inl rfl, not_returnBefore_nil⟩
  | unended current full =>
      rw [sourceLinesFrom_nil _ full, List.forall_mem_singleton, List.append_nil]
      constructor
      · exact fun h => ⟨Or.inr h, not_returnBefore_nil⟩
      · rintro ⟨none | h, -⟩
        · exact absurd (List.reverse_eq_nil_iff.mp none) full
        · exact h
  | both current rest ih =>
      exact absurd (List.mem_cons_of_mem _ List.mem_cons_self) unbroken
  | lone current rest alone ih =>
      rw [sourceLinesFrom_return _ alone, List.forall_mem_cons,
        ih fun h => unbroken (List.mem_cons_of_mem _ h), returnBefore_cons_iff]
      refine and_congr_left' ?_
      cases current.reverse with
      | nil =>
          refine iff_of_false (fun h => by cases h) ?_
          rintro (h | h)
          · cases h
          · cases Option.some.inj h
            cases hm
      | cons c cs => exact (or_iff_right (List.cons_ne_nil c _)).symm
  | feed current rest ih => exact absurd List.mem_cons_self unbroken
  | other current c rest hr hn ih =>
      have same : ¬ ReturnBefore (· ≠ m) (c :: rest) ↔ ¬ ReturnBefore (· ≠ m) rest :=
        not_congr ⟨fun h => h.tail hr, .there⟩
      rw [sourceLinesFrom_other _ _ hr hn, ih fun h => unbroken (List.mem_cons_of_mem _ h), same,
        List.reverse_cons, List.append_assoc, List.singleton_append]

/-! ## Where the two notions of a line come to the same -/

theorem sourceLinesFrom_plain {xs : List Char} (h : ∀ c ∈ xs, isBreak c = false)
    (current rest : List Char) :
    sourceLinesFrom current (xs ++ rest) = sourceLinesFrom (xs.reverse ++ current) rest := by
  induction xs generalizing current with
  | nil => rfl
  | cons c xs ih =>
      obtain ⟨hc, hxs⟩ := List.forall_mem_cons.mp h
      obtain ⟨hr, hn⟩ := isBreak_eq_false_iff.mp hc
      rw [List.cons_append, sourceLinesFrom_other _ _ hr hn, ih hxs, List.reverse_cons,
        List.append_assoc, List.singleton_append]

section Marked
variable {mark : List Char} (full : mark ≠ []) (bare : ∀ c ∈ mark, isBreak c = false)
include full bare

theorem sourceLinesFrom_marked {xs : List Char} (h : ∀ c ∈ xs, isBreak c = false) :
    sourceLinesFrom [] (mark ++ xs) = [mark ++ xs] ∧
      sourceLinesFrom [] (mark ++ (xs ++ ['\r'])) = [mark ++ xs] := by
  have plain : ∀ c ∈ mark ++ xs, isBreak c = false := List.forall_mem_append.mpr ⟨bare, h⟩
  have written : (mark ++ xs).reverse ++ [] ≠ [] := by
    rw [List.append_nil]
    exact mt List.reverse_eq_nil_iff.mp (List.append_ne_nil_of_left_ne_nil full xs)
  constructor
  · have read := sourceLinesFrom_plain plain [] []
    rw [List.append_nil] at read
    rw [read, sourceLinesFrom_nil _ written, List.append_nil, List.reverse_reverse]
  · rw [← List.append_assoc, sourceLinesFrom_plain plain,
      sourceLinesFrom_return _ (fun _ h => by cases h), List.append_nil, List.reverse_reverse]
    rfl

/-- If no carriage return stands alone, the program is read in the marked lines of
the text.  The carriage return that `linesFrom` leaves at the very end makes no
difference. -/
theorem flatMap_marked {current cs : List Char} (paired : ¬ LoneReturn cs)
    (plain : ∀ c ∈ current, isBreak c = false) :
    ((linesFrom current cs).flatMap fun l => sourceLinesFrom [] (mark ++ l)) =
      (sourceLinesFrom current cs).map (mark ++ ·) := by
  have read {xs : List Char} (h : ∀ c ∈ xs, isBreak c = false) :
      sourceLinesFrom [] (mark ++ xs.reverse) = [mark ++ xs.reverse] :=
    (sourceLinesFrom_marked full bare fun c hc => h c (List.mem_reverse.mp hc)).1
  induction current, cs using sourceLines_induction with
  | done =>
      rfl
  | unended current written =>
      rw [linesFrom_nil _ written, sourceLinesFrom_nil _ written, List.flatMap_singleton,
        read plain]
      rfl
  | both current rest ih =>
      have later := ih (fun h => paired (.there (.there h))) (fun _ h => absurd h List.not_mem_nil)
      rw [linesFrom_other _ _ (by decide), linesFrom_feed, sourceLinesFrom_both, List.flatMap_cons,
        later, List.map_cons, dropReturn, read plain]
      rfl
  | lone current rest alone ih =>
      obtain rfl : rest = [] := by
        cases rest with
        | nil => rfl
        | cons c rest =>
            refine absurd (.here ?_) paired
            rintro rfl
            exact alone rest rfl
      have plain' : ∀ c ∈ current.reverse, isBreak c = false := fun c hc =>
        plain c (List.mem_reverse.mp hc)
      have last := (sourceLinesFrom_marked full bare plain').2
      rw [linesFrom_other _ _ (by decide), linesFrom_nil _ (List.cons_ne_nil _ _),
        sourceLinesFrom_return _ alone, List.flatMap_singleton, List.reverse_cons, last]
      rfl
  | feed current rest ih =>
      have later := ih (fun h => paired (.there h)) (fun _ h => absurd h List.not_mem_nil)
      have kept : dropReturn current = current.reverse := by
        unfold dropReturn
        split
        · next rest => cases plain '\r' List.mem_cons_self
        · rfl
      rw [linesFrom_feed, sourceLinesFrom_feed, List.flatMap_cons, later, kept, read plain]
      rfl
  | other current c rest hr hn ih =>
      rw [linesFrom_other _ _ hn, sourceLinesFrom_other _ _ hr hn]
      refine ih (fun h => paired (.there h)) (List.forall_mem_cons.mpr ⟨?_, plain⟩)
      exact isBreak_eq_false_iff.mpr ⟨hr, hn⟩

end Marked

/-! ## Where they do not -/

theorem length_linesFrom_le (current current' cs : List Char)
    (written : cs = [] → current' = [] → current = []) :
    (linesFrom current cs).length ≤ (sourceLinesFrom current' cs).length ∧
      (LoneReturn cs → (linesFrom current cs).length < (sourceLinesFrom current' cs).length) := by
  induction current', cs using sourceLines_induction generalizing current with
  | done =>
      obtain rfl := written rfl rfl
      exact ⟨Nat.zero_le _, fun h => absurd h not_returnBefore_nil⟩
  | unended current' full =>
      refine ⟨?_, fun h => absurd h not_returnBefore_nil⟩
      rw [sourceLinesFrom_nil _ full, linesFrom]
      split <;> simp
  | both current' rest ih =>
      obtain ⟨le, lt⟩ := ih [] fun _ _ => rfl
      rw [linesFrom_other _ _ (by decide), linesFrom_feed, sourceLinesFrom_both]
      refine ⟨Nat.succ_le_succ le, fun lone => Nat.succ_lt_succ (lt ?_)⟩
      cases lone with
      | here h => exact absurd rfl h
      | there lone => exact lone.tail (by decide)
  | lone current' rest alone ih =>
      rw [linesFrom_other _ _ (by decide), sourceLinesFrom_return _ alone]
      cases rest with
      | nil =>
          refine ⟨?_, fun lone => ?_⟩
          · rw [linesFrom_nil _ (List.cons_ne_nil _ _)]
            exact Nat.le_refl 1
          · cases lone with
            | there lone => exact absurd lone not_returnBefore_nil
      | cons c rest =>
          obtain ⟨le, -⟩ := ih ('\r' :: current) fun none => by cases none
          exact ⟨Nat.le_succ_of_le le, fun _ => Nat.lt_succ_of_le le⟩
  | feed current' rest ih =>
      obtain ⟨le, lt⟩ := ih [] fun _ _ => rfl
      rw [linesFrom_feed, sourceLinesFrom_feed]
      exact ⟨Nat.succ_le_succ le, fun lone => Nat.succ_lt_succ (lt (lone.tail (by decide)))⟩
  | other current' c rest hr hn ih =>
      obtain ⟨le, lt⟩ := ih (c :: current) fun _ h => by cases h
      rw [linesFrom_other _ _ hn, sourceLinesFrom_other _ _ hr hn]
      exact ⟨le, fun lone => lt (lone.tail hr)⟩

theorem flatten_sourceLinesFrom (current cs : List Char) :
    (sourceLinesFrom current cs).flatten = current.reverse ++ cs.filter (!isBreak ·) := by
  induction current, cs using sourceLines_induction with
  | done =>
      rfl
  | unended current full =>
      rw [sourceLinesFrom_nil _ full, List.flatten_singleton]
      exact (List.append_nil _).symm
  | both current rest ih =>
      rw [sourceLinesFrom_both, List.flatten_cons, ih]
      rfl
  | lone current rest alone ih =>
      rw [sourceLinesFrom_return _ alone, List.flatten_cons, ih]
      rfl
  | feed current rest ih =>
      rw [sourceLinesFrom_feed, List.flatten_cons, ih]
      rfl
  | other current c rest hr hn ih =>
      have text : isBreak c = false := isBreak_eq_false_iff.mpr ⟨hr, hn⟩
      rw [sourceLinesFrom_other _ _ hr hn, ih, List.reverse_cons, List.append_assoc,
        List.filter_cons_of_pos (by simp [text])]
      rfl

theorem filter_flatten_linesFrom (current cs : List Char) :
    (linesFrom current cs).flatten.filter (!isBreak ·) =
      (current.reverse ++ cs).filter (!isBreak ·) := by
  induction current, cs using lines_induction with
  | done =>
      rfl
  | unended current full =>
      rw [linesFrom_nil _ full, List.flatten_singleton,
        List.append_nil]
  | feed current rest ih =>
      have kept : (dropReturn current).filter (!isBreak ·) =
          current.reverse.filter (!isBreak ·) := by
        unfold dropReturn
        split
        · next rest =>
          rw [List.reverse_cons, List.filter_append]
          exact (List.append_nil _).symm
        · rfl
      rw [linesFrom_feed, List.flatten_cons, List.filter_append, ih, kept]
      exact (List.filter_append current.reverse ('\n' :: rest)).symm
  | other current c rest hn ih =>
      rw [linesFrom_other _ _ hn, ih, List.reverse_cons, List.append_assoc, List.singleton_append]

theorem length_flatten_map (mark : List Char) (lines : List (List Char)) :
    (lines.map (mark ++ ·)).flatten.length = lines.length * mark.length + lines.flatten.length := by
  induction lines with
  | nil => simp
  | cons l rest ih =>
      rw [List.map_cons, List.flatten_cons, List.length_append, List.length_append, ih,
        List.length_cons, List.flatten_cons, List.length_append, Nat.succ_mul]
      omega

section Mark
variable {mark : List Char} (bare : ∀ c ∈ mark, isBreak c = false)
include bare

theorem filter_joined (lines : List (List Char)) :
    (joined mark lines).filter (!isBreak ·) =
      ((lines.map (List.filter (!isBreak ·))).map (mark ++ ·)).flatten := by
  have kept : mark.filter (!isBreak ·) = mark :=
    List.filter_eq_self.mpr fun c hc => by rw [bare c hc]; rfl
  induction lines with
  | nil => rfl
  | cons first rest ih =>
      cases rest with
      | nil =>
          rw [joined_singleton, List.filter_append, kept]
          exact (List.append_nil _).symm
      | cons next rest =>
          rw [joined_cons_cons, List.filter_append, List.filter_append, kept,
            List.filter_cons_of_neg (by decide), ih]
          rfl

variable (full : mark ≠ []) (cs : List Char)
include full

/-- **The program is read in the marked lines of the text** just when no carriage
return stands alone. -/
theorem joined_faithful_iff :
    sourceLinesFrom [] (joined mark (linesFrom [] cs)) = (sourceLinesFrom [] cs).map (mark ++ ·) ↔
      ¬ LoneReturn cs := by
  constructor
  · intro same lone
    -- Both sides have the characters of the text; what is left are the marks.
    have marks := congrArg (fun lines => lines.flatten.length) same
    simp only [flatten_sourceLinesFrom, filter_joined bare, length_flatten_map, List.length_map,
      ← List.filter_flatten, filter_flatten_linesFrom, List.reverse_nil, List.nil_append] at marks
    have many := (length_linesFrom_le [] [] cs fun _ _ => rfl).2 lone
    have fewer := Nat.mul_lt_mul_of_pos_right many (List.length_pos_iff.mpr full)
    omega
  · intro paired
    rw [sourceLinesFrom_joined full bare (newline_not_mem_of_mem_linesFrom List.not_mem_nil)]
    exact flatMap_marked full bare paired fun _ h => absurd h List.not_mem_nil

/-- **All lines of the program begin with the mark** just when it stands behind every
carriage return in a line of the text already. -/
theorem joined_marked_iff {m : Char} (begins : mark.head? = some m) :
    (∀ line ∈ sourceLinesFrom [] (joined mark (linesFrom [] cs)), line.head? = some m) ↔
      ∀ l ∈ linesFrom [] cs, ¬ ReturnBefore (· ≠ m) l := by
  have unbroken : ∀ l ∈ linesFrom [] cs, '\n' ∉ l :=
    newline_not_mem_of_mem_linesFrom List.not_mem_nil
  have text : isBreak m = false := bare m (List.mem_of_mem_head? begins)
  have marked (l : List Char) : (mark.reverse ++ []).reverse ++ l = mark ++ l := by
    rw [List.append_nil, List.reverse_reverse]
  rw [sourceLinesFrom_joined full bare unbroken, List.forall_mem_flatMap]
  refine forall₂_congr fun l hl => ?_
  rw [sourceLinesFrom_plain bare, head_sourceLinesFrom_iff text (unbroken l hl), marked]
  refine and_iff_right (Or.inr ?_)
  rw [List.head?_append, begins]
  rfl

end Mark

/-! ## Lines of texts -/

theorem toList_sourceLines (s : String) :
    (sourceLines s).map String.toList = sourceLinesFrom [] s.toList := by
  rw [sourceLines, List.map_map]
  exact List.map_id'' (fun _ => String.toList_ofList) _

theorem toList_lines (s : String) : (lines s).map String.toList = linesFrom [] s.toList := by
  rw [lines, List.map_map]
  exact List.map_id'' (fun _ => String.toList_ofList) _

theorem linesFrom_ne_nil {current cs : List Char} (h : cs = [] → current ≠ []) :
    linesFrom current cs ≠ [] := by
  induction current, cs using lines_induction with
  | done => exact absurd rfl (h rfl)
  | unended current full =>
      rw [linesFrom_nil _ full]
      exact List.cons_ne_nil _ _
  | feed current rest ih =>
      rw [linesFrom_feed]
      exact List.cons_ne_nil _ _
  | other current c rest hn ih =>
      rw [linesFrom_other _ _ hn]
      exact ih fun _ => List.cons_ne_nil _ _

end PipelineScript.Text
