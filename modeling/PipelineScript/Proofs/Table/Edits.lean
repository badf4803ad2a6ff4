/-
# What can be done to a table

A `TableEdit` is one of the things that a user, or an answer of the schema
backend, can do to a table; three of them are for mapping tables only.
`perform` carries it out.

What an edit makes of the table (`applied`) has nothing to do with the sink.  And
it does one of two things with the sink (`perform_cases`): it writes the rows that
there are now and answers, if they are taken, something else than that there is
no such row; or it leaves the sink alone, and the rows as well.
-/
import PipelineScript.Table.Editable

namespace PipelineScript

/-- The two kinds of tables. -/
inductive TableKind where
  | environment
  | mappings
deriving DecidableEq

/-- The rows of a table of this kind. -/
abbrev TableKind.RowType : TableKind → Type
  | environment => VariableRow
  | mappings => MappingRow

instance : (kind : TableKind) → Row kind.RowType
  | .environment => inferInstanceAs (Row VariableRow)
  | .mappings => inferInstanceAs (Row MappingRow)

/-- One edit of a table, with everything it is given. -/
inductive TableEdit : TableKind → Type where
  | add {kind : TableKind} : TableEdit kind
  | update {kind : TableKind} (key : String) (patch : Row.Patch kind.RowType) : TableEdit kind
  | delete {kind : TableKind} (key : String) : TableEdit kind
  | beginEdit {kind : TableKind} (key : String) : TableEdit kind
  | sync {kind : TableKind} : TableEdit kind
  | pending {kind : TableKind} : TableEdit kind
  | failure {kind : TableKind} (cause : SchemaError) : TableEdit kind
  | choices {kind : TableKind} (columns : List Column) : TableEdit kind
  | receiveChoices {kind : TableKind} (outcome : Except SchemaError Finding) : TableEdit kind
  | select (key value : String) : TableEdit .mappings
  | schema (columns : List Column) : TableEdit .mappings
  | receiveSchema (outcome : Except SchemaError Finding) : TableEdit .mappings

namespace TableEdit

/-- What an edit answers. -/
inductive Answer where
  /-- The key of a new row. -/
  | key (key : String)
  /-- Is there such a row, and such a choice? -/
  | found (found : Bool)
  /-- Has the outcome of a question been applied? -/
  | applied (applied : Bool)
  | done
deriving DecidableEq

/-- The edits that write the rows, if they find what they are given. -/
def Commits {kind : TableKind} : TableEdit kind → Prop
  | add | update .. | delete .. | sync | select .. | schema .. => True
  | receiveSchema (.ok (.current _)) => True
  | _ => False

end TableEdit

/-- The same outcome with another answer. -/
def Edited.map {ρ σ α β : Type} (f : α → β) (e : Edited ρ σ α) : Edited ρ σ β :=
  ⟨e.table, e.sink, e.result.map f⟩

namespace Table

open TableEdit (Answer)

variable {ρ σ α β : Type} [Row ρ] {kind : TableKind}

/-- Carries out an edit. -/
def perform (sink : Sink σ) : {kind : TableKind} → (t : Table kind.RowType) → (s : σ) →
    TableEdit kind → Edited kind.RowType σ Answer
  | _, t, s, .add => (t.addRow sink s).map .key
  | _, t, s, .update key patch => (t.updateRow sink s key patch).map .found
  | _, t, s, .delete key => (t.deleteRow sink s key).map .found
  | _, t, s, .beginEdit key => ⟨(t.beginEdit key).2, s, .ok (.found (t.beginEdit key).1)⟩
  | _, t, s, .sync => t.commit sink s .done
  | _, t, s, .pending => ⟨t.markPending, s, .ok .done⟩
  | _, t, s, .failure cause => ⟨t.recordFailure cause, s, .ok .done⟩
  | _, t, s, .choices columns => ⟨t.applyChoices columns, s, .ok .done⟩
  | _, t, s, .receiveChoices outcome =>
    ⟨(t.receiveChoices outcome).2, s, .ok (.applied (t.receiveChoices outcome).1)⟩
  | _, t, s, .select key value => (t.selectInput sink s key value).map .found
  | _, t, s, .schema columns => (t.applySchema sink s columns).map fun _ => .done
  | _, t, s, .receiveSchema outcome => (t.receiveSchema sink s outcome).map .applied

/-! ## Committing -/

section Commit
variable (t : Table ρ) (sink : Sink σ) (s : σ) (a : α)

@[simp] theorem commit_table : (t.commit sink s a).table = t := by
  unfold commit
  split <;> rfl

theorem commit_eq :
    t.commit sink s a =
      match (sink.write t.node t.field t.value).run s with
      | .ok _ s' => ⟨t, s', .ok a⟩
      | .error e s' => ⟨t, s', .error (.graph e)⟩ := by
  rw [commit, sync, EStateM.run_adaptExcept]
  cases (sink.write t.node t.field t.value).run s <;> rfl

theorem commit_map (f : α → β) : (t.commit sink s a).map f = t.commit sink s (f a) := by
  rw [commit_eq, commit_eq]
  cases (sink.write t.node t.field t.value).run s <;> rfl

end Commit

/-! ## What an edit makes of the table -/

/-- The table after a new row. -/
def withRow (t : Table ρ) : Table ρ :=
  { t with
    entries := t.entries ++
      [{ row := Row.blank (Text.ordinalText t.freshOrdinal.1) t.freshOrdinal.1 }]
    nextOrdinal := t.freshOrdinal.1 + 1 }

/-- The table after an update of the row of a key. -/
def withUpdate (t : Table ρ) (key : String) (patch : Row.Patch ρ) : Table ρ :=
  { t with entries := updateFirst key (fun e => ⟨Row.apply e.row patch, .committed⟩) t.entries }

/-- The table after the row of a key is gone. -/
def without (t : Table ρ) (key : String) : Table ρ :=
  { t with entries := t.entries.eraseP fun e => Row.key e.row == key }

/-- The table after its rows have been rebuilt from the columns of a target. -/
def withSchema (t : Table MappingRow) (columns : List Column) : Table MappingRow :=
  let matched := matchColumns t.entries columns
  let rebuilt := withKeys (keptKeys matched) t.nextOrdinal matched
  { t with entries := rebuilt.1, nextOrdinal := rebuilt.2, status := .idle }

/-- The table after an edit. -/
def applied : {kind : TableKind} → Table kind.RowType → TableEdit kind → Table kind.RowType
  | _, t, .add => t.withRow
  | _, t, .update key patch => t.withUpdate key patch
  | _, t, .delete key => t.without key
  | _, t, .beginEdit key => (t.beginEdit key).2
  | _, t, .sync => t
  | _, t, .pending => t.markPending
  | _, t, .failure cause => t.recordFailure cause
  | _, t, .choices columns => t.applyChoices columns
  | _, t, .receiveChoices outcome => (t.receiveChoices outcome).2
  | _, t, .select key value =>
    match t.choices.find? (·.value == value) with
    | none => t
    | some c => t.withUpdate key ({ input := some (some c) } : MappingRow.Patch)
  | _, t, .schema columns => t.withSchema columns
  | _, t, .receiveSchema (.ok (.current columns)) => t.withSchema columns
  | _, t, .receiveSchema (.ok .superseded) => t
  | _, t, .receiveSchema (.error cause) => t.recordFailure cause

section Select
variable {t : Table TableKind.mappings.RowType} {value : String} (key : String)

theorem applied_select_none (h : t.choices.find? (·.value == value) = none) :
    t.applied (.select key value) = t := by
  simp only [applied, h]

theorem applied_select_some {c : Column} (h : t.choices.find? (·.value == value) = some c) :
    t.applied (.select key value) =
      t.withUpdate key ({ input := some (some c) } : MappingRow.Patch) := by
  simp only [applied, h]

end Select

/-- A table stays over its field. -/
theorem applied_place (t : Table kind.RowType) (e : TableEdit kind) :
    (t.applied e).node = t.node ∧ (t.applied e).field = t.field := by
  cases e with
  | add | update | delete | sync | pending | failure | choices | schema => exact ⟨rfl, rfl⟩
  | beginEdit key => by_cases h : t.hasKey key <;> simp [applied, beginEdit, h]
  | receiveChoices outcome => obtain cause | columns | _ := outcome <;> exact ⟨rfl, rfl⟩
  | select key value =>
      cases h : t.choices.find? (·.value == value) with
      | none => rw [applied_select_none key h]; exact ⟨rfl, rfl⟩
      | some c => rw [applied_select_some key h]; exact ⟨rfl, rfl⟩
  | receiveSchema outcome => obtain cause | columns | _ := outcome <;> exact ⟨rfl, rfl⟩

/-- A change of an entry keeps what it keeps of every entry. -/
theorem map_updateFirst {key : String} {f : TableEntry ρ → TableEntry ρ} {g : TableEntry ρ → α}
    (keeps : ∀ e, g (f e) = g e) : ∀ es : List (TableEntry ρ),
    (updateFirst key f es).map g = es.map g
  | [] => rfl
  | e :: es => by
      by_cases h : Row.key e.row == key
      · simp [updateFirst, h, keeps]
      · simp [updateFirst, h, map_updateFirst keeps es]

theorem updateFirst_of_forall_not {key : String} (f : TableEntry ρ → TableEntry ρ) :
    ∀ {es : List (TableEntry ρ)}, (∀ e ∈ es, ¬ (Row.key e.row == key) = true) →
      updateFirst key f es = es
  | [], _ => rfl
  | e :: es, other => by
      obtain ⟨he, other⟩ := List.forall_mem_cons.mp other
      rw [updateFirst, if_neg he, updateFirst_of_forall_not f other]

theorem beginEdit_rows (t : Table ρ) (key : String) : (t.beginEdit key).2.rows = t.rows := by
  by_cases h : t.hasKey key
  · rw [beginEdit, if_pos h]
    exact map_updateFirst (f := fun e => { e with state := .editing }) (fun _ => rfl) t.entries
  · rw [beginEdit, if_neg h]

section Missing
variable {t : Table ρ} {key : String} (missing : ¬ t.hasKey key = true)
include missing

theorem key_ne_of_missing : ∀ e ∈ t.entries, ¬ (Row.key e.row == key) = true := by
  have none : t.entry? key = none := by simpa [hasKey] using missing
  exact List.find?_eq_none.mp none

theorem withUpdate_of_missing (patch : Row.Patch ρ) : t.withUpdate key patch = t := by
  rw [withUpdate, updateFirst_of_forall_not _ (key_ne_of_missing missing)]

theorem without_of_missing : t.without key = t := by
  rw [without, List.eraseP_of_forall_not (key_ne_of_missing missing)]

end Missing

/-! ## What an edit does to the sink -/

theorem applySchema_eq (t : Table MappingRow) (sink : Sink σ) (s : σ) (columns : List Column) :
    t.applySchema sink s columns = (t.withSchema columns).commit sink s () :=
  rfl

theorem receiveSchema_eq (t : Table MappingRow) (sink : Sink σ) (s : σ) (columns : List Column) :
    t.receiveSchema sink s (.ok (.current columns)) =
      (t.withSchema columns).commit sink s true := by
  show (t.applySchema sink s columns).map (fun _ => true) = _
  rw [applySchema_eq, commit_map]

theorem updateRow_eq (t : Table ρ) (sink : Sink σ) (s : σ) (key : String) (patch : Row.Patch ρ) :
    t.updateRow sink s key patch =
      if t.hasKey key then (t.withUpdate key patch).commit sink s true else ⟨t, s, .ok false⟩ :=
  rfl

theorem deleteRow_eq (t : Table ρ) (sink : Sink σ) (s : σ) (key : String) :
    t.deleteRow sink s key =
      if t.hasKey key then (t.without key).commit sink s true else ⟨t, s, .ok false⟩ :=
  rfl

/-- The rows that the edit makes are written, and this is answered if the sink
takes them. -/
def Writes (t : Table kind.RowType) (e : TableEdit kind) (answer : Answer) : Prop :=
  answer ≠ .found false ∧
    ∀ (σ : Type) (sink : Sink σ) (s : σ), t.perform sink s e = (t.applied e).commit sink s answer

/-- Nothing is written, and this is answered. -/
def Spares (t : Table kind.RowType) (e : TableEdit kind) (answer : Answer) : Prop :=
  (t.applied e).rows = t.rows ∧ (answer = .found false → t.applied e = t) ∧
    ∀ (σ : Type) (sink : Sink σ) (s : σ), t.perform sink s e = ⟨t.applied e, s, .ok answer⟩

theorem spares_unfound {t : Table kind.RowType} {e : TableEdit kind} (same : t.applied e = t)
    (h : ∀ (σ : Type) (sink : Sink σ) (s : σ), t.perform sink s e = ⟨t, s, .ok (.found false)⟩) :
    Spares t e (.found false) :=
  ⟨by rw [same], fun _ => same, by rwa [same]⟩

theorem updateRow_cases (t : Table kind.RowType) {e : TableEdit kind} {key : String}
    {patch : Row.Patch kind.RowType} (table : t.applied e = t.withUpdate key patch)
    (run : ∀ (σ : Type) (sink : Sink σ) (s : σ),
      t.perform sink s e = (t.updateRow sink s key patch).map .found) :
    Writes t e (.found true) ∨ Spares t e (.found false) := by
  by_cases h : t.hasKey key = true
  · refine Or.inl ⟨by decide, fun σ sink s => ?_⟩
    rw [run, updateRow_eq, if_pos h, table, commit_map]
  · refine Or.inr (spares_unfound (table.trans (withUpdate_of_missing h patch)) fun σ sink s => ?_)
    rw [run, updateRow_eq, if_neg h]
    rfl

/-- An edit that commits writes the rows, or does not find what it is given;
other edits leave the rows and the sink as they are. -/
theorem perform_cases (t : Table kind.RowType) (e : TableEdit kind) :
    (e.Commits ∧ ∃ answer, Writes t e answer) ∨
      ∃ answer, Spares t e answer ∧ (e.Commits → answer = .found false) := by
  have updated : e.Commits → Writes t e (.found true) ∨ Spares t e (.found false) →
      (e.Commits ∧ ∃ answer, Writes t e answer) ∨
        ∃ answer, Spares t e answer ∧ (e.Commits → answer = .found false) := by
    rintro commits (h | h)
    · exact Or.inl ⟨commits, _, h⟩
    · exact Or.inr ⟨_, h, fun _ => rfl⟩
  cases e with
  | add => exact Or.inl ⟨trivial, .key _, nofun, fun _ _ _ => commit_map ..⟩
  | update key patch => exact updated trivial (updateRow_cases t rfl fun _ _ _ => rfl)
  | delete key =>
      refine updated trivial ?_
      by_cases h : t.hasKey key = true
      · refine Or.inl ⟨by decide, fun _ sink s => ?_⟩
        rw [perform, deleteRow_eq, if_pos h]
        exact commit_map ..
      · refine Or.inr (spares_unfound (without_of_missing h) fun _ sink s => ?_)
        rw [perform, deleteRow_eq, if_neg h]
        rfl
  | beginEdit key =>
      refine Or.inr ⟨_, ⟨beginEdit_rows t key, ?_, fun _ _ _ => rfl⟩, False.elim⟩
      by_cases h : t.hasKey key <;> simp [applied, beginEdit, h]
  | sync => exact Or.inl ⟨trivial, .done, nofun, fun _ _ _ => rfl⟩
  | pending | failure | choices => exact Or.inr ⟨.done, ⟨rfl, nofun, fun _ _ _ => rfl⟩, False.elim⟩
  | receiveChoices outcome =>
      refine Or.inr ⟨.applied (t.receiveChoices outcome).1, ⟨?_, nofun, fun _ _ _ => rfl⟩, False.elim⟩
      obtain cause | columns | _ := outcome <;> rfl
  | select key value =>
      cases h : t.choices.find? (·.value == value) with
      | none =>
          have same := applied_select_none key h
          refine updated trivial (Or.inr (spares_unfound same fun _ sink s => ?_))
          simp only [perform, selectInput, h]
          rfl
      | some c =>
          refine updated trivial
            (updateRow_cases t (applied_select_some key h) fun _ sink s => ?_)
          simp only [perform, selectInput, h]
  | schema columns => exact Or.inl ⟨trivial, .done, nofun, fun _ _ _ => commit_map ..⟩
  | receiveSchema outcome =>
      obtain cause | columns | _ := outcome
      · exact Or.inr ⟨.applied false, ⟨rfl, nofun, fun _ _ _ => rfl⟩, False.elim⟩
      · refine Or.inl ⟨trivial, .applied true, nofun, fun _ sink s => ?_⟩
        show (t.receiveSchema sink s (.ok (.current columns))).map Answer.applied = _
        rw [receiveSchema_eq, commit_map]
        rfl
      · exact Or.inr ⟨.applied false, ⟨rfl, nofun, fun _ _ _ => rfl⟩, False.elim⟩

/-- What becomes of the table does not depend on the sink. -/
theorem perform_table (sink : Sink σ) (s : σ) (t : Table kind.RowType) (e : TableEdit kind) :
    (t.perform sink s e).table = t.applied e := by
  rcases perform_cases t e with ⟨-, answer, -, run⟩ | ⟨answer, ⟨-, -, run⟩, -⟩
  · rw [run, commit_table]
  · rw [run]

end Table

end PipelineScript
