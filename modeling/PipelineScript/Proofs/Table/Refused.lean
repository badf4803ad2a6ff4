/-
# Edits that the sink refuses

An edit changes the table first and writes the rows then.  If the sink refuses
them there is an error, but nothing takes the change back: what an edit makes of a
table has nothing to do with the sink (`perform_table`).

So a table has gone through all of its edits, refused or not (`series_eq`).  What
was refused is written with the next edit that is taken, and a mere `sync` makes up
for it (`refused_edit_kept`).  Whoever was told that a row could not be written may
find it in a configuration later on (`refused_edits_stay`).
-/
import PipelineScript.Proofs.Table.Edits

namespace PipelineScript.Table

open TableEdit (Answer)

variable {σ : Type} {kind : TableKind}

theorem commit_applied {α : Type} (t : Table kind.RowType) (e : TableEdit kind) (sink : Sink σ)
    (s : σ) (answer : α) :
    (t.applied e).commit sink s answer =
      match (sink.write t.node t.field (t.applied e).value).run s with
      | .ok _ s' => ⟨t.applied e, s', .ok answer⟩
      | .error g s' => ⟨t.applied e, s', .error (.graph g)⟩ := by
  obtain ⟨node, field⟩ := applied_place t e
  cases hw : (sink.write t.node t.field (t.applied e).value).run s <;>
    simp only [commit_eq, node, field, hw]

/-- An edit that finds what it is given, and that is answered, has been written. -/
theorem written_of_perform_ok {sink : Sink σ} {s : σ} {t : Table kind.RowType}
    {e : TableEdit kind} {answer : Answer} (h : (t.perform sink s e).result = .ok answer)
    (commits : e.Commits) (found : answer ≠ .found false) :
    (sink.write t.node t.field (t.applied e).value).run s =
      .ok () (t.perform sink s e).sink := by
  rcases perform_cases t e with ⟨-, answer', -, run⟩ | ⟨answer', ⟨-, -, run⟩, unfound⟩
  · rw [run, commit_applied] at h
    rw [run, commit_applied]
    cases hw : (sink.write t.node t.field (t.applied e).value).run s with
    | ok _ s' => rfl
    | error g s' => simp [hw] at h
  · rw [run] at h
    cases h
    exact absurd (unfound commits) found

/-! ## Edits one after the other -/

/-- The table after several edits, each with the state that the sink has come to. -/
def series (sink : Sink σ) (t : Table kind.RowType) (es : List (TableEdit kind × σ)) :
    Table kind.RowType :=
  es.foldl (fun t e => (t.perform sink e.2 e.1).table) t

/-- A table has gone through all of its edits, refused or not. -/
theorem series_eq (sink : Sink σ) (t : Table kind.RowType) (es : List (TableEdit kind × σ)) :
    t.series sink es = (es.map Prod.fst).foldl applied t := by
  induction es generalizing t with
  | nil => rfl
  | cons e es ih =>
      rw [List.map_cons, List.foldl_cons, ← perform_table sink e.2, ← ih]
      rfl

theorem foldl_applied_place (es : List (TableEdit kind)) : ∀ t : Table kind.RowType,
    (es.foldl applied t).node = t.node ∧ (es.foldl applied t).field = t.field := by
  induction es with
  | nil => exact fun t => ⟨rfl, rfl⟩
  | cons e es ih =>
      intro t
      obtain ⟨node, field⟩ := ih (t.applied e)
      obtain ⟨node', field'⟩ := applied_place t e
      exact ⟨node.trans node', field.trans field'⟩

/-- What becomes of an edit that the sink refuses. -/
structure Kept (sink : Sink σ) (s : σ) (t : Table kind.RowType) (e : TableEdit kind)
    (cause : TableError) : Prop where
  /-- It is the write of the changed rows that was refused; the sink is as the
  refusal has left it. -/
  refused : ∃ g, cause = .graph g ∧
    (sink.write t.node t.field (t.applied e).value).run s =
      .error g (t.perform sink s e).sink
  /-- The table is the one that a sink which takes the rows would leave. -/
  table : (t.perform sink s e).table = t.applied e ∧
    ∀ (τ : Type) (other : Sink τ) (u : τ), (t.perform other u e).table = t.applied e
  /-- Whatever is done next, an edit that is taken writes this one as well. -/
  later : ∀ es s' e' answer,
    (((t.perform sink s e).table.series sink es).perform sink s' e').result = .ok answer →
      e'.Commits → answer ≠ .found false →
      (sink.write t.node t.field ((e :: es.map Prod.fst ++ [e']).foldl applied t).value).run s' =
        .ok () (((t.perform sink s e).table.series sink es).perform sink s' e').sink
  /-- To write the rows again does as much as the edit would have done. -/
  retried : ∀ s' s'',
    (sink.write t.node t.field (t.applied e).value).run s' = .ok () s'' →
      (t.perform sink s e).table.perform sink s' .sync = ⟨t.applied e, s'', .ok .done⟩ ∧
        ∃ answer, t.perform sink s' e = ⟨t.applied e, s'', .ok answer⟩

/-- **A refused edit stays in the table.**  If an edit fails, the sink has refused
its rows; the table is changed as if they had been taken, and they are written with
the next edit or `sync` that is. -/
theorem refused_edit_kept (sink : Sink σ) (s : σ) (t : Table kind.RowType) (e : TableEdit kind)
    (cause : TableError) (h : (t.perform sink s e).result = .error cause) :
    Kept sink s t e cause := by
  rcases perform_cases t e with ⟨-, answer, -, run⟩ | ⟨answer, ⟨-, -, run⟩, -⟩
  · refine ⟨?_, ⟨perform_table sink s t e, fun τ other u => perform_table other u t e⟩, ?_, ?_⟩
    · rw [run, commit_applied] at h ⊢
      cases hw : (sink.write t.node t.field (t.applied e).value).run s with
      | ok _ s' =>
          rw [hw] at h
          cases h
      | error g s' =>
          rw [hw] at h
          cases h
          exact ⟨g, rfl, rfl⟩
    · intro es s' e' answer' hok commits found
      have written := written_of_perform_ok hok commits found
      obtain ⟨node, field⟩ := applied_place t e
      obtain ⟨node', field'⟩ := foldl_applied_place (es.map Prod.fst) (t.applied e)
      rw [series_eq, perform_table, node', field', node, field] at written
      rw [List.cons_append, List.foldl_cons, List.foldl_append, List.foldl_cons, List.foldl_nil,
        series_eq, perform_table]
      exact written
    · intro s' s'' hw
      have committed : ∀ a : Answer, (t.applied e).commit sink s' a = ⟨t.applied e, s'', .ok a⟩ := by
        intro a
        rw [commit_applied, hw]
      rw [perform_table]
      exact ⟨committed .done, answer, (run _ sink s').trans (committed answer)⟩
  · rw [run] at h
    cases h

/-! A mapping table over a node that was taken out of the graph. -/

def orphaned : Table TableKind.mappings.RowType where
  node := "m"
  field := "mapping"
  entries := [{ row := (⟨"0", none, "total", "float64"⟩ : MappingRow) }]
  nextOrdinal := 1
  choices := [⟨"amount", "amount", "float64", true⟩]

theorem refused_edit_kept_orphaned :
    (orphaned.perform Graph.sink {} .add).result = .error (.graph (.missingNode "m")) ∧
      Kept Graph.sink {} orphaned .add (.graph (.missingNode "m")) := by
  have failed : (orphaned.perform Graph.sink {} .add).result =
      .error (.graph (.missingNode "m")) := by rfl
  exact ⟨failed, refused_edit_kept Graph.sink {} orphaned .add _ failed⟩

/-- A graph that has the node. -/
def adopting : Graph where
  nodes := [⟨"m", "columnMapping", .obj [("mapping", .arr [])], ["in"], ["out"]⟩]

/-- No edit is taken back when it is refused, and a row that was refused comes into the
graph with the next one. -/
theorem refused_edits_stay :
    (∀ e ∈ [.add, .update "0" ({ outputName := some "sum" } : MappingRow.Patch), .delete "0",
        .select "0" "amount", .schema []],
      (orphaned.perform Graph.sink {} e).result = .error (.graph (.missingNode "m")) ∧
        (orphaned.perform Graph.sink {} e).table.entries ≠ orphaned.entries) ∧
      ((orphaned.perform Graph.sink {} .add).table.perform Graph.sink adopting
          (.delete "0")).sink.nodes.map (·.config) =
        [.obj [("mapping", .arr [.obj [("input", .null), ("key", .str "1"), ("type", .str ""),
          ("value", .str "column_1")]])]] := by
  refine ⟨?_, by rfl⟩
  simp only [List.forall_mem_cons, List.not_mem_nil, false_implies, implies_true, and_true]
  exact ⟨⟨rfl, by decide⟩, ⟨rfl, by decide⟩, ⟨rfl, by decide⟩, ⟨rfl, by decide⟩,
    ⟨rfl, by decide⟩⟩

end PipelineScript.Table
