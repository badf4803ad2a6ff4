/-
# Rows that are written are read back

Rows are written into a configuration under one set of names and read under
several, with defaults, by the table itself and by the components.  What a table
writes all of them read back as it was.

A component reads its whole configuration.  Of an SQL table other fields may be
at fault; the rows never are (`readConfig_sql`).
-/
import PipelineScript.Catalog.Frames
import PipelineScript.Catalog.Sql
import PipelineScript.Catalog.Variables
import PipelineScript.Proofs.Json.Fields
import PipelineScript.Proofs.Table.Edits

namespace PipelineScript

open Json Catalog

/-! ## Rows -/

theorem decode_encode {kind : TableKind} (r : kind.RowType) (s : Standing) :
    Row.decode s (Row.encode r) = .ok r := by
  cases kind with
  | environment => rfl
  | mappings =>
      obtain ⟨key, input, outputName, outputType⟩ := r
      cases input <;> rfl

theorem items_map {α : Type} {d : Decoder α} {encode : α → Json} {s : Standing}
    (h : ∀ a, d s (encode a) = .ok a) : ∀ as, Decoder.items d s (as.map encode) = .ok as
  | [] => rfl
  | a :: as => by
      simp only [List.map_cons, Decoder.items, h, items_map h as]
      rfl

theorem decodeRows_encodeRows {kind : TableKind} (rows : List kind.RowType) (s : Standing) :
    decodeRows s (encodeRows rows) = .ok rows :=
  items_map (fun r => decode_encode r s) rows

/-! ## Configurations -/

theorem exists_of_seq_eq_ok {α β : Type} {f : Reading (α → β)} {r : Reading α} {b : β}
    (h : f <*> r = .ok b) : ∃ g a, f = .ok g ∧ r = .ok a ∧ g a = b := by
  cases f with
  | ok g =>
      cases r with
      | ok a => exact ⟨g, a, rfl, rfl, Reading.ok.inj h⟩
      | fault i m => cases h
  | fault i m =>
      cases r with
      | ok a => cases h
      | fault j m' =>
          have h : (if j < i then .fault j m' else .fault i m) = Reading.ok b := h
          split at h <;> cases h

/-- The rows can be exchanged after the other fields have been read. -/
theorem sql_exchange (connection : Reading Connection) (tableName ifExists : Reading String)
    (rows : List MappingRow) :
    (SqlConfig.mk <$> connection <*> tableName <*> ifExists <*> .ok rows).toExcept =
      (SqlConfig.mk <$> connection <*> tableName <*> ifExists <*> .ok []).toExcept.map
        fun c => { c with mapping := rows } := by
  generalize h : SqlConfig.mk <$> connection <*> tableName <*> ifExists = reading
  cases reading with
  | fault place cause => rfl
  | ok config =>
      obtain ⟨_, _, h₂, -, rfl⟩ := exists_of_seq_eq_ok h
      obtain ⟨_, _, h₁, -, rfl⟩ := exists_of_seq_eq_ok h₂
      obtain ⟨_, _, h₀, -, rfl⟩ := exists_of_seq_eq_ok (f := .ok SqlConfig.mk) h₁
      cases h₀
      rfl

section Configurations
variable {config : Json}

theorem rowsOfField_of_stored {kind : TableKind} {rows : List kind.RowType} {field : String}
    (stored : config.field? field = some (encodeRows rows)) :
    Table.rowsOfField config field = .ok rows := by
  simp only [Table.rowsOfField, stored, encodeRows]
  exact decodeRows_encodeRows rows .free

theorem readConfig_of_object {α : Type} {d : Decoder α} {field : String} {v : Json}
    (stored : config.field? field = some v) :
    readConfig d config = d .free (.obj config.entries) := by
  cases config <;> first | rfl | cases stored

theorem search_rows {kind : TableKind} {rows : List kind.RowType} {field : String}
    (position : Nat) (ordered : config.Ordered)
    (stored : config.field? field = some (encodeRows rows)) :
    (withDefault position field (.list Row.decode) []).search .free none 0 config.entries =
      .ok rows :=
  Member.search_of_get? rfl ordered (field?_eq_get? ▸ stored) (decodeRows_encodeRows rows .free) 0

theorem readConfig_variables {rows : List VariableRow} (ordered : config.Ordered)
    (stored : config.field? "variables" = some (encodeRows rows)) :
    readConfig VariablesConfig.decode config = .ok ⟨rows⟩ := by
  rw [readConfig_of_object stored]
  show Reading.toExcept (VariablesConfig.mk <$> _) = _
  exact congrArg (fun r => Reading.toExcept (VariablesConfig.mk <$> r))
    (@search_rows config .environment rows _ 0 ordered stored)

section Mapping
variable {rows : List MappingRow} (ordered : config.Ordered)
  (stored : config.field? "mapping" = some (encodeRows rows))
include ordered stored

theorem readConfig_mapping : readConfig MappingConfig.decode config = .ok ⟨rows⟩ := by
  rw [readConfig_of_object stored]
  exact congrArg (fun r => Reading.toExcept (MappingConfig.mk <$> r))
    (@search_rows config .mappings rows _ 0 ordered stored)

/-- The component of SQL tables reads the rows of a table, unless another field
is at fault, whatever the rows are. -/
theorem readConfig_sql :
    readConfig SqlConfig.decode config =
      (readConfig SqlConfig.decode (config.setField "mapping" (.arr []))).map
        fun c => { c with mapping := rows } := by
  have same : config.setField "mapping" (encodeRows rows) = .obj config.entries :=
    congrArg Json.obj (ordered.put_get? (field?_eq_get? ▸ stored))
  have found := @search_rows (config.setField "mapping" (encodeRows rows)) .mappings rows _ 3
    ordered.setField field?_setField_self
  have empty := @search_rows (config.setField "mapping" (.arr [])) .mappings [] _ 3
    ordered.setField field?_setField_self
  rw [readConfig_of_object stored, ← same]
  have others {α : Type} (m : Member α) (other : m.answersTo "mapping" = false) :
      m.search .free none 0 (config.entries.put "mapping" (encodeRows rows)) =
        m.search .free none 0 (config.entries.put "mapping" (.arr [])) :=
    m.search_put other _ _ _ _ _
  show Reading.toExcept (SqlConfig.mk <$> Member.search _ _ _ _ (Entries.put _ _ _) <*>
    Member.search _ _ _ _ (Entries.put _ _ _) <*> Member.search _ _ _ _ (Entries.put _ _ _) <*> _) =
      Except.map _ _
  rw [others _ rfl, others _ rfl, others _ rfl]
  refine (congrArg Reading.toExcept (congrArg (_ <*> ·) found)).trans ?_
  refine (sql_exchange _ _ _ rows).trans (Eq.symm ?_)
  exact congrArg (Except.map _ ∘ Reading.toExcept) (congrArg (_ <*> ·) empty)

end Mapping

end Configurations

end PipelineScript
