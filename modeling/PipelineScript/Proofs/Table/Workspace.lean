/-
# Tables over one graph

Several tables may be open over one graph, each over a field of its own, while
the graph itself is edited (`Workspace`).  Their edits do not get into each
other's way: a table touches its own field only (`fieldOnly_after`), and edits
of different tables may be carried out in either order (`after_comm`).

A table and the graph may be at odds at first: a new table writes nothing.  From
its first edit that commits on they are in step, whatever happens between
(`tables_in_step`).
-/
import Mathlib.Logic.Function.Basic
import PipelineScript.Proofs.Graph.Fields
import PipelineScript.Proofs.Table.RoundTrip

namespace PipelineScript

open Json Catalog
open TableEdit (Answer)

/-! ## A table and the graph -/

namespace Table

variable {ρ : Type} [Row ρ] {kind : TableKind} {g : Graph}

/-- The components that have such a table read these rows. -/
def Understood (config : Json) (field : String) :
    {kind : TableKind} → List kind.RowType → Prop
  | .environment, rows =>
    field = "variables" → readConfig VariablesConfig.decode config = .ok ⟨rows⟩
  | .mappings, rows =>
    field = "mapping" → readConfig MappingConfig.decode config = .ok ⟨rows⟩ ∧
      readConfig SqlConfig.decode config =
        (readConfig SqlConfig.decode (config.setField "mapping" (.arr []))).map
          fun c => { c with mapping := rows }

/-- The graph holds the rows of the table as they are. -/
structure InStep (g : Graph) (t : Table kind.RowType) : Prop where
  stored : g.stored t.node t.field = some (encodeRows t.rows)
  /-- Another table over the field has the same rows, all of them untouched. -/
  loaded : Table.load g t.node t.field = .ok
    { node := t.node, field := t.field
      entries := t.rows.map fun row => { row, state := .pristine }
      nextOrdinal := ordinalAfter (t.rows.flatMap Row.usedOrdinals) }
  understood : ∃ n, g.node? t.node = some n ∧ Understood n.config t.field t.rows

theorem inStep_of_stored (ordered : g.Ordered) {t : Table kind.RowType}
    (stored : g.stored t.node t.field = some t.value) : t.InStep g := by
  obtain ⟨n, hn, hv⟩ := Option.bind_eq_some_iff.mp stored
  have ordered : n.config.Ordered := ordered n (List.mem_of_find?_eq_some hn)
  refine ⟨stored, ?_, n, hn, ?_⟩
  · have rows : rowsOfField n.config t.field = .ok t.rows := rowsOfField_of_stored hv
    simp only [Table.load, hn, rows]
  · cases kind with
    | environment => exact fun hf => readConfig_variables ordered (hf ▸ hv)
    | mappings =>
        exact fun hf => ⟨readConfig_mapping ordered (hf ▸ hv), readConfig_sql ordered (hf ▸ hv)⟩

theorem commit_graph (t : Table ρ) (g : Graph) {α : Type} (answer : α) :
    t.commit Graph.sink g answer =
      ⟨t, g.written t.node t.field t.value,
        if g.contains t.node then .ok answer else .error (.graph (.missingNode t.node))⟩ := by
  rw [commit_eq]
  by_cases h : g.contains t.node = true
  · simp [Graph.sink, Graph.run_setConfigField, h]
  · simp [Graph.sink, Graph.run_setConfigField, h, Graph.written_of_missing h]

/-- What an edit makes of the graph that the table is over: it writes the rows, or
leaves the graph alone. -/
theorem perform_graph (t : Table kind.RowType) (e : TableEdit kind) :
    ∃ write : Graph → Graph,
      ((write = fun g => g.written t.node t.field (t.applied e).value) ∨
        write = id ∧ (t.applied e).rows = t.rows) ∧
      ∀ g, (t.perform Graph.sink g e).sink = write g := by
  obtain ⟨node, field⟩ := applied_place t e
  rcases perform_cases t e with ⟨-, answer, -, run⟩ | ⟨answer, ⟨rows, -, run⟩, -⟩
  · exact ⟨_, Or.inl rfl, fun g => by rw [run, commit_graph, node, field]⟩
  · exact ⟨_, Or.inr ⟨rfl, rows⟩, fun g => by rw [run]; rfl⟩

end Table

/-! ## Workspaces -/

/-- A graph with tables over it. -/
structure Workspace {ι : Type} (kind : ι → TableKind) where
  graph : Graph
  tables : (i : ι) → Table (kind i).RowType

/-- An edit of one of the tables, or of the graph. -/
inductive Action {ι : Type} (kind : ι → TableKind) where
  | table (i : ι) (e : TableEdit (kind i))
  | graph (e : Edit)

namespace Workspace

variable {ι : Type} {kind : ι → TableKind} {w : Workspace kind} {i j : ι}

/-- What comes of an edit of a table. -/
def outcome (w : Workspace kind) (i : ι) (e : TableEdit (kind i)) :
    Edited (kind i).RowType Graph Answer :=
  (w.tables i).perform Graph.sink w.graph e

/-- The node and the field that a table is over. -/
def place (w : Workspace kind) (i : ι) : String × String :=
  ((w.tables i).node, (w.tables i).field)

/-- The tables are over different fields. -/
def Apart (w : Workspace kind) : Prop :=
  Function.Injective w.place

/-- Edits of the graph leave the nodes and the fields of the tables alone, and
bring configurations whose fields stand in order. -/
def Proper (w : Workspace kind) : Action kind → Prop
  | .table _ _ => True
  | .graph e => (∀ i, e.Spares (w.tables i).node (w.tables i).field) ∧
      ∀ config, e.Brings config → config.Ordered

variable [DecidableEq ι]

def after (w : Workspace kind) : Action kind → Workspace kind
  | .table i e =>
    ⟨(w.outcome i e).sink, Function.update w.tables i (w.outcome i e).table⟩
  | .graph e => ⟨(w.graph.edit e).2, w.tables⟩

def afterAll (w : Workspace kind) (run : List (Action kind)) : Workspace kind :=
  run.foldl after w

/-! ### One action -/

theorem exists_after (w : Workspace kind) (i : ι) (e : TableEdit (kind i)) :
    ∃ (t' : Table (kind i).RowType) (write : Graph → Graph), (t'.node, t'.field) = w.place i ∧
      ((write = fun g => g.written (w.tables i).node (w.tables i).field t'.value) ∨
        write = id ∧ t'.rows = (w.tables i).rows) ∧
      ∀ v : Workspace kind, v.tables i = w.tables i →
        v.after (.table i e) = ⟨write v.graph, Function.update v.tables i t'⟩ := by
  obtain ⟨write, writes, h⟩ := Table.perform_graph (w.tables i) e
  obtain ⟨node, field⟩ := Table.applied_place (w.tables i) e
  refine ⟨(w.tables i).applied e, write, Prod.ext node field, writes, fun v same => ?_⟩
  rw [after, outcome, same, h v.graph, Table.perform_table]

theorem fieldOnly_after (w : Workspace kind) (i : ι) (e : TableEdit (kind i)) :
    Graph.FieldOnly w.graph (w.after (.table i e)).graph (w.tables i).node (w.tables i).field := by
  obtain ⟨t', write, -, writes, h⟩ := w.exists_after i e
  rw [h w rfl]
  rcases writes with rfl | ⟨rfl, -⟩
  · exact Graph.fieldOnly_written
  · exact Graph.fieldOnly_refl

theorem tables_after_of_ne (hne : j ≠ i) (e : TableEdit (kind i)) :
    (w.after (.table i e)).tables j = w.tables j :=
  Function.update_of_ne hne _ _

theorem place_after (a : Action kind) : (w.after a).place = w.place := by
  cases a with
  | graph e => rfl
  | table i e =>
      funext j
      obtain ⟨t', write, place, -, h⟩ := w.exists_after i e
      by_cases hji : j = i
      · subst hji
        simpa [h w rfl, Workspace.place] using place
      · rw [Workspace.place, tables_after_of_ne hji, Workspace.place]

theorem proper_after {a b : Action kind} (proper : w.Proper b) : (w.after a).Proper b := by
  cases b with
  | table j e => trivial
  | graph e =>
      refine ⟨fun i => ?_, proper.2⟩
      obtain ⟨node, field⟩ := Prod.mk.inj (congrFun (w.place_after a) i)
      rw [node, field]
      exact proper.1 i

theorem ordered_after (ordered : w.graph.Ordered) {a : Action kind} (proper : w.Proper a) :
    (w.after a).graph.Ordered := by
  cases a with
  | graph e => exact ordered.edit proper.2
  | table i e =>
      obtain ⟨t', write, -, writes, h⟩ := w.exists_after i e
      rw [h w rfl]
      rcases writes with rfl | ⟨rfl, -⟩
      · exact ordered.written
      · exact ordered

/-- The field of a table holds its rows. -/
def Stored (w : Workspace kind) (i : ι) : Prop :=
  w.graph.stored (w.tables i).node (w.tables i).field = some (w.tables i).value

/-- A table whose rows are stored stays so, whatever is done. -/
theorem Stored.after (stored : w.Stored i) (apart : w.Apart) {a : Action kind}
    (proper : w.Proper a) : (w.after a).Stored i := by
  cases a with
  | graph e => exact Graph.stored_edit (proper.1 i) stored
  | table j e =>
      obtain ⟨t', write, place, writes, h⟩ := w.exists_after j e
      by_cases hij : i = j
      · subst hij
        obtain ⟨node, field⟩ := Prod.mk.inj place
        simp only [Stored, h w rfl, Function.update_self, node, field]
        rcases writes with rfl | ⟨rfl, rows⟩
        · exact Graph.stored_written_self (Graph.contains_of_stored stored)
        · exact stored.trans (congrArg (some ∘ encodeRows) rows.symm)
      · rw [Stored, tables_after_of_ne hij, h w rfl]
        rcases writes with rfl | ⟨rfl, -⟩
        · exact (Graph.stored_written_of_ne fun h => hij (apart h)).trans stored
        · exact stored

theorem stored_of_commits {e : TableEdit (kind i)} (commits : e.Commits) {answer : Answer}
    (success : (w.outcome i e).result = .ok answer) (found : answer ≠ .found false) :
    (w.after (.table i e)).Stored i := by
  rcases Table.perform_cases (w.tables i) e with ⟨-, answer', -, run⟩ |
    ⟨answer', ⟨-, -, run⟩, unfound⟩
  · have run := run _ Graph.sink w.graph
    rw [Table.commit_graph] at run
    have contains : w.graph.contains ((w.tables i).applied e).node = true := by
      rw [outcome, run] at success
      by_contra missing
      simp [missing] at success
    simp [Stored, Workspace.after, outcome, run, Graph.stored_written_self contains]
  · rw [outcome, run] at success
    exact absurd ((Except.ok.inj success).symm.trans (unfound commits)) found

theorem after_of_unfound {e : TableEdit (kind i)}
    (h : (w.outcome i e).result = .ok (.found false)) : w.after (.table i e) = w := by
  rcases Table.perform_cases (w.tables i) e with ⟨-, answer, found, run⟩ |
    ⟨answer, ⟨-, same, run⟩, -⟩
  · rw [outcome, run, Table.commit_graph] at h
    split at h
    · exact absurd (Except.ok.inj h) found
    · cases h
  · rw [outcome, run] at h
    rw [Workspace.after, outcome, run, same (Except.ok.inj h), Function.update_eq_self]

/-- Edits of different tables may be carried out in either order. -/
theorem after_comm (apart : w.Apart) (hne : i ≠ j) (e : TableEdit (kind i))
    (d : TableEdit (kind j)) :
    (w.after (.table i e)).after (.table j d) = (w.after (.table j d)).after (.table i e) := by
  obtain ⟨t, write, -, writes, hi⟩ := w.exists_after i e
  obtain ⟨u, write', -, writes', hj⟩ := w.exists_after j d
  have graphs : write' (write w.graph) = write (write' w.graph) := by
    rcases writes with rfl | ⟨rfl, -⟩ <;> rcases writes' with rfl | ⟨rfl, -⟩
    · exact Graph.written_comm fun h => hne (apart h)
    all_goals rfl
  rw [hj _ (tables_after_of_ne hne.symm e), hi _ (tables_after_of_ne hne d), hi w rfl, hj w rfl]
  exact congrArg₂ Workspace.mk graphs (Function.update_comm hne ..)

/-! ### All actions -/

theorem apart_after (apart : w.Apart) (a : Action kind) : (w.after a).Apart := by
  rwa [Apart, place_after]

theorem place_afterAll {run : List (Action kind)} : (w.afterAll run).place = w.place := by
  induction run generalizing w with
  | nil => rfl
  | cons a run ih => exact ih.trans (w.place_after a)

theorem proper_afterAll {run : List (Action kind)} {b : Action kind} (proper : w.Proper b) :
    (w.afterAll run).Proper b := by
  induction run generalizing w with
  | nil => exact proper
  | cons a run ih => exact ih (proper_after proper)

section Run
variable {run : List (Action kind)} (proper : ∀ a ∈ run, w.Proper a)
include proper

theorem ordered_afterAll (ordered : w.graph.Ordered) : (w.afterAll run).graph.Ordered := by
  induction run generalizing w with
  | nil => exact ordered
  | cons a run ih =>
      obtain ⟨ha, hrun⟩ := List.forall_mem_cons.mp proper
      exact ih (fun b hb => proper_after (hrun b hb)) (ordered_after ordered ha)

theorem Stored.afterAll (stored : w.Stored i) (apart : w.Apart) : (w.afterAll run).Stored i := by
  induction run generalizing w with
  | nil => exact stored
  | cons a run ih =>
      obtain ⟨ha, hrun⟩ := List.forall_mem_cons.mp proper
      exact ih (fun b hb => proper_after (hrun b hb)) (stored.after apart ha) (apart_after apart a)

end Run

/-- Edits of the tables, one after the other. -/
def afterEdits (w : Workspace kind) (edits : List (Σ i, TableEdit (kind i))) : Workspace kind :=
  w.afterAll (edits.map fun d => .table d.1 d.2)

/-- An edit can be carried out before those of other tables. -/
theorem afterEdits_move (apart : w.Apart) {d : Σ i, TableEdit (kind i)}
    {before after : List (Σ i, TableEdit (kind i))} (others : ∀ c ∈ before, c.1 ≠ d.1) :
    w.afterEdits (before ++ d :: after) =
      (w.after (.table d.1 d.2)).afterEdits (before ++ after) := by
  induction before generalizing w with
  | nil => rfl
  | cons c before ih =>
      obtain ⟨hne, others⟩ := List.forall_mem_cons.mp others
      have moved := ih (apart_after apart (.table c.1 c.2)) others
      rw [after_comm apart hne] at moved
      exact moved

/-- The order in which the edits of different tables come does not matter. -/
theorem afterEdits_eq (apart : w.Apart) {edits edits' : List (Σ i, TableEdit (kind i))}
    (same : ∀ i, edits.filter (·.1 = i) = edits'.filter (·.1 = i)) :
    w.afterEdits edits = w.afterEdits edits' := by
  induction edits generalizing w edits' with
  | nil =>
      cases edits' with
      | nil => rfl
      | cons d edits' => simpa using same d.1
  | cons d edits ih =>
      -- the first edit is the first one of its table in the other list as well
      have first := (same d.1).symm
      rw [List.filter_cons_of_pos (by simp), List.filter_eq_cons_iff] at first
      obtain ⟨before, after, rfl, others, -, rest⟩ := first
      rw [afterEdits_move apart (by simpa using others)]
      refine ih (apart_after apart _) fun i => ?_
      by_cases hi : d.1 = i
      · subst hi
        rw [List.filter_append, List.filter_eq_nil_iff.mpr others, List.nil_append, rest]
      · have same := same i
        rwa [List.filter_append, List.filter_cons_of_neg (by simpa using hi),
          List.filter_cons_of_neg (by simpa using hi), ← List.filter_append] at same

/-- The edit writes the rows of the table, and is told so. -/
def Succeeds (w : Workspace kind) (i : ι) (e : TableEdit (kind i)) : Prop :=
  e.Commits ∧ ∃ answer, (w.outcome i e).result = .ok answer ∧ answer ≠ .found false

/-- What may be relied on after a run. -/
structure Steady (w : Workspace kind) (run : List (Action kind)) : Prop where
  /-- A table that an edit has written is in step with the graph. -/
  inStep : ∀ before i e after, run = before ++ .table i e :: after →
    (w.afterAll before).Succeeds i e → ((w.afterAll run).tables i).InStep (w.afterAll run).graph
  /-- An edit of a table touches that table and its field. -/
  touched : ∀ i (e : TableEdit (kind i)),
    Graph.FieldOnly (w.afterAll run).graph ((w.afterAll run).after (.table i e)).graph
        (w.tables i).node (w.tables i).field ∧
      ∀ j ≠ i, ((w.afterAll run).after (.table i e)).tables j = (w.afterAll run).tables j
  /-- An edit that does not find what it is given changes nothing. -/
  unfound : ∀ i (e : TableEdit (kind i)),
    ((w.afterAll run).outcome i e).result = .ok (.found false) →
      (w.afterAll run).after (.table i e) = w.afterAll run
  /-- What edits of the tables lead to does not depend on how those of different
  tables are interleaved. -/
  interleaved : ∀ edits edits' : List (Σ i, TableEdit (kind i)),
    (∀ i, edits.filter (·.1 = i) = edits'.filter (·.1 = i)) →
      (w.afterAll run).afterEdits edits = (w.afterAll run).afterEdits edits'

/-- **Tables and graph stay in step.**  From the first edit that writes the rows
of a table on, the graph holds the rows of that table, and they are read back as
they are, whatever is done to the other tables and to the rest of the graph. -/
theorem tables_in_step (w : Workspace kind) (apart : w.Apart) (ordered : w.graph.Ordered)
    (run : List (Action kind)) (proper : ∀ a ∈ run, w.Proper a) : w.Steady run := by
  have place := @place_afterAll _ _ w _ run
  have apart' : (w.afterAll run).Apart := by rwa [Apart, place]
  refine ⟨?_, fun i e => ?_, fun i e => after_of_unfound, fun edits edits' => afterEdits_eq apart'⟩
  · rintro before i e after rfl ⟨commits, answer, success, found⟩
    refine Table.inStep_of_stored (ordered_afterAll proper ordered) ?_
    -- from that edit on the rows are stored
    have stored := stored_of_commits commits success found
    have later := fun a ha => proper a (List.mem_append_right before (List.mem_cons_of_mem _ ha))
    have apart : ((w.afterAll before).after (.table i e)).Apart := by
      rwa [Apart, place_after, place_afterAll]
    have := stored.afterAll (fun a ha => proper_after (proper_afterAll (later a ha))) apart
    rwa [afterAll, List.foldl_append, List.foldl_cons]
  · obtain ⟨node, field⟩ := Prod.mk.inj (congrFun place i)
    rw [← node, ← field]
    exact ⟨fieldOnly_after _ i e, fun j hne => tables_after_of_ne hne e⟩

/-! Two tables over the two fields of one node, while its name is edited. -/

def twoKinds : Bool → TableKind
  | false => .environment
  | true => .mappings

def sharedNode : Workspace twoKinds where
  graph := { nodes := [⟨"n", "sqlTableOutput",
    .obj [("ifExists", .str "fail"), ("tableName", .str "t")], ["in"], []⟩] }
  tables
    | false => ({ node := "n", field := "variables" } : Table VariableRow)
    | true => ({ node := "n", field := "mapping" } : Table MappingRow)

def sharedRun : List (Action twoKinds) :=
  [.table true .add, .graph (.setConfigField "n" "tableName" (.str "u")), .table false .add,
    .table true (.update "0" ({ outputName := some "total" } : MappingRow.Patch))]

theorem tables_in_step_sharedNode :
    sharedNode.Steady sharedRun ∧
      (∀ i, ((sharedNode.afterAll sharedRun).tables i).InStep
        (sharedNode.afterAll sharedRun).graph) ∧
      ((sharedNode.afterAll sharedRun).tables false).rows = [⟨"0", "ENV_0", "", ""⟩] ∧
      ((sharedNode.afterAll sharedRun).tables true).rows = [⟨"0", none, "total", ""⟩] := by
  have apart : sharedNode.Apart := by
    rintro (_ | _) (_ | _) h <;> first | rfl | exact absurd h (by decide)
  have ordered : sharedNode.graph.Ordered := by
    intro n hn
    obtain rfl := List.mem_singleton.mp hn
    show List.Pairwise _ _
    decide
  have proper : ∀ a ∈ sharedRun, sharedNode.Proper a := by
    refine List.forall_mem_cons.mpr ⟨trivial, List.forall_mem_cons.mpr ⟨⟨?_, nofun⟩, ?_⟩⟩
    · rintro (_ | _) <;> show (_, _) ≠ (_, _) <;> decide
    · exact List.forall_mem_cons.mpr ⟨trivial, List.forall_mem_singleton.mpr trivial⟩
  have steady := tables_in_step sharedNode apart ordered sharedRun proper
  refine ⟨steady, ?_, rfl, rfl⟩
  rintro (_ | _)
  · exact steady.inStep (sharedRun.take 2) false .add _ rfl ⟨trivial, .key "0", rfl, nofun⟩
  · exact steady.inStep [] true .add _ rfl ⟨trivial, .key "0", rfl, nofun⟩

end Workspace

end PipelineScript
