/-
# The names of new variables

A new variable is called `ENV_` and its ordinal.  When a table is opened, the
ordinals in such names count as used, so a new variable gets a name that no row
has.  An update does not look at the ordinal in the name that it sets, and so it
can take the name that the next new variable is going to have
(`new_name_shadowed`).

Nothing else can go wrong: if updates set no such name, a new variable does not
shadow another (`new_name_apart`).
-/
import PipelineScript.Proofs.Table.History

namespace PipelineScript.Ledger

open Text (ordinalText ordinalCount greatestOrdinal)

/-- What a new variable with this ordinal is called. -/
def defaultName (o : UInt64) : String :=
  "ENV_" ++ ordinalText o

theorem ordinalOfName?_defaultName (o : UInt64) :
    VariableRow.ordinalOfName? (defaultName o) = some o := by
  have chars : (defaultName o).toList = 'E' :: 'N' :: 'V' :: '_' :: (ordinalText o).toList := by
    simp [defaultName]
  simp [VariableRow.ordinalOfName?, chars, Text.ordinalOfText?_ordinalText]

theorem defaultName_inj {o o' : UInt64} (h : defaultName o = defaultName o') : o = o' := by
  have := congrArg VariableRow.ordinalOfName? h
  rwa [ordinalOfName?_defaultName, ordinalOfName?_defaultName, Option.some.injEq] at this

theorem name_used {r : VariableRow} {o : UInt64} (h : r.name = defaultName o) :
    o ∈ Row.usedOrdinals r := by
  show o ∈ _ ++ (VariableRow.ordinalOfName? r.name).toList
  rw [h, ordinalOfName?_defaultName]
  simp

variable {σ : Type} {sink : Sink σ} {M : Int} {l l' : Ledger .environment σ}

/-- The edit gives no row the name of a variable that is still to come. -/
def Mindful (t : Table VariableRow) : TableEdit .environment → Prop
  | .update _ patch => ∀ o, VariableRow.Patch.name patch = some (defaultName o) →
    o ≠ greatestOrdinal → o.toNat < t.nextOrdinal.toNat
  | _ => True

/-- One more edit, which is mindful of names. -/
def MindfulStep (sink : Sink σ) (l l' : Ledger .environment σ) : Prop :=
  ∃ e, Mindful l.table e ∧ l' = l.after sink e

/-- No row has the name of a variable that is still to come. -/
def NamesPassed (M : Int) (l : Ledger .environment σ) : Prop :=
  M + l.given.length < greatestOrdinal.toNat → ∀ r ∈ l.table.rows, ∀ o : UInt64,
    VariableRow.name r = defaultName o → o ≠ greatestOrdinal → (o.toNat : Int) ≤ M + l.given.length

/-! ## One edit -/

theorem exists_of_mem_updateFirst {key : String} {f : TableEntry VariableRow → TableEntry VariableRow}
    {e : TableEntry VariableRow} : ∀ {es : List (TableEntry VariableRow)},
    e ∈ Table.updateFirst key f es → ∃ d ∈ es, e = d ∨ e = f d
  | d :: es, h => by
      unfold Table.updateFirst at h
      split at h
      · rcases List.mem_cons.mp h with rfl | h
        · exact ⟨d, List.mem_cons_self, Or.inr rfl⟩
        · exact ⟨e, List.mem_cons_of_mem _ h, Or.inl rfl⟩
      · rcases List.mem_cons.mp h with rfl | h
        · exact ⟨e, List.mem_cons_self, Or.inl rfl⟩
        · obtain ⟨d, hd, he⟩ := exists_of_mem_updateFirst h
          exact ⟨d, List.mem_cons_of_mem _ hd, he⟩

theorem withRow_rows (t : Table VariableRow) :
    t.withRow.rows = t.rows ++
      [⟨ordinalText t.freshOrdinal.1, defaultName t.freshOrdinal.1, "", ""⟩] := by
  simp only [Table.rows, Table.withRow, List.map_append]
  rfl

/-- Where the name of a row comes from. -/
theorem name_of_mem_applied {t : Table VariableRow} (e : TableEdit .environment)
    {r : VariableRow} (hr : r ∈ (@Table.applied .environment t e).rows) :
    (∃ r₀ ∈ t.rows, r.name = r₀.name) ∨
      (e = .add ∧ r.name = defaultName t.freshOrdinal.1) ∨
      ∃ key patch, e = .update key patch ∧ VariableRow.Patch.name patch = some r.name := by
  have same : r ∈ t.rows → ∃ r₀ ∈ t.rows, r.name = r₀.name := fun h => ⟨r, h, rfl⟩
  cases e with
  | add =>
      have hr : r ∈ t.withRow.rows := hr
      rw [withRow_rows] at hr
      rcases List.mem_append.mp hr with hr | hr
      · exact Or.inl (same hr)
      · exact Or.inr (Or.inl ⟨rfl, by rw [List.mem_singleton.mp hr]⟩)
  | update key patch =>
      obtain ⟨e, he, rfl⟩ := List.mem_map.mp hr
      obtain ⟨d, hd, rfl | rfl⟩ := exists_of_mem_updateFirst he
      · exact Or.inl (same (List.mem_map_of_mem hd))
      · -- the row that was updated has its old name or the one of the patch
        cases hname : VariableRow.Patch.name patch with
        | none => exact Or.inl ⟨d.row, List.mem_map_of_mem hd, congrArg (·.getD d.row.name) hname⟩
        | some name =>
            refine Or.inr (Or.inr ⟨key, patch, rfl, hname.trans (congrArg some ?_)⟩)
            exact (congrArg (·.getD d.row.name) hname).symm
  | delete key => exact Or.inl (same ((List.eraseP_sublist.map _).subset hr))
  | beginEdit key =>
      have hr : r ∈ (t.beginEdit key).2.rows := hr
      rw [Table.beginEdit_rows] at hr
      exact Or.inl (same hr)
  | sync | pending | failure | choices => exact Or.inl (same hr)
  | receiveChoices outcome =>
      obtain cause | columns | _ := outcome <;> exact Or.inl (same hr)

theorem Sound.freshOrdinal_eq (h : Sound M l)
    (bound : M + l.given.length + 1 < greatestOrdinal.toNat) :
    l.table.freshOrdinal.1 = l.table.nextOrdinal := by
  have next := h.next (by omega)
  refine freeOrdinal_of_not_mem fun hmem => ?_
  have hne : l.table.nextOrdinal ≠ greatestOrdinal := by
    intro he
    rw [he] at next
    omega
  have := h.passed (by omega) _ (h.held hmem) hne
  omega

theorem add_given (l : Ledger .environment σ) :
    (l.after sink .add).given.length = l.given.length + 1 := by
  obtain ⟨key, one, -⟩ := exists_added sink l
  rw [after, one, List.length_append, List.length_singleton]

theorem NamesPassed.after (names : NamesPassed M l) (h : Sound M l) {e : TableEdit .environment}
    (mindful : Mindful l.table e) : NamesPassed M (l.after sink e) := by
  intro bound r hr o hname hne
  obtain ⟨kept, count, rekeyed⟩ := exists_rekeyed sink l e
  have given := given_length rekeyed
  rw [after_table] at hr
  rcases name_of_mem_applied e hr with ⟨r₀, hr₀, hold⟩ | ⟨rfl, hnew⟩ | ⟨key, patch, rfl, hpatch⟩
  · have := names (by omega) r₀ hr₀ o (hold.symm.trans hname) hne
    omega
  · have one := @add_given σ sink l
    have next := h.next (by omega)
    obtain rfl : l.table.freshOrdinal.1 = o := defaultName_inj (hnew.symm.trans hname)
    rw [h.freshOrdinal_eq (by omega)]
    omega
  · have next := h.next (by omega)
    have := mindful o (hpatch.trans (congrArg some hname)) hne
    omega

/-! ## All edits -/

theorem namesPassed_opened {t : Table VariableRow} (opened : t.Opened) (s : σ) :
    NamesPassed ((t.nextOrdinal.toNat : Int) - 1) (@Ledger.opened .environment σ t s) := by
  intro _ r hr o hname hne
  have := opened.isGreatest.2 (Or.inr ⟨r, hr, o, name_used hname, hne, rfl⟩)
  simpa [Ledger.opened] using this

theorem passed_steps (h : Sound M l) (names : NamesPassed M l)
    (path : Relation.ReflTransGen (MindfulStep sink) l l') : Sound M l' ∧ NamesPassed M l' := by
  induction path with
  | refl => exact ⟨h, names⟩
  | tail _ hstep ih =>
      obtain ⟨e, mindful, rfl⟩ := hstep
      exact ⟨ih.1.after e, ih.2.after ih.1 mindful⟩

/-- **A new variable does not shadow another**, if updates leave the names of
variables that are still to come alone: until the ordinals are spent, it gets
the name of its ordinal, and no row has that name. -/
theorem new_name_apart (sink : Sink σ) (s : σ) (t : Table VariableRow) (opened : t.Opened) :
    ∃ M, IsGreatest (Table.usedUp t.rows) M ∧
      ∀ l, Relation.ReflTransGen (MindfulStep sink) (@Ledger.opened .environment σ t s) l →
        M + l.given.length + 1 < ordinalCount - 1 →
          ∃ o : UInt64, (o.toNat : Int) = M + 1 + l.given.length ∧
            (l.after sink .add).table.rows =
              l.table.rows ++ [⟨ordinalText o, defaultName o, "", ""⟩] ∧
            ∀ r ∈ l.table.rows, VariableRow.name r ≠ defaultName o := by
  refine ⟨_, opened.isGreatest, fun l path bound => ?_⟩
  obtain ⟨h, names⟩ := passed_steps (sound_opened opened s) (namesPassed_opened opened s) path
  have greatest : greatestOrdinal.toNat = ordinalCount - 1 := rfl
  have next := h.next (by omega)
  refine ⟨l.table.nextOrdinal, next, ?_, fun r hr hname => ?_⟩
  · rw [after_table, Table.applied, withRow_rows, h.freshOrdinal_eq (by omega)]
  · have := names (by omega) r hr _ hname (by rintro he; rw [he] at next; omega)
    omega

/-- The table with a gap after its first variable has got another name. -/
def renamed : Ledger .environment Graph :=
  (@Ledger.opened .environment _ gappedTable gapped).after Graph.sink
    (.update "0" ({ name := some "ENV_2" } : VariableRow.Patch))

theorem new_name_apart_renamed :
    ∃ o : UInt64, (o.toNat : Int) = 5 ∧
      (renamed.after Graph.sink .add).table.rows =
        renamed.table.rows ++ [⟨ordinalText o, defaultName o, "", ""⟩] ∧
      ∀ r ∈ renamed.table.rows, VariableRow.name r ≠ defaultName o := by
  have opened : gappedTable.Opened := ⟨"n", "variables", Or.inr ⟨gapped, rfl⟩⟩
  obtain ⟨M, greatest, apart⟩ := new_name_apart Graph.sink gapped gappedTable opened
  obtain rfl : M = 4 := greatest.unique opened.isGreatest
  have mindful : MindfulStep Graph.sink (@Ledger.opened .environment _ gappedTable gapped)
      renamed := by
    refine ⟨_, ?_, rfl⟩
    intro o ho _
    have two : defaultName 2 = "ENV_2" := by decide
    obtain rfl : 2 = o := defaultName_inj (two.trans (Option.some.inj ho))
    decide
  exact apart renamed (.single mindful) (by decide)

/-! Without that care a new variable shadows another. -/

/-- A new table with one variable, which is called as the next one will be. -/
def ahead : Ledger .environment Graph :=
  ((@Ledger.opened .environment _ { node := "n", field := "variables" } gapped).after Graph.sink
    .add).after Graph.sink (.update "0" ({ name := some "ENV_1" } : VariableRow.Patch))

theorem new_name_shadowed :
    ahead.table.rows = [⟨"0", "ENV_1", "", ""⟩] ∧
      (ahead.after Graph.sink .add).table.rows =
        [⟨"0", "ENV_1", "", ""⟩, ⟨"1", "ENV_1", "", ""⟩] := by
  decide +kernel

end PipelineScript.Ledger
