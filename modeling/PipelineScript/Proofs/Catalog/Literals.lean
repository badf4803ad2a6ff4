/-
# Texts of the user stay in their literals

The code of a standard component, taken apart by a lexer, has for its literals
exactly the texts that the component publishes (`Publishes`), and what stands
around them is written from the shape of the configuration with the variables
that the node is given (`ReadsBack`).  So no text can add to the code, leave
its literal or stop the lexer.

That takes variables without quotes in their names (`Unquoted`).  In the
compilation of a graph of standard components there are no others
(`unquoted_of_mem_stages`).
-/
import PipelineScript.Proofs.Catalog.Variables

namespace PipelineScript.Catalog

open Compile
open Text (Piece lex literals skeleton gaps)

/-! ## What a configuration publishes -/

/-- The complete rows of a mapping table. -/
def completeRows (rows : List MappingRow) : List MappingRow :=
  rows.filter MappingRow.isComplete

theorem input_isSome_of_mem_completeRows {rows : List MappingRow} {r : MappingRow}
    (h : r ∈ completeRows rows) : r.input.isSome = true := by
  have complete := (List.mem_filter.mp h).2
  simp only [MappingRow.isComplete, Bool.and_eq_true] at complete
  exact complete.1

/-- The input column of a row, where it goes by its name. -/
def sourceName (r : MappingRow) : List String :=
  match r.input with
  | some c => if c.named then [c.value] else []
  | none => []

/-- What is published of a mapping table: each complete row's input column,
if it goes by its name, and its output column; then all output columns. -/
def mappingTexts (rows : List MappingRow) : List String :=
  ((completeRows rows).flatMap fun r => sourceName r ++ [r.outputName]) ++
    (completeRows rows).map (·.outputName)

/-- A row without its texts: the index is left of an input column that goes
by its position. -/
def rowShape (r : MappingRow) : Entry Unit :=
  match r.input with
  | some c =>
    if c.named then ⟨.inl (), ()⟩
    else ⟨.inr ((Text.ordinalOfText? (Text.trim c.value)).getD 0), ()⟩
  | none => ⟨.inl (), ()⟩

/-- A mapping table without its texts. -/
def mappingShape (rows : List MappingRow) : List (Entry Unit) :=
  (completeRows rows).map rowShape

/-- The texts that a component publishes from a configuration, in order, and
what else the configuration decides on. -/
inductive Publishes : Builtin → Json → List String → Layout Unit → Prop where
  | envVariables {config : Json} {c : VariablesConfig}
      (read : readConfig VariablesConfig.decode config = .ok c) :
      Publishes .envVariables config (c.assigned.flatMap fun r => [Text.trim r.name, r.value])
        (.assign (c.assigned.map fun _ => ((), ())))
  | csvFileInput {config : Json} {c : CsvConfig}
      (read : readConfig CsvConfig.decode config = .ok c) :
      Publishes .csvFileInput config [c.filePath, c.separatorText] (.readFile () () c.header)
  | filterRows {config : Json} {c : FilterConfig}
      (read : readConfig FilterConfig.decode config = .ok c) :
      Publishes .filterRows config [Text.trim c.condition] (.query ())
  | columnMapping {config : Json} {c : MappingConfig}
      (read : readConfig MappingConfig.decode config = .ok c) :
      Publishes .columnMapping config (mappingTexts c.mapping) (.select (mappingShape c.mapping))
  | mergeFrames {config : Json} {c : MergeConfig}
      (read : readConfig MergeConfig.decode config = .ok c) :
      Publishes .mergeFrames config (c.on ++ [c.how]) (.join (c.on.map fun _ => ()) ())
  | csvFileOutput {config : Json} {c : CsvConfig}
      (read : readConfig CsvConfig.decode config = .ok c) :
      Publishes .csvFileOutput config [c.filePath, c.separatorText] (.writeFile () ())
  | sqlTableOutput {config : Json} {c : SqlConfig}
      (read : readConfig SqlConfig.decode config = .ok c) :
      Publishes .sqlTableOutput config
        (c.connection.url :: mappingTexts c.mapping ++ [Text.trim c.tableName, c.ifExists])
        (.store () (if c.mapping = [] then none else some (mappingShape c.mapping)) () ())

/-! ### The rows of a mapping table -/

theorem ofComplete_cons_eq_ok {r : MappingRow} {rest : List MappingRow} {p : Projection}
    (complete : r.input.isSome = true) (h : Projection.ofComplete (r :: rest) = .ok p) :
    ∃ c label more, r.input = some c ∧ labelOf c = .ok label ∧
      Projection.ofComplete rest = .ok more ∧ p = (label, r.outputName) :: more := by
  obtain ⟨c, hc⟩ := Option.isSome_iff_exists.mp complete
  simp only [Projection.ofComplete, hc] at h
  cases hl : labelOf c with
  | error e =>
      rw [hl] at h
      cases h
  | ok label =>
      cases hm : Projection.ofComplete rest with
      | error e =>
          rw [hl, hm] at h
          cases h
      | ok more =>
          rw [hl, hm] at h
          cases h
          exact ⟨c, label, more, hc, hl, rfl, rfl⟩

theorem entryOf_label {r : MappingRow} {c : Column} {label : Label} (hc : r.input = some c)
    (hl : labelOf c = .ok label) :
    (entryOf (label, r.outputName)).sourceTexts = sourceName r ∧
      (entryOf (label, r.outputName)).map (fun _ => ()) = rowShape r := by
  unfold labelOf at hl
  split at hl
  · next named =>
    cases hl
    simp [entryOf, Entry.sourceTexts, Entry.map, sourceName, rowShape, hc, named]
  · next positional =>
    split at hl
    · next index hi =>
      cases hl
      simp [entryOf, Entry.sourceTexts, Entry.map, sourceName, rowShape, hc, positional, hi]
    · cases hl

theorem ofComplete_entries {p : Projection} : ∀ {rows : List MappingRow},
    (∀ r ∈ rows, r.input.isSome = true) → Projection.ofComplete rows = .ok p →
      ((p.map entryOf).flatMap fun e => e.sourceTexts ++ [e.name]) =
          (rows.flatMap fun r => sourceName r ++ [r.outputName]) ∧
        (p.map entryOf).map Entry.name = rows.map (·.outputName) ∧
        (p.map entryOf).map (Entry.map fun _ => ()) = rows.map rowShape := by
  intro rows
  induction rows generalizing p with
  | nil =>
      intro _ h
      cases h
      exact ⟨rfl, rfl, rfl⟩
  | cons r rest ih =>
      intro complete h
      obtain ⟨hr, hrest⟩ := List.forall_mem_cons.mp complete
      obtain ⟨c, label, more, hc, hl, hm, rfl⟩ := ofComplete_cons_eq_ok hr h
      obtain ⟨htexts, hnames, hshape⟩ := ih hrest hm
      obtain ⟨hsource, hentry⟩ := entryOf_label hc hl
      refine ⟨?_, ?_, ?_⟩
      · rw [List.map_cons, List.flatMap_cons, List.flatMap_cons, htexts, hsource, name_entryOf]
      · rw [List.map_cons, List.map_cons, List.map_cons, hnames, name_entryOf]
      · rw [List.map_cons, List.map_cons, List.map_cons, hshape, hentry]

theorem entries_of_completeRows {rows : List MappingRow} {p : Projection}
    (h : Projection.ofComplete (rows.filter MappingRow.isComplete) = .ok p) :
    entryTexts (p.map entryOf) = mappingTexts rows ∧
      (p.map entryOf).map (Entry.map fun _ => ()) = mappingShape rows := by
  obtain ⟨htexts, hnames, hshape⟩ :=
    ofComplete_entries (fun _ => input_isSome_of_mem_completeRows) h
  exact ⟨by rw [entryTexts, htexts, hnames]; rfl, hshape⟩

/-! ### What a ready configuration publishes -/

section Ready
variable {config : Json} {l : Layout String}

theorem of_projecting_eq_ready {rows : List MappingRow}
    {next : Option (List (Entry String)) → Verdict} (h : Verdict.projecting rows next = .ready l) :
    (rows = [] ∧ next none = .ready l) ∨
      ∃ entries, rows ≠ [] ∧ entryTexts entries = mappingTexts rows ∧
        entries.map (Entry.map fun _ => ()) = mappingShape rows ∧
        next (some entries) = .ready l := by
  rcases Verdict.projecting_cases rows next with
    ⟨empty, hnext⟩ | ⟨-, hlacking⟩ | ⟨filled, -, ⟨_, _, -, hcause⟩ | ⟨p, hp, hnext⟩⟩
  · exact Or.inl ⟨empty, hnext.symm.trans h⟩
  · cases hlacking.symm.trans h
  · cases hcause.symm.trans h
  · obtain ⟨htexts, hshape⟩ := entries_of_completeRows hp
    exact Or.inr ⟨_, filled, htexts, hshape, hnext.symm.trans h⟩

theorem publishes_of_ready {b : Builtin} (h : b.verdict config = .ready l) :
    Publishes b config l.texts l.shape := by
  cases b with
  | envVariables =>
      obtain ⟨c, read, h⟩ := Verdict.exists_of_decoding_eq h (by simp)
      cases Verdict.of_ite_eq h (by simp)
      rw [Layout.texts, Layout.shape, Layout.map, List.flatMap_map, List.map_map]
      exact .envVariables read
  | csvFileInput =>
      obtain ⟨c, read, h⟩ := Verdict.exists_of_decoding_eq h (by simp)
      cases Verdict.of_ite_eq h (by simp)
      exact .csvFileInput read
  | filterRows =>
      obtain ⟨c, read, h⟩ := Verdict.exists_of_decoding_eq h (by simp)
      cases Verdict.of_ite_eq h (by simp)
      exact .filterRows read
  | columnMapping =>
      obtain ⟨c, read, h⟩ := Verdict.exists_of_decoding_eq h (by simp)
      rcases of_projecting_eq_ready h with ⟨-, h⟩ | ⟨entries, -, htexts, hshape, h⟩
      · cases h
      · cases h
        rw [Layout.texts, Layout.shape, Layout.map, htexts, hshape]
        exact .columnMapping read
  | mergeFrames =>
      obtain ⟨c, read, h⟩ := Verdict.exists_of_decoding_eq h (by simp)
      cases Verdict.of_among_eq h (by simp)
      exact .mergeFrames read
  | csvFileOutput =>
      obtain ⟨c, read, h⟩ := Verdict.exists_of_decoding_eq h (by simp)
      cases Verdict.of_ite_eq h (by simp)
      exact .csvFileOutput read
  | sqlTableOutput =>
      obtain ⟨c, read, h⟩ := Verdict.exists_of_decoding_eq h (by simp)
      have published := Publishes.sqlTableOutput read
      have h := Verdict.of_ite_eq (Verdict.of_ite_eq h (by simp)) (by simp)
      rcases of_projecting_eq_ready (Verdict.of_among_eq h (by simp)) with
        ⟨empty, h⟩ | ⟨entries, filled, htexts, hshape, h⟩
      · cases h
        rw [if_pos empty, empty] at published
        exact published
      · cases h
        rw [if_neg filled, ← hshape, ← htexts] at published
        exact published

end Ready

/-! ## Variables without quotes -/

/-- No variable that the node may be told has a quote in its name: none that
feeds it, none that it has published, and none that is still to come. -/
structure Unquoted (site : Site) (p : Progress) : Prop where
  feeds : ∀ name, .available name ∈ site.feeds → '"' ∉ name.toList
  outputs : ∀ name, some name ∈ p.outputs → '"' ∉ name.toList
  base : '"' ∉ site.base.toList

namespace Unquoted
variable {site : Site} {p q : Progress}

theorem told (h : Unquoted site p) : Told (fun v => '"' ∉ v.toList) site p :=
  ⟨h.feeds, h.outputs, yields_lacking (by decide) h.base⟩

theorem asks (h : Unquoted site p) {b : Builtin} {c : Cast}
    (run : b.asks.run site p = .ok (c, q)) : c.Lacks '"' := by
  obtain ⟨-, inputs, outputs, own⟩ := h.told.asks (b.yields_lacking (Or.inl rfl)).2 run
  exact ⟨inputs, outputs, own⟩

end Unquoted

/-! ## The literals of the code -/

/-- The code is read back by a lexer.  Its literals are the texts that the
configuration publishes, and the rest is written from the shape of the
configuration with the variables that the node is given. -/
def ReadsBack (b : Builtin) (config : Json) (site : Site) (p q : Progress) (code : String) : Prop :=
  ∃ pieces texts shape cast, lex code.toList = some pieces ∧ Publishes b config texts shape ∧
    literals pieces = texts ∧ b.asks.run site p = .ok (cast, q) ∧
    skeleton pieces = gaps (shape.segments cast)

theorem readsBack_of_run {b : Builtin} {config : Json} {site : Site} {p q : Progress}
    {code : String} (unquoted : Unquoted site p)
    (h : (b.component.generate config).run site p = .ok (.fragment code, q)) :
    ReadsBack b config site p q code := by
  obtain ⟨layout, cast, hready, hasks, rfl⟩ := Builtin.of_run_fragment h
  obtain ⟨pieces, hlex, hliterals, hskeleton⟩ := lex_segments (unquoted.asks hasks) layout
  exact ⟨pieces, layout.texts, layout.shape, cast, hlex, publishes_of_ready hready, hliterals,
    hasks, hskeleton⟩

/-- **Texts stay in their literals**, whatever a standard component is
configured with, wherever its node stands. -/
theorem fragment_literals (c : Component) (hc : c ∈ Registry.standard.components) (config : Json)
    (site : Site) (p q : Progress) (unquoted : Unquoted site p) (code : String)
    (h : (c.generate config).run site p = .ok (.fragment code, q)) :
    ∃ b : Builtin, b.component = c ∧ ReadsBack b config site p q code := by
  obtain ⟨b, rfl⟩ := Builtin.exists_of_mem_standard hc
  exact ⟨b, rfl, readsBack_of_run unquoted h⟩

/-- A mapping table whose texts try to get out of their literals: a quote and
a backslash, a raw line break, a control character. -/
def hostileConfig : Json :=
  .obj [("mapping", .arr [
    .obj [("key", .str "1"),
      ("input", .obj [("label", .str ""), ("value", .str "a\"); import os #")]),
      ("value", .str "b\n\\")],
    .obj [("key", .str "2"),
      ("input", .obj [("label", .str ""), ("value", .str " 7 "), ("named", .bool false)]),
      ("value", .str "\x01\"")]])]

/-- A node with this table, fed by one variable. -/
def hostileSite : Site :=
  { node := ⟨"m", "columnMapping", hostileConfig, ["in"], ["out"]⟩
    feeds := [.available "source1"], base := "mapped" }

theorem fragment_literals_hostile :
    columnMapping ∈ Registry.standard.components ∧
      Unquoted hostileSite (.start {} hostileSite.node) ∧
      ∃ code q, (columnMapping.generate hostileConfig).run hostileSite
          (.start {} hostileSite.node) = .ok (.fragment code, q) ∧
        ∃ b : Builtin, b.component = columnMapping ∧
          ReadsBack b hostileConfig hostileSite (.start {} hostileSite.node) q code := by
  have member : columnMapping ∈ Registry.standard.components := by simp [Registry.standard]
  have unquoted : Unquoted hostileSite (.start {} hostileSite.node) :=
    ⟨by simp [hostileSite], by simp [hostileSite, Progress.start], by decide⟩
  have run : ((columnMapping.generate hostileConfig).run hostileSite
      (.start {} hostileSite.node)).toOption =
        some (.fragment ("mapped1 = source1.rename(columns=\x7b\"a\\\"); import os #\": " ++
            "\"b\\n\\\\\", 7: \"\\x01\\\"\"\x7d)[[\"b\\n\\\\\", \"\\x01\\\"\"]]"),
          ⟨⟨["mapped1"]⟩, [some "mapped1"], ["mapped1"]⟩) := by decide +kernel
  have run := ok_of_toOption run
  exact ⟨member, unquoted, _, _, run, fragment_literals _ member _ _ _ _ unquoted _ run⟩

/-! ## In a compilation

Nothing has to be assumed of the variables there: the standard components have
no quotes in the bases of their variables, so none comes up.
-/

section Compilation
variable {g : Graph} {t : Stage}

theorem unquoted_of_mem_stages (ht : t ∈ stages Registry.standard g) :
    Unquoted (t.site g) t.start := by
  have told := told_of_mem_stages (fun b => b.yields_lacking (Or.inl rfl)) ht
  obtain ⟨b, hb⟩ := Builtin.exists_of_find_standard (component_of_mem_stages ht).2
  refine ⟨told.feeds, told.outputs, ?_⟩
  show '"' ∉ t.component.variableBase.toList
  rw [← hb]
  cases b <;> decide

/-- All code that goes into a script of the standard components can be read
back. -/
theorem stage_literals (ht : t ∈ stages Registry.standard g) {code : String} {p : Progress}
    (h : t.result g = .ok (.fragment code, p)) :
    ∃ b : Builtin, b.component = t.component ∧
      ReadsBack b t.node.config (t.site g) t.start p code := by
  obtain ⟨b, hb⟩ := Builtin.exists_of_find_standard (component_of_mem_stages ht).2
  rw [Stage.result, Stage.plan, ← hb] at h
  exact ⟨b, hb, readsBack_of_run (unquoted_of_mem_stages ht) h⟩

end Compilation

end PipelineScript.Catalog
