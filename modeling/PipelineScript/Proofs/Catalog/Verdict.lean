/-
# What the standard components do with a node

All standard components go about a node in the same way.  The configuration
is judged first, and the `Verdict` may settle the matter: the configuration is
wrong, it lacks something, or there is nothing to do.  Otherwise the node is
ready: it asks for all its inputs, publishes all its outputs, takes the
variables it needs for itself, and writes the code that its layout says.

`generate_eq` says so, component by component, and `run_generate` what a run
comes to.  Everything else in this library about the standard components goes
through these two, through what `verdict` makes of a configuration, and
through what the questions of a node come to (`asks_inputs`, `asks_outputs`,
`asks_error`).
-/
import PipelineScript.Catalog.Standard
import PipelineScript.Proofs.Catalog.Layout
import PipelineScript.Proofs.Compile.Questions

namespace PipelineScript

/-- The flaw lies in what a configuration says, and not in the ports of a
node. -/
def Flaw.AboutConfig : Flaw → Prop
  | .noInputPort _ | .noOutputPort _ => False
  | .undecodable _ | .notAmong .. | .notAnIndex _ => True

end PipelineScript

namespace PipelineScript.Catalog

open Compile
open Text (render)

/-! ## Verdicts -/

theorem aboutConfig_of_labelOf {c : Column} {cause : Flaw} (h : labelOf c = .error cause) :
    cause.AboutConfig := by
  unfold labelOf at h
  split at h
  · cases h
  · split at h
    · cases h
    · cases h
      trivial

theorem aboutConfig_of_ofComplete {cause : Flaw} : ∀ {rows : List MappingRow},
    Projection.ofComplete rows = .error cause → cause.AboutConfig := by
  intro rows
  induction rows with
  | nil =>
      intro h
      cases h
  | cons r rest ih =>
      intro h
      rw [Projection.ofComplete] at h
      split at h
      · exact ih h
      · next c _ =>
        cases hl : labelOf c with
        | error e =>
            rw [hl] at h
            cases h
            exact aboutConfig_of_labelOf hl
        | ok label =>
            cases hm : Projection.ofComplete rest with
            | error e =>
                rw [hl, hm] at h
                cases h
                exact ih hm
            | ok more =>
                rw [hl, hm] at h
                cases h

/-- The standard components, in catalog order. -/
inductive Builtin where
  | envVariables
  | csvFileInput
  | filterRows
  | columnMapping
  | mergeFrames
  | csvFileOutput
  | sqlTableOutput

/-- What a configuration makes of its node before anything is asked. -/
inductive Verdict where
  /-- Something that it says is wrong. -/
  | rejected (cause : Flaw) (own : cause.AboutConfig)
  /-- It has a mapping table of so many rows, none of them complete. -/
  | lacking (rows : Nat)
  /-- There is nothing to do. -/
  | idle (reason : String)
  | ready (layout : Layout String)

namespace Verdict

/-- Goes on with the configuration, if it can be read. -/
def decoding {α : Type} (d : Json.Decoder α) (config : Json) (next : α → Verdict) : Verdict :=
  match readConfig d config with
  | .error cause => rejected (.undecodable cause) trivial
  | .ok c => next c

/-- Goes on if the word is an allowed one. -/
def among (field word : String) (allowed : List String) (next : Verdict) : Verdict :=
  if allowed.contains word then next else rejected (.notAmong field allowed word) trivial

end Verdict

/-- An entry of a projection, with its label taken apart. -/
def entryOf : Label × String → Entry String
  | (.named source, name) => ⟨.inl source, name⟩
  | (.positional index, name) => ⟨.inr index, name⟩

/-- Goes on with the complete rows of a mapping table; with nothing, if it is
empty. -/
def Verdict.projecting (rows : List MappingRow) (next : Option (List (Entry String)) → Verdict) :
    Verdict :=
  if rows.isEmpty then next none
  else if (rows.filter MappingRow.isComplete).isEmpty then lacking rows.length
  else
    match h : Projection.ofComplete (rows.filter MappingRow.isComplete) with
    | .error cause => rejected cause (aboutConfig_of_ofComplete h)
    | .ok p => next (some (p.map entryOf))

/-- A mapping table with rows, none of them complete. -/
def Unmapped (rows : List MappingRow) : Prop :=
  rows ≠ [] ∧ ∀ r ∈ rows, ¬r.isComplete = true

namespace CsvConfig

/-- The separator; an empty one counts as a comma. -/
def separatorText (c : CsvConfig) : String :=
  if c.separator == "" then "," else c.separator

end CsvConfig

namespace Builtin

def component : Builtin → Component
  | envVariables => Catalog.envVariables
  | csvFileInput => Catalog.csvFileInput
  | filterRows => Catalog.filterRows
  | columnMapping => Catalog.columnMapping
  | mergeFrames => Catalog.mergeFrames
  | csvFileOutput => Catalog.csvFileOutput
  | sqlTableOutput => Catalog.sqlTableOutput

def all : List Builtin :=
  [envVariables, csvFileInput, filterRows, columnMapping, mergeFrames, csvFileOutput,
    sqlTableOutput]

/-- What the component makes of a configuration. -/
def verdict (config : Json) : Builtin → Verdict
  | envVariables => .decoding VariablesConfig.decode config fun c =>
    if c.assigned.isEmpty then .idle "no environment variable has both a name and a value"
    else .ready (.assign (c.assigned.map fun r => (Text.trim r.name, r.value)))
  | csvFileInput => .decoding CsvConfig.decode config fun c =>
    if Text.isBlankText c.filePath then .idle "no file path selected"
    else .ready (.readFile c.filePath c.separatorText c.header)
  | filterRows => .decoding FilterConfig.decode config fun c =>
    if Text.trim c.condition == "" then .idle "no filter condition"
    else .ready (.query (Text.trim c.condition))
  | columnMapping => .decoding MappingConfig.decode config fun c =>
    .projecting c.mapping fun
      | none => .idle "the mapping table is empty"
      | some entries => .ready (.select entries)
  | mergeFrames => .decoding MergeConfig.decode config fun c =>
    .among "how" c.how joinKinds (.ready (.join c.on c.how))
  | csvFileOutput => .decoding CsvConfig.decode config fun c =>
    if Text.isBlankText c.filePath then .idle "no output file path"
    else .ready (.writeFile c.filePath c.separatorText)
  | sqlTableOutput => .decoding SqlConfig.decode config fun c =>
    if !c.connection.isComplete then .idle "database connection is not configured"
    else if Text.trim c.tableName == "" then .idle "no target table"
    else .among "ifExists" c.ifExists ifExistsKinds <| .projecting c.mapping fun entries =>
      .ready (.store c.connection.url entries (Text.trim c.tableName) c.ifExists)

/-- The bases of the variables that the component keeps to itself. -/
def ownBases : Builtin → List String
  | sqlTableOutput => ["engine"]
  | _ => []

/-- Asks for all the variables of a node. -/
def asks (b : Builtin) : Plan Cast :=
  (Plan.needInputs 0 b.component.inputs.length).bind fun inputs =>
    (Plan.publishAll 0 b.component.outputs.length).bind fun outputs =>
      (Plan.freshAll b.ownBases).bind fun own => .done ⟨inputs, outputs, own⟩

/-- Carries out a verdict. -/
def plan (b : Builtin) : Verdict → Plan Generated
  | .rejected cause _ => .rejects cause
  | .lacking rows => .lacks (.noMappedColumn rows)
  | .idle reason => .done (.skipped reason)
  | .ready layout => b.asks.bind fun c => .done (.fragment (render (layout.segments c)))

/-- The mapping table of a configuration. -/
inductive Maps : Builtin → Json → List MappingRow → Prop where
  | columnMapping {config : Json} {c : MappingConfig}
      (read : readConfig MappingConfig.decode config = .ok c) : Maps columnMapping config c.mapping
  | sqlTableOutput {config : Json} {c : SqlConfig}
      (read : readConfig SqlConfig.decode config = .ok c) : Maps sqlTableOutput config c.mapping

end Builtin

/-! ## What the parts of a verdict come to -/

namespace Verdict

theorem decoding_cases {α : Type} (d : Json.Decoder α) (config : Json) (next : α → Verdict) :
    (∃ cause own, decoding d config next = rejected cause own) ∨
      ∃ c, readConfig d config = .ok c ∧ decoding d config next = next c := by
  unfold decoding
  cases readConfig d config with
  | error cause => exact Or.inl ⟨.undecodable cause, trivial, rfl⟩
  | ok c => exact Or.inr ⟨c, rfl, rfl⟩

theorem among_cases (field word : String) (allowed : List String) (next : Verdict) :
    (∃ cause own, among field word allowed next = rejected cause own) ∨
      among field word allowed next = next := by
  unfold among
  split
  · exact Or.inr rfl
  · exact Or.inl ⟨.notAmong field allowed word, trivial, rfl⟩

/-- The four ways to go about a mapping table. -/
theorem projecting_cases (rows : List MappingRow) (next : Option (List (Entry String)) → Verdict) :
    (rows = [] ∧ projecting rows next = next none) ∨
      (Unmapped rows ∧ projecting rows next = lacking rows.length) ∨
      rows ≠ [] ∧ rows.filter MappingRow.isComplete ≠ [] ∧
        ((∃ cause own, Projection.ofComplete (rows.filter MappingRow.isComplete) = .error cause ∧
            projecting rows next = rejected cause own) ∨
          ∃ p, Projection.ofComplete (rows.filter MappingRow.isComplete) = .ok p ∧
            projecting rows next = next (some (p.map entryOf))) := by
  by_cases empty : rows = []
  · exact Or.inl ⟨empty, by simp [projecting, empty]⟩
  by_cases unmapped : rows.filter MappingRow.isComplete = []
  · refine Or.inr (Or.inl ⟨⟨empty, List.filter_eq_nil_iff.mp unmapped⟩, ?_⟩)
    rw [projecting, if_neg (mt List.isEmpty_iff.mp empty), if_pos (List.isEmpty_iff.mpr unmapped)]
  refine Or.inr (Or.inr ⟨empty, unmapped, ?_⟩)
  rw [projecting, if_neg (mt List.isEmpty_iff.mp empty), if_neg (mt List.isEmpty_iff.mp unmapped)]
  split
  · next cause hcause => exact Or.inl ⟨cause, aboutConfig_of_ofComplete hcause, hcause, rfl⟩
  · next p hp => exact Or.inr ⟨p, hp, rfl⟩

section Accepted
variable {config : Json} {v : Verdict}

theorem exists_of_decoding_eq {α : Type} {d : Json.Decoder α} {next : α → Verdict}
    (h : decoding d config next = v) (accepted : ∀ cause own, rejected cause own ≠ v) :
    ∃ c, readConfig d config = .ok c ∧ next c = v := by
  rcases decoding_cases d config next with ⟨_, _, hcause⟩ | ⟨c, hc, hnext⟩
  · exact absurd (hcause.symm.trans h) (accepted _ _)
  · exact ⟨c, hc, hnext.symm.trans h⟩

theorem of_among_eq {field word : String} {allowed : List String} {next : Verdict}
    (h : among field word allowed next = v) (accepted : ∀ cause own, rejected cause own ≠ v) :
    next = v := by
  rcases among_cases field word allowed next with ⟨_, _, hcause⟩ | hnext
  · exact absurd (hcause.symm.trans h) (accepted _ _)
  · exact hnext.symm.trans h

theorem of_ite_eq {p : Prop} [Decidable p] {reason : String} {next : Verdict}
    (h : (if p then idle reason else next) = v) (busy : ∀ reason, idle reason ≠ v) : next = v := by
  split at h
  · exact absurd h (busy _)
  · exact h

theorem of_projecting_eq_lacking {rows : List MappingRow} {count : Nat}
    {next : Option (List (Entry String)) → Verdict} (h : projecting rows next = lacking count)
    (later : ∀ p, next p ≠ lacking count) : Unmapped rows ∧ count = rows.length := by
  rcases projecting_cases rows next with
    ⟨-, hnext⟩ | ⟨unmapped, hlacking⟩ | ⟨-, -, ⟨_, _, -, hcause⟩ | ⟨p, -, hnext⟩⟩
  · exact absurd (hnext.symm.trans h) (later _)
  · cases hlacking.symm.trans h
    exact ⟨unmapped, rfl⟩
  · cases hcause.symm.trans h
  · exact absurd (hnext.symm.trans h) (later _)

theorem projecting_ne {rows : List MappingRow} {next : Option (List (Entry String)) → Verdict}
    (accepted : ∀ cause own, rejected cause own ≠ v) (mapped : ∀ count, lacking count ≠ v)
    (later : ∀ p, next p ≠ v) : projecting rows next ≠ v := by
  rcases projecting_cases rows next with
    ⟨-, h⟩ | ⟨-, h⟩ | ⟨-, -, ⟨_, _, -, h⟩ | ⟨p, -, h⟩⟩ <;> rw [h]
  · exact later _
  · exact mapped _
  · exact accepted _ _
  · exact later _

end Accepted

end Verdict

/-! ## Code as it is laid out -/

theorem separatorCode_eq (c : CsvConfig) : c.separatorCode = Text.literal c.separatorText :=
  rfl

theorem render_listSegments (items : List String) :
    render (listSegments items) = Text.literalList items := by
  simp [listSegments, Text.literalList, Function.comp_def, String.append_assoc]

theorem render_entryOf (e : Label × String) :
    render (entryOf e).segments = e.1.code ++ ": " ++ Text.literal e.2 := by
  obtain ⟨label, name⟩ := e
  cases label <;> simp [entryOf, Entry.segments, Label.code, String.append_assoc]

theorem name_entryOf (e : Label × String) : (entryOf e).name = e.2 := by
  obtain ⟨label, name⟩ := e
  cases label <;> rfl

theorem render_selection (p : Projection) : render (selection (p.map entryOf)) = p.code := by
  unfold selection Projection.code
  simp [render_listSegments, render_entryOf, name_entryOf, Function.comp_def, String.append_assoc]

theorem render_onSegments (c : MergeConfig) : render (onSegments c.on) = c.onArgument := by
  rw [MergeConfig.onArgument]
  match c.on with
  | [] => rfl
  | [column] => simp [onSegments]
  | column :: next :: rest => simp [onSegments, render_listSegments]

theorem render_assignSegments (r : VariableRow) :
    render (assignSegments (Text.trim r.name, r.value)) = assignment r := by
  simp [assignSegments, assignment, String.append_assoc]

namespace Builtin

theorem standard_components : Registry.standard.components = all.map component :=
  rfl

theorem exists_of_mem_standard {c : Component} (h : c ∈ Registry.standard.components) :
    ∃ b : Builtin, b.component = c := by
  rw [standard_components] at h
  obtain ⟨b, -, rfl⟩ := List.mem_map.mp h
  exact ⟨b, rfl⟩

theorem exists_of_find_standard {identity : String} {c : Component}
    (h : Registry.standard.find? identity = some c) : ∃ b : Builtin, b.component = c :=
  exists_of_mem_standard (List.mem_of_find?_eq_some h)

/-! ## Verdicts as plans -/

section Plan
variable {b : Builtin}

theorem decodeConfig_bind_eq {α : Type} {d : Json.Decoder α} {config : Json}
    {k : α → Plan Generated} {next : α → Verdict} (h : ∀ c, k c = b.plan (next c)) :
    (decodeConfig d config).bind k = b.plan (.decoding d config next) := by
  rw [decodeConfig, Verdict.decoding]
  cases readConfig d config with
  | error cause => rfl
  | ok c => exact h c

theorem requireOneOf_bind_eq {field word : String} {allowed : List String}
    {k : Unit → Plan Generated} {next : Verdict} (h : k () = b.plan next) :
    (requireOneOf field word allowed).bind k = b.plan (.among field word allowed next) := by
  rw [requireOneOf, Verdict.among]
  split
  · exact h
  · rfl

theorem projection_bind_eq {rows : List MappingRow} {k : Option Projection → Plan Generated}
    {next : Option (List (Entry String)) → Verdict}
    (h : ∀ p, k p = b.plan (next (p.map (List.map entryOf)))) :
    (projection rows).bind k = b.plan (.projecting rows next) := by
  unfold projection
  rcases Verdict.projecting_cases rows next with
    ⟨empty, hv⟩ | ⟨⟨filled, unmapped⟩, hv⟩ |
      ⟨filled, mapped, ⟨cause, own, hcause, hv⟩ | ⟨p, hp, hv⟩⟩ <;> rw [hv]
  · simp only [empty, List.isEmpty_nil, if_true]
    exact h none
  · simp only [List.isEmpty_iff, filled, List.filter_eq_nil_iff.mpr unmapped, if_true, if_false]
    rfl
  · simp only [List.isEmpty_iff, filled, mapped, hcause, if_false]
    rfl
  · simp only [List.isEmpty_iff, filled, mapped, hp, if_false]
    exact h (some p)

theorem done_fragment {code code' : String} (h : code = code') :
    Plan.done (Generated.fragment code) = .done (.fragment code') :=
  congrArg (Plan.done ∘ Generated.fragment) h

end Plan

/-! ## Component by component -/

theorem generate_csvFileInput (config : Json) :
    Catalog.csvFileInput.generate config = csvFileInput.plan (csvFileInput.verdict config) := by
  refine decodeConfig_bind_eq fun c => ?_
  by_cases blank : Text.isBlankText c.filePath
  · simp only [blank, if_true]
    rfl
  simp only [blank]
  refine Plan.output_congr (fun _ => rfl) fun out => done_fragment ?_
  cases c.header <;> simp [Layout.segments, separatorCode_eq, Cast.output, String.append_assoc]

theorem generate_csvFileOutput (config : Json) :
    Catalog.csvFileOutput.generate config = csvFileOutput.plan (csvFileOutput.verdict config) := by
  refine decodeConfig_bind_eq fun c => ?_
  by_cases blank : Text.isBlankText c.filePath
  · simp only [blank, if_true]
    rfl
  simp only [blank]
  refine Plan.input_congr (fun _ => rfl) fun frame => done_fragment ?_
  simp [Layout.segments, separatorCode_eq, Cast.input, String.append_assoc]

theorem generate_filterRows (config : Json) :
    Catalog.filterRows.generate config = filterRows.plan (filterRows.verdict config) := by
  refine decodeConfig_bind_eq fun c => ?_
  by_cases blank : Text.trim c.condition == ""
  · simp only [blank, if_true]
    rfl
  simp only [blank]
  refine Plan.input_congr (fun _ => rfl) fun frame => ?_
  refine Plan.output_congr (fun _ => rfl) fun out => done_fragment ?_
  simp [Layout.segments, Cast.input, Cast.output, String.append_assoc]

theorem generate_columnMapping (config : Json) :
    Catalog.columnMapping.generate config = columnMapping.plan (columnMapping.verdict config) := by
  refine decodeConfig_bind_eq fun c => projection_bind_eq fun p => ?_
  cases p with
  | none => rfl
  | some p =>
      refine Plan.input_congr (fun _ => rfl) fun frame => ?_
      refine Plan.output_congr (fun _ => rfl) fun out => done_fragment ?_
      simp [Layout.segments, render_selection, Cast.input, Cast.output]

theorem generate_mergeFrames (config : Json) :
    Catalog.mergeFrames.generate config = mergeFrames.plan (mergeFrames.verdict config) := by
  refine decodeConfig_bind_eq fun c => requireOneOf_bind_eq ?_
  refine Plan.input_congr (fun _ => rfl) fun left => ?_
  refine Plan.input_congr (fun _ => rfl) fun right => ?_
  refine Plan.output_congr (fun _ => rfl) fun out => done_fragment ?_
  simp [Layout.segments, render_onSegments, Cast.input, Cast.output, String.append_assoc]

theorem generate_envVariables (config : Json) :
    Catalog.envVariables.generate config = envVariables.plan (envVariables.verdict config) := by
  refine decodeConfig_bind_eq fun c => ?_
  by_cases nothing : c.assigned.isEmpty
  · simp only [nothing, if_true]
    rfl
  simp only [nothing]
  refine done_fragment ?_
  simp [Layout.segments, render_assignSegments, Function.comp_def]

theorem generate_sqlTableOutput (config : Json) :
    Catalog.sqlTableOutput.generate config =
      sqlTableOutput.plan (sqlTableOutput.verdict config) := by
  refine decodeConfig_bind_eq fun c => ?_
  by_cases unset : !c.connection.isComplete
  · simp only [unset, if_true]
    rfl
  by_cases blank : Text.trim c.tableName == ""
  · simp only [unset, blank, if_true]
    rfl
  simp only [unset, blank, Bool.false_eq_true, if_false]
  refine requireOneOf_bind_eq (projection_bind_eq fun p => ?_)
  refine Plan.input_congr (fun _ => rfl) fun frame => ?_
  refine congrArg (Plan.fresh "engine") (funext fun engine => done_fragment ?_)
  cases p <;>
    simp [Layout.segments, render_selection, Cast.input, Cast.engine, String.append_assoc]

/-- What a standard component does with a configuration. -/
theorem generate_eq (b : Builtin) (config : Json) :
    b.component.generate config = b.plan (b.verdict config) := by
  cases b with
  | envVariables => exact generate_envVariables config
  | csvFileInput => exact generate_csvFileInput config
  | filterRows => exact generate_filterRows config
  | columnMapping => exact generate_columnMapping config
  | mergeFrames => exact generate_mergeFrames config
  | csvFileOutput => exact generate_csvFileOutput config
  | sqlTableOutput => exact generate_sqlTableOutput config

theorem maps_of_lacking {b : Builtin} {config : Json} {count : Nat}
    (h : b.verdict config = .lacking count) :
    ∃ rows, b.Maps config rows ∧ Unmapped rows ∧ count = rows.length := by
  cases b with
  | columnMapping =>
      obtain ⟨c, read, h⟩ := Verdict.exists_of_decoding_eq h (by simp)
      exact ⟨c.mapping, .columnMapping read,
        Verdict.of_projecting_eq_lacking h (by rintro (_ | _) <;> simp)⟩
  | sqlTableOutput =>
      obtain ⟨c, read, h⟩ := Verdict.exists_of_decoding_eq h (by simp)
      have h := Verdict.of_ite_eq (Verdict.of_ite_eq h (by simp)) (by simp)
      have h := Verdict.of_among_eq h (by simp)
      exact ⟨c.mapping, .sqlTableOutput read, Verdict.of_projecting_eq_lacking h (by simp)⟩
  | envVariables | csvFileInput | filterRows | csvFileOutput =>
      obtain ⟨c, -, h⟩ := Verdict.exists_of_decoding_eq h (by simp)
      cases Verdict.of_ite_eq h (by simp)
  | mergeFrames =>
      obtain ⟨c, -, h⟩ := Verdict.exists_of_decoding_eq h (by simp)
      cases Verdict.of_among_eq h (by simp)

theorem assigned_of_ready {b : Builtin} {config : Json} {rows : List (String × String)}
    (h : b.verdict config = .ready (.assign rows)) : rows ≠ [] := by
  cases b with
  | envVariables =>
      obtain ⟨c, -, h⟩ := Verdict.exists_of_decoding_eq h (by simp)
      split at h
      · cases h
      · next filled =>
        cases h
        simpa using filled
  | csvFileInput | filterRows | csvFileOutput =>
      obtain ⟨c, -, h⟩ := Verdict.exists_of_decoding_eq h (by simp)
      cases Verdict.of_ite_eq h (by simp)
  | mergeFrames =>
      obtain ⟨c, -, h⟩ := Verdict.exists_of_decoding_eq h (by simp)
      cases Verdict.of_among_eq h (by simp)
  | columnMapping =>
      obtain ⟨c, -, h⟩ := Verdict.exists_of_decoding_eq h (by simp)
      exact absurd h (Verdict.projecting_ne (by simp) (by simp) (by rintro (_ | _) <;> simp))
  | sqlTableOutput =>
      obtain ⟨c, -, h⟩ := Verdict.exists_of_decoding_eq h (by simp)
      have h := Verdict.of_ite_eq (Verdict.of_ite_eq h (by simp)) (by simp)
      have h := Verdict.of_among_eq h (by simp)
      exact absurd h (Verdict.projecting_ne (by simp) (by simp) (by simp))

/-! ## What comes of a node -/

section Run
variable {b : Builtin} {config : Json} {site : Site} {p q : Progress}

/-- A run says what the verdict says, and a node that is ready is as good as its
questions. -/
theorem run_generate :
    (b.component.generate config).run site p =
      match b.verdict config with
      | .rejected cause _ => .error (.invalid site.node.id cause)
      | .lacking rows => .error (.incomplete site.node.id (.noMappedColumn rows))
      | .idle reason => .ok (.skipped reason, p)
      | .ready layout =>
          (b.asks.run site p).map fun (cast, q) =>
            (.fragment (render (layout.segments cast)), q) := by
  rw [generate_eq]
  cases b.verdict config with
  | rejected cause own => rfl
  | lacking rows => rfl
  | idle reason => rfl
  | ready layout =>
      rw [plan, Plan.run_bind]
      cases b.asks.run site p <;> rfl

theorem of_run_fragment {code : String}
    (h : (b.component.generate config).run site p = .ok (.fragment code, q)) :
    ∃ layout cast, b.verdict config = .ready layout ∧ b.asks.run site p = .ok (cast, q) ∧
      code = render (layout.segments cast) := by
  rw [run_generate] at h
  cases hv : b.verdict config with
  | rejected | lacking | idle => simp [hv] at h
  | ready layout =>
      cases hasks : b.asks.run site p with
      | error e => simp [hv, hasks, Except.map] at h
      | ok r =>
          simp only [hv, hasks, Except.map, Except.ok.injEq, Prod.mk.injEq,
            Generated.fragment.injEq] at h
          obtain ⟨rfl, rfl⟩ := h
          exact ⟨layout, r.1, rfl, rfl, rfl⟩

theorem of_run_skipped {reason : String}
    (h : (b.component.generate config).run site p = .ok (.skipped reason, q)) :
    b.verdict config = .idle reason ∧ q = p := by
  rw [run_generate] at h
  cases hv : b.verdict config with
  | rejected | lacking => simp [hv] at h
  | idle reason' =>
      rw [hv] at h
      cases h
      exact ⟨rfl, rfl⟩
  | ready layout => cases hasks : b.asks.run site p <;> simp [hv, hasks, Except.map] at h

/-- A node fails over its configuration alone, or over one of the variables
that it asks for. -/
theorem of_run_error {e : CompileError}
    (h : (b.component.generate config).run site p = .error e) :
    (∃ cause own, b.verdict config = .rejected cause own ∧ e = .invalid site.node.id cause) ∨
      (∃ rows, b.verdict config = .lacking rows ∧
        e = .incomplete site.node.id (.noMappedColumn rows)) ∨
      ∃ layout, b.verdict config = .ready layout ∧ b.asks.run site p = .error e := by
  rw [run_generate] at h
  cases hv : b.verdict config with
  | rejected cause own =>
      rw [hv] at h
      cases h
      exact Or.inl ⟨cause, own, rfl, rfl⟩
  | lacking rows =>
      rw [hv] at h
      cases h
      exact Or.inr (Or.inl ⟨rows, rfl, rfl⟩)
  | idle reason => simp [hv] at h
  | ready layout =>
      refine Or.inr (Or.inr ⟨layout, rfl, ?_⟩)
      cases hasks : b.asks.run site p with
      | error e' => simpa [hv, hasks, Except.map] using h
      | ok r => simp [hv, hasks, Except.map] at h

end Run

/-! ## What the questions come to -/

section Asks
variable {b : Builtin} {site : Site} {p q : Progress}

theorem asks_inputs {c : Cast} (h : b.asks.run site p = .ok (c, q)) {i : Nat}
    (hi : i < b.component.inputs.length) : ∃ v, site.input i = .ok v := by
  obtain ⟨inputs, p₁, hinputs, -⟩ := Plan.exists_of_run_bind_ok h
  obtain ⟨-, answers⟩ := Plan.run_needInputs hinputs
  have mem : site.input i ∈ (List.range' 0 b.component.inputs.length).map site.input :=
    List.mem_map_of_mem (List.mem_range'_1.mpr ⟨Nat.zero_le i, by omega⟩)
  obtain ⟨v, -, hv⟩ := List.mem_map.mp (answers ▸ mem)
  exact ⟨v, hv.symm⟩

theorem asks_outputs {c : Cast} (h : b.asks.run site p = .ok (c, q))
    (ports : p.outputs.length = b.component.outputs.length) : none ∉ q.outputs := by
  obtain ⟨inputs, p₁, hinputs, h⟩ := Plan.exists_of_run_bind_ok h
  obtain ⟨outputs, p₂, houtputs, h⟩ := Plan.exists_of_run_bind_ok h
  obtain ⟨own, p₃, hown, h⟩ := Plan.exists_of_run_bind_ok h
  cases h
  obtain ⟨rfl, -⟩ := Plan.run_needInputs hinputs
  obtain ⟨vs, p₄, hvs, filled⟩ := @Plan.run_publishAll site p₁ _ 0 (by rw [ports, Nat.zero_add])
  cases hvs.symm.trans houtputs
  obtain ⟨fresh, p₅, hfresh, kept⟩ := @Plan.run_freshAll site b.ownBases p₂
  cases hfresh.symm.trans hown
  rw [kept, filled]
  simp

theorem asks_error {e : CompileError} (h : b.asks.run site p = .error e)
    (ports : p.outputs.length = b.component.outputs.length) :
    ∃ i < b.component.inputs.length, site.input i = .error e := by
  rcases Plan.of_run_bind_error h with h | ⟨inputs, p₁, hinputs, later⟩
  · obtain ⟨i, hi, he⟩ := Plan.exists_of_run_needInputs_error h
    exact ⟨i, by simpa using List.mem_range'_1.mp hi, he⟩
  obtain ⟨rfl, -⟩ := Plan.run_needInputs hinputs
  obtain ⟨vs, p₂, hvs, -⟩ := @Plan.run_publishAll site p₁ _ 0 (by rw [ports, Nat.zero_add])
  rcases Plan.of_run_bind_error later with h | ⟨outputs, p₃, -, later⟩
  · cases hvs.symm.trans h
  obtain ⟨fresh, p₄, hfresh, -⟩ := @Plan.run_freshAll site b.ownBases p₃
  rcases Plan.of_run_bind_error later with h | ⟨own, p₅, -, later⟩
  · cases hfresh.symm.trans h
  · cases later

end Asks

end Builtin

end PipelineScript.Catalog
