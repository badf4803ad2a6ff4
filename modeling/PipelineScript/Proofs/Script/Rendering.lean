/-
# A program comes apart into its parts

`render` puts a program together from its imports and its fragments, with blank
lines between them.  Whatever the standard components write, the program splits
at its blank lines into the block of imports and the code of each fragment, and
the first block splits at its line feeds into the import statements
(`render_comes_apart`).

So no code may have a blank line in it, be empty or end in a line feed.  Code is
laid out in lines (`Catalog.Layout.lines`): on none of them is there a line feed,
neither in a literal nor in the name of a variable, and each of them ends in
something visible (`isBlock_render`).
-/
import PipelineScript.Proofs.Catalog.Variables
import PipelineScript.Proofs.Compile.Imports
import PipelineScript.Proofs.Text.Blocks

namespace PipelineScript

open Catalog Compile
open Text (IsLine IsBlock render)

/-! ## The code of a fragment -/

namespace Catalog

variable {line : List (Text.Segment String)}

theorem isLine_render (firm : Firm line) (lacks : ∀ s ∈ line, s.Lacks '\n') :
    IsLine (render line) where
  unbroken := Text.newline_not_mem_render lacks
  tight := by
    obtain ⟨last, hlast, closing⟩ := firm
    obtain ⟨front, rfl⟩ := List.getLast?_eq_some_iff.mp hlast
    have written : ∃ cs x, last.written.toList = cs ++ [x] ∧ Text.isBlank x = false := by
      cases last with
      | code s =>
          obtain ⟨x, hx, visible⟩ := Option.map_eq_some_iff.mp closing
          obtain ⟨cs, hs⟩ := List.getLast?_eq_some_iff.mp hx
          exact ⟨cs, x, hs, visible⟩
      | literal value =>
          exact ⟨'"' :: value.toList.flatMap Text.escapeChar, '"', by
            simp [Text.literal, Text.literalChars], by decide⟩
    obtain ⟨cs, x, hwritten, visible⟩ := written
    refine ⟨(render front).toList ++ cs, x, ?_, visible⟩
    rw [Text.render_append, Text.render_cons, Text.render_nil, String.append_empty,
      String.toList_append, hwritten, List.append_assoc]

theorem isBlock_render {c : Cast} (lacks : c.Lacks '\n') {l : Layout String}
    (full : l.lines c ≠ []) : IsBlock (render (l.segments c)) := by
  rw [render_lines]
  refine Text.isBlock_intercalate (mt List.map_eq_nil_iff.mp full) ?_
  intro s hs
  obtain ⟨line, hline, rfl⟩ := List.mem_map.mp hs
  exact isLine_render (firm_lines c l line hline) (lacks_lines (Or.inr rfl) lacks l line hline)

theorem Builtin.lines_ne_nil {b : Builtin} {config : Json} {l : Layout String}
    (h : b.verdict config = .ready l) (c : Cast) : l.lines c ≠ [] := by
  cases l with
  | readFile | writeFile | query | select | join | store => exact List.cons_ne_nil _ _
  | assign rows => exact mt List.map_eq_nil_iff.mp (assigned_of_ready h)

/-- All code that goes into a script of the standard components is a block. -/
theorem isBlock_of_mem_stages {g : Graph} {t : Stage} (ht : t ∈ stages Registry.standard g)
    {code : String} {p : Progress} (h : t.result g = .ok (.fragment code, p)) : IsBlock code := by
  have told := told_of_mem_stages (fun b => b.yields_lacking (Or.inr rfl)) ht
  obtain ⟨b, hb⟩ := Builtin.exists_of_find_standard (component_of_mem_stages ht).2
  rw [Stage.result, Stage.plan, ← hb] at h
  obtain ⟨layout, cast, ready, hasks, rfl⟩ := Builtin.of_run_fragment h
  obtain ⟨-, inputs, outputs, own⟩ := told.asks (b.yields_lacking (Or.inr rfl)).2 hasks
  exact isBlock_render ⟨inputs, outputs, own⟩ (Builtin.lines_ne_nil ready cast)

theorem Builtin.imports_spec (b : Builtin) (config : Json) :
    b.component.imports config ≠ [] ∧ ∀ i ∈ b.component.imports config, IsLine i := by
  have os : IsLine importOs := ⟨by decide, "import o".toList, 's', by decide, by decide⟩
  have pandas : IsLine importPandas :=
    ⟨by decide, "import pandas as p".toList, 'd', by decide, by decide⟩
  have sqlalchemy : IsLine importSqlalchemy :=
    ⟨by decide, "import sqlalchem".toList, 'y', by decide, by decide⟩
  cases b with
  | envVariables => exact ⟨List.cons_ne_nil _ _, List.forall_mem_singleton.mpr os⟩
  | csvFileInput | filterRows | columnMapping | mergeFrames | csvFileOutput =>
      exact ⟨List.cons_ne_nil _ _, List.forall_mem_singleton.mpr pandas⟩
  | sqlTableOutput =>
      have both := List.forall_mem_cons.mpr ⟨pandas, List.forall_mem_singleton.mpr sqlalchemy⟩
      exact ⟨List.cons_ne_nil _ _, both⟩

end Catalog

/-! ## The parts of a script -/

/-- The parts can be found again: code comes in blocks, imports in lines, and one
does not come without the other. -/
structure Printable (statements : List String) (fragments : List Fragment) : Prop where
  codes : ∀ f ∈ fragments, IsBlock f.code
  imports : ∀ i ∈ statements, IsLine i
  together : fragments = [] ↔ statements = []

theorem printable_next {g : Graph} {t : Stage} (ht : t ∈ stages Registry.standard g)
    {generated : Generated} {p : Progress} (hr : t.result g = .ok (generated, p))
    (h : Printable t.walk.imports.statements t.walk.fragments) :
    Printable (t.next generated p).imports.statements (t.next generated p).fragments := by
  cases generated with
  | skipped reason => exact h
  | fragment code =>
      have block := isBlock_of_mem_stages ht hr
      obtain ⟨b, hb⟩ := Builtin.exists_of_find_standard (component_of_mem_stages ht).2
      obtain ⟨full, lines⟩ := b.imports_spec t.node.config
      rw [hb] at full lines
      obtain ⟨i, hi⟩ := List.exists_mem_of_ne_nil _ full
      have there : i ∈ (t.walk.imports.extend (t.component.imports t.node.config)).statements :=
        Imports.mem_extend.mpr (Or.inr ⟨hi, (lines i hi).isBlankText_eq⟩)
      refine ⟨fun f hf => ?_, fun j hj => ?_, ?_⟩
      · rcases List.mem_append.mp hf with hf | hf
        · exact h.codes f hf
        · obtain rfl := List.mem_singleton.mp hf
          show IsBlock (Text.trimEnd code)
          rwa [block.trimEnd_eq]
      · rcases Imports.mem_extend.mp hj with hj | ⟨hj, -⟩
        · exact h.imports j hj
        · exact lines j hj
      · exact iff_of_false (by simp [Stage.next, Walk.record]) (List.ne_nil_of_mem there)

theorem printable_of_compile {header : Option String} {g : Graph} {s : Script}
    (h : compile Registry.standard header g = .ok s) : Printable s.imports s.fragments := by
  obtain ⟨order, w, ho, hv, rfl⟩ := compile_eq_ok_iff.mp h
  refine visitAll_induction (P := fun _ w => Printable w.imports.statements w.fragments) hv
    ⟨by simp, by simp, by simp⟩ ?_
  intro _ t generated p ht printable hr
  exact printable_next (stages_of_order ho ▸ ht) hr printable

/-! ## The program -/

namespace Script

variable {s : Script}

/-- The program is taken apart into the parts it was put together from. -/
structure ComesApart (s : Script) : Prop where
  /-- No fragment is without code. -/
  codes : ∀ f ∈ s.fragments, f.code ≠ ""
  empty : s.fragments = [] → s.render = "\n"
  /-- Without the last line feed there is one block more than there are
  fragments: the import statements, one a line. -/
  parts : s.fragments ≠ [] → ∃ text imports, s.render = text ++ "\n" ∧
    Text.blocks text = imports :: s.fragments.map (·.code) ∧
    imports.toList.splitOn '\n' = s.imports.map String.toList

theorem intercalate_ne_empty {first : String} (h : first ≠ "") (separator : String)
    (rest : List String) : separator.intercalate (first :: rest) ≠ "" := by
  cases rest with
  | nil => rwa [String.intercalate_singleton]
  | cons next rest =>
      rw [String.intercalate_cons_cons, Ne, String.append_eq_empty_iff, String.append_eq_empty_iff]
      exact fun empty => h empty.1.1

/-- Nothing is filtered out, and there is one blank line between any two parts. -/
theorem render_of_printable (h : Printable s.imports s.fragments) (bare : s.header = none) :
    s.render =
      if s.fragments = [] then "\n"
      else "\n\n".intercalate (s.importsBlock :: s.fragments.map (·.code)) ++ "\n" := by
  have header : s.headerSection = [] := by rw [headerSection, bare]
  by_cases none : s.fragments = []
  · rw [if_pos none]
    simp [render, sections, header, importsBlock, bodyBlock, none, h.together.mp none]
  · have imports : s.importsBlock ≠ "" :=
      (Text.isBlock_intercalate (mt h.together.mpr none) h.imports).ne_empty
    have codes : ∀ code ∈ s.fragments.map (·.code), code ≠ "" := by
      intro code hcode
      obtain ⟨f, hf, rfl⟩ := List.mem_map.mp hcode
      exact (h.codes f hf).ne_empty
    have full : s.fragments.map (·.code) ≠ [] := mt List.map_eq_nil_iff.mp none
    have body : s.bodyBlock = "\n\n".intercalate (s.fragments.map (·.code)) := by
      rw [bodyBlock, List.filter_eq_self.mpr]
      intro code hcode
      simpa using codes code hcode
    have written : s.bodyBlock ≠ "" := by
      obtain ⟨code, rest, hcodes⟩ := List.exists_cons_of_ne_nil full
      rw [body, hcodes]
      exact intercalate_ne_empty (codes code (hcodes ▸ List.mem_cons_self)) _ rest
    have parts : s.sections = [s.importsBlock, s.bodyBlock] := by
      simp [sections, header, imports, written]
    rw [if_neg none, render, parts, String.intercalate_cons_cons, String.intercalate_singleton,
      body, String.intercalate_cons_of_ne_nil full]

theorem comesApart_of_printable (h : Printable s.imports s.fragments) (bare : s.header = none) :
    s.ComesApart where
  codes f hf := (h.codes f hf).ne_empty
  empty none := by rw [render_of_printable h bare, if_pos none]
  parts full := by
    have imports := mt h.together.mpr full
    refine ⟨_, s.importsBlock, by rw [render_of_printable h bare, if_neg full], ?_, ?_⟩
    · refine Text.blocks_intercalate (List.cons_ne_nil _ _) (List.forall_mem_cons.mpr ⟨?_, ?_⟩)
      · exact Text.isBlock_intercalate imports h.imports
      · exact List.forall_mem_map.mpr h.codes
    · exact Text.splitOn_intercalate_lines imports h.imports

end Script

/-- **A program comes apart into its parts.**  Whatever a graph of standard
components is configured with, the program splits at its blank lines into the
block of imports and the code of each fragment, in order. -/
theorem render_comes_apart (g : Graph) (s : Script)
    (h : compile Registry.standard none g = .ok s) : s.ComesApart := by
  have printable := printable_of_compile h
  obtain ⟨order, w, -, -, rfl⟩ := compile_eq_ok_iff.mp h
  exact Script.comesApart_of_printable printable rfl

/-! Variables, a file and a table, with blank lines wherever the user can put
them. -/

def spaced : Graph where
  nodes := [⟨"v", "envVariables", .obj [("variables", .arr [
      .obj [("key", .str "0"), ("name", .str "\n\nA\n\n"), ("value", .str "1\n\n2")],
      .obj [("key", .str "1"), ("name", .str "B"), ("value", .str "\n")]])], [], []⟩,
    ⟨"f", "csvFileInput", .obj [("filePath", .str "a\n\n.csv")], [], ["out"]⟩,
    ⟨"t", "sqlTableOutput", .obj [("dbOptions", .obj [("databaseName", .str "\n\nd"),
      ("host", .str "h\n\n")]), ("tableName", .str "\n\nt")], ["in"], []⟩]
  edges := [⟨"f", "out", "t", "in"⟩]

def spacedScript : Script where
  imports := ["import os", "import pandas as pd", "import sqlalchemy"]
  fragments :=
    [⟨"v", "envVariables", "os.environ[\"A\"] = \"1\\n\\n2\"\nos.environ[\"B\"] = \"\\n\"", []⟩,
      ⟨"f", "csvFileInput", "source1 = pd.read_csv(\"a\\n\\n.csv\", sep=\",\")", [some "source1"]⟩,
      ⟨"t", "sqlTableOutput",
        "engine1 = sqlalchemy.create_engine(\"mysql+pymysql://:@h\\n\\n:/\\n\\nd\")\n" ++
          "source1.to_sql(name=\"t\", con=engine1, if_exists=\"append\", index=False)", []⟩]

theorem render_comes_apart_spaced :
    compile Registry.standard none spaced = .ok spacedScript ∧ spacedScript.ComesApart := by
  have h : compile Registry.standard none spaced = .ok spacedScript :=
    ok_of_toOption (by decide +kernel)
  exact ⟨h, render_comes_apart spaced spacedScript h⟩

end PipelineScript
