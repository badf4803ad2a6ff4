/-
# The imports of a script

`extend` takes statements one after the other, and each is admitted or not by
what has been taken before it.  What comes of a whole list can be said at once:
the statements that would be admitted at the start are added in their order,
each of them once (`extend_statements`).

A walk takes the statements of the nodes that it emits, node after node, and no
others (`collected_of_visitAll`).  That is one list of statements, so what has
been said of such lists holds of the imports of a script (`imports_first_seen`).
-/
import PipelineScript.Compile.Imports
import PipelineScript.Component.Scripted
import PipelineScript.Proofs.Compile.Stage

namespace PipelineScript.Compile

namespace Imports

variable {imports : Imports} {statement : String}

theorem insert_statements (h : imports.admits statement = true) :
    (imports.insert statement).statements = imports.statements ++ [statement] := by
  rw [insert, if_pos h]

theorem insert_of_not_admits (h : imports.admits statement = false) :
    imports.insert statement = imports := by
  simp [insert, h]

theorem admits_insert (h : imports.admits statement = true) (other : String) :
    (imports.insert statement).admits other = (imports.admits other && !(other == statement)) := by
  rw [admits, insert_statements h, admits]
  by_cases he : other = statement <;> simp [he]

/-- The statements of a list that are new, in their order, each once. -/
def news (imports : Imports) (statements : List String) : List String :=
  (statements.filter imports.admits).eraseDups

theorem extend_statements (imports : Imports) (statements : List String) :
    (imports.extend statements).statements = imports.statements ++ imports.news statements := by
  induction statements generalizing imports with
  | nil => exact (List.append_nil _).symm
  | cons statement rest ih =>
      show ((imports.insert statement).extend rest).statements = _
      cases h : imports.admits statement with
      | false =>
          have skipped : imports.news (statement :: rest) = imports.news rest := by
            simp [news, h]
          rw [insert_of_not_admits h, ih, skipped]
      | true =>
          have later : rest.filter (imports.insert statement).admits =
              (rest.filter imports.admits).filter fun other => !(other == statement) := by
            rw [List.filter_filter]
            refine List.filter_congr fun other _ => ?_
            rw [admits_insert h, Bool.and_comm]
          have first : imports.news (statement :: rest) =
              statement :: (imports.insert statement).news rest := by
            rw [news, List.filter_cons_of_pos h, List.eraseDups_cons, news, later]
          rw [ih, insert_statements h, first, List.append_assoc]
          rfl

theorem news_empty (statements : List String) :
    news {} statements = (statements.filter fun s => !Text.isBlankText s).eraseDups := by
  have all : admits {} = fun s => !Text.isBlankText s := funext fun s => Bool.and_true _
  rw [news, all]

theorem extend_append (imports : Imports) (xs ys : List String) :
    imports.extend (xs ++ ys) = (imports.extend xs).extend ys :=
  List.foldl_append

theorem extend_nodup (distinct : imports.statements.Nodup) (statements : List String) :
    (imports.extend statements).statements.Nodup := by
  induction statements generalizing imports with
  | nil => exact distinct
  | cons statement rest ih =>
      refine @ih (imports.insert statement) ?_
      cases h : imports.admits statement with
      | false => rwa [insert_of_not_admits h]
      | true =>
          have new : statement ∉ imports.statements := by
            simp only [admits, Bool.and_eq_true, Bool.not_eq_true'] at h
            simpa using h.2
          rw [insert_statements h]
          exact List.concat_eq_append ▸ distinct.concat new

theorem mem_extend {statements : List String} :
    statement ∈ (imports.extend statements).statements ↔ statement ∈ imports.statements ∨
      statement ∈ statements ∧ Text.isBlankText statement = false := by
  rw [extend_statements, List.mem_append, news, List.mem_eraseDups, List.mem_filter, admits]
  by_cases h : statement ∈ imports.statements <;> simp [h]

end Imports

/-! ## Of a walk -/

variable {r : Registry} {g : Graph}

/-- The fragment of the node, if it was emitted. -/
def Stage.fragment? (g : Graph) (t : Stage) : Option Fragment :=
  match t.result g with
  | .ok (.fragment code, p) => some ⟨t.node.id, t.node.component, Text.trimEnd code, p.outputs⟩
  | _ => none

/-- The stages at which a node was emitted. -/
def emitted (g : Graph) (ts : List Stage) : List Stage :=
  ts.filter fun t => (t.fragment? g).isSome

/-- The statements that the nodes need, node after node. -/
def needed (ts : List Stage) : List String :=
  ts.flatMap fun t => t.component.imports t.node.config

section Result
variable {t : Stage} {p : Progress}

theorem Stage.fragment?_of_fragment {code : String} (hr : t.result g = .ok (.fragment code, p)) :
    t.fragment? g = some ⟨t.node.id, t.node.component, Text.trimEnd code, p.outputs⟩ := by
  rw [Stage.fragment?, hr]

theorem Stage.fragment?_of_skipped {reason : String}
    (hr : t.result g = .ok (.skipped reason, p)) : t.fragment? g = none := by
  rw [Stage.fragment?, hr]

theorem Stage.exists_of_fragment? (h : (t.fragment? g).isSome) :
    ∃ code p, t.result g = .ok (.fragment code, p) := by
  unfold Stage.fragment? at h
  split at h
  · next code p hr => exact ⟨code, p, hr⟩
  · cases h

theorem emitted_concat_of_some {f : Fragment} (h : t.fragment? g = some f) (ts : List Stage) :
    emitted g (ts ++ [t]) = emitted g ts ++ [t] := by
  rw [emitted, List.filter_append, List.filter_singleton, h]
  rfl

theorem emitted_concat_of_none (h : t.fragment? g = none) (ts : List Stage) :
    emitted g (ts ++ [t]) = emitted g ts := by
  rw [emitted, List.filter_append, List.filter_singleton, h]
  exact List.append_nil _

theorem needed_concat (ts : List Stage) :
    needed (ts ++ [t]) = needed ts ++ t.component.imports t.node.config := by
  simp [needed]

end Result

/-- What the emitted nodes leave: a fragment each, and their statements, taken
one after the other. -/
structure Collected (g : Graph) (ts : List Stage) (w : Walk) : Prop where
  fragments : (emitted g ts).map (·.fragment? g) = w.fragments.map some
  imports : w.imports = ({} : Imports).extend (needed (emitted g ts))

theorem Collected.next {ts : List Stage} {t : Stage} {generated : Generated} {p : Progress}
    (h : Collected g ts t.walk) (hr : t.result g = .ok (generated, p)) :
    Collected g (ts ++ [t]) (t.next generated p) := by
  cases generated with
  | fragment code =>
      have own := Stage.fragment?_of_fragment hr
      have longer := emitted_concat_of_some own ts
      refine ⟨?_, ?_⟩
      · rw [longer, List.map_append, h.fragments, List.map_singleton, own]
        simp [Stage.next, Walk.record]
      · rw [longer, needed_concat, Imports.extend_append, ← h.imports]
        rfl
  | skipped reason =>
      have same := emitted_concat_of_none (Stage.fragment?_of_skipped hr) ts
      exact ⟨same ▸ h.fragments, same ▸ h.imports⟩

theorem collected_of_visitAll {w : Walk} {ns : List Node} (h : Walk.visitAll r g {} ns = .ok w) :
    Collected g (Walk.stages r g {} ns) w :=
  visitAll_induction h ⟨rfl, rfl⟩ fun _ _ _ _ _ collected hr => collected.next hr

/-- Every statement was brought by a node that was emitted at one of these
stages. -/
def Imported (g : Graph) (ts : List Stage) (w : Walk) : Prop :=
  ∀ statement ∈ w.imports.statements, ∃ t ∈ ts,
    (∃ code p, t.result g = .ok (.fragment code, p)) ∧
      statement ∈ t.component.imports t.node.config

theorem imported_of_visitAll {w : Walk} {ns : List Node} (h : Walk.visitAll r g {} ns = .ok w) :
    Imported g (Walk.stages r g {} ns) w := by
  intro statement hs
  rw [(collected_of_visitAll h).imports] at hs
  rcases Imports.mem_extend.mp hs with hs | ⟨hs, -⟩
  · cases hs
  · obtain ⟨t, ht, brought⟩ := List.mem_flatMap.mp hs
    obtain ⟨ht, emitted⟩ := List.mem_filter.mp ht
    exact ⟨t, ht, Stage.exists_of_fragment? emitted, brought⟩

end PipelineScript.Compile

/-! ## Of a script -/

namespace PipelineScript

open Compile

/-- The imports of a script are what its emitted nodes need, each text once and
where it was seen first. -/
structure FirstSeen (r : Registry) (g : Graph) (s : Script) : Prop where
  /-- The fragments are those of the emitted nodes, in order. -/
  fragments : (emitted g (stages r g)).map (·.fragment? g) = s.fragments.map some
  /-- Blank statements go, and of equal ones all but the first. -/
  union : s.imports = ((needed (emitted g (stages r g))).filter
    fun statement => !Text.isBlankText statement).eraseDups
  distinct : s.imports.Nodup
  visible : ∀ statement ∈ s.imports, Text.isBlankText statement = false

/-- **Imports are the first-seen union** of what the emitted nodes need, whatever
their components import. -/
theorem imports_first_seen (r : Registry) (header : Option String) (g : Graph) (s : Script)
    (h : compile r header g = .ok s) : FirstSeen r g s := by
  obtain ⟨order, w, ho, hv, rfl⟩ := compile_eq_ok_iff.mp h
  have collected : Collected g (stages r g) w := stages_of_order ho ▸ collected_of_visitAll hv
  have statements := congrArg Imports.statements collected.imports
  have union : w.imports.statements = ((needed (emitted g (stages r g))).filter
      fun statement => !Text.isBlankText statement).eraseDups := by
    rw [statements, Imports.extend_statements, Imports.news_empty]
    rfl
  refine ⟨collected.fragments, union, ?_, fun statement hs => ?_⟩
  · show w.imports.statements.Nodup
    rw [statements]
    exact Imports.extend_nodup List.nodup_nil _
  · rw [union, List.mem_eraseDups, List.mem_filter, Bool.not_eq_true'] at hs
    exact hs.2

/-! A node that brings a statement twice and a blank one, a skipped node, and one
that brings what the first has brought, with other blanks in it as well. -/

/-- Carries out the steps of its configuration. -/
def scripted : Component :=
  ({ identity := "steps", display := "Steps", category := "Test", kind := .settings } :
    Scripted.Spec).component

/-- A configuration with these import statements and these steps. -/
def bringing (imports : List String) (steps : List Json) : Json :=
  .obj [("imports", .arr (imports.map .str)), ("steps", .arr steps)]

def repeating : Graph where
  nodes := [⟨"a", "steps", bringing ["import os", "", "import json", "import os"] [], [], []⟩,
    ⟨"b", "steps", bringing ["import doubt"] [.arr [.str "skip", .str "why not"]], [], []⟩,
    ⟨"c", "steps", bringing ["import json", " \t", "import  os", "import os "] [], [], []⟩]
  edges := []

def repeatingScript : Script where
  imports := ["import os", "import json", "import  os", "import os "]
  fragments := [⟨"a", "steps", "", []⟩, ⟨"c", "steps", "", []⟩]
  skipped := [⟨"b", "why not"⟩]

theorem imports_first_seen_repeating :
    compile ⟨[scripted]⟩ none repeating = .ok repeatingScript ∧
      FirstSeen ⟨[scripted]⟩ repeating repeatingScript := by
  have h : compile ⟨[scripted]⟩ none repeating = .ok repeatingScript :=
    ok_of_toOption (by decide +kernel)
  exact ⟨h, imports_first_seen _ none repeating repeatingScript h⟩

end PipelineScript
