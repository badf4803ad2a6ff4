/-
# Settings in YAML

Settings are written as mappings, of which every entry may be missing and
unknown ones are ignored.  A known key stands at most once.  A text is any
scalar as it is written, whatever it looks like; only where a text is
optional does a null stand for none.
-/
import PipelineScript.Settings.Basic
import PipelineScript.Yaml.Node
import PipelineScript.Yaml.Number

namespace PipelineScript

open Yaml

/-- Is this one of the spellings of null? -/
def isNullText (text : String) : Bool :=
  ["~", "null", "Null", "NULL"].contains text

namespace Yaml.Document

/-- The text of a scalar. -/
def text? (d : Document) (n : Node) : Option String :=
  match d.resolve? n with
  | some (.scalar _ text _ _) => some text
  | _ => none

/-- A text, or none where null stands or nothing. -/
def optionalText? (d : Document) (n : Node) : Option (Option String) :=
  match d.resolve? n with
  | some (.scalar _ text .plain none) =>
    some (if text.isEmpty || isNullText text then none else some text)
  | some (.scalar _ text .plain (some tag)) =>
    if tag == "tag:yaml.org,2002:null" then (if isNullText text then some none else none)
    else some (some text)
  | some (.scalar _ text _ _) => some (some text)
  | _ => none

/-- A number, which stands without quotes, or as a literal block that is
tagged as a number. -/
def natural? (d : Document) (n : Node) : Option Nat :=
  match d.resolve? n with
  | some (.scalar _ text .plain _) => number? text
  | some (.scalar _ text .literal (some "tag:yaml.org,2002:int")) => number? text
  | _ => none

/-- The entries of a mapping by the text of their keys; none where nothing
stands. -/
def entries? (d : Document) (n : Node) : Option (List (String × Node)) :=
  match d.resolve? n with
  | some (.mapping _ entries) => entries.mapM fun (k, v) => (d.text? k).map (·, v)
  | some (.scalar _ "" .plain _) => some []
  | _ => none

/-- The value of a key, or the usual one when the key is missing. -/
def value? {α : Type} (entries : List (String × Node)) (key : String) (usual : α)
    (read : Node → Option α) : Option α :=
  match entries.filter (·.1 == key) with
  | [] => some usual
  | [(_, v)] => read v
  | _ => none

end Yaml.Document

namespace Settings

def backend? (d : Document) (n : Yaml.Node) : Option BackendSettings := do
  let usual : BackendSettings := {}
  let entries ← d.entries? n
  return {
    endpoint := ← Document.value? entries "endpoint" usual.endpoint d.text?
    timeoutMs := ← Document.value? entries "timeout-ms" usual.timeoutMs d.natural? }

def script? (d : Document) (n : Yaml.Node) : Option ScriptSettings := do
  let entries ← d.entries? n
  return { header := ← Document.value? entries "header" none d.optionalText? }

/-- The settings that a YAML text writes. -/
def ofYaml? (text : String) : Option Settings := do
  let d ← Document.ofText? text
  match d.root with
  | none => return {}
  | some root =>
    let entries ← d.entries? root
    return {
      backend := ← Document.value? entries "introspection" {} (backend? d)
      script := ← Document.value? entries "compiler" {} (script? d) }

end Settings

end PipelineScript
