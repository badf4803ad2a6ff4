/-
# Canvas documents

What a drawing of a pipeline holds when it is saved: nodes with a type and
form data, and edges between handles.  The drawing knows no ports; a
handle is a text that names one or counts them.
-/
import PipelineScript.Json.RecordReader

namespace PipelineScript.Canvas

/-- The form data of a node. -/
structure FormData where
  label : Option String := none
  config : Json := .null
deriving Repr

structure CanvasNode where
  id : String
  type : String
  data : FormData := {}
deriving Repr

structure CanvasEdge where
  id : Option String := none
  source : String
  sourceHandle : Option String := none
  target : String
  targetHandle : Option String := none
deriving Repr, DecidableEq

/-- What an edge is called in messages. -/
def CanvasEdge.label (e : CanvasEdge) : String :=
  e.id.getD (e.source ++ "->" ++ e.target)

/-- A saved drawing. -/
structure Document where
  nodes : List CanvasNode := []
  edges : List CanvasEdge := []
deriving Repr

/-! ## Reading a document

Each record collects its fields as they come; a field that was read is
`some`, also when what was read is null.
-/

open Json

/-- The field that must be there. -/
def required {α : Type} (name : String) : Option α → Except Mismatch α
  | some a => .ok a
  | none => .error (.missingField name)

/-- The fields of form data read so far. -/
structure FormDraft where
  label : Option (Option String) := none
  config : Option Json := none

def readFormData : Reader FormData :=
  record "struct UiNodeData"
    [{ name := "label", filled := (·.label.isSome)
       read := fun d => do return { d with label := some (← optional text) } },
     { name := "config", aliases := ["formData", "values"], filled := (·.config.isSome)
       read := fun d => do return { d with config := some (← value) } }]
    ({} : FormDraft)
    fun d => .ok { label := d.label.join, config := d.config.getD .null }

/-- The fields of a node read so far. -/
structure NodeDraft where
  id : Option String := none
  type : Option String := none
  data : Option FormData := none

def readNode : Reader CanvasNode :=
  record "struct UiNode"
    [{ name := "id", filled := (·.id.isSome), optionalItem := false
       read := fun d => do return { d with id := some (← text) } },
     { name := "type", aliases := ["nodeType"], filled := (·.type.isSome), optionalItem := false
       read := fun d => do return { d with type := some (← text) } },
     { name := "data", filled := (·.data.isSome)
       read := fun d => do return { d with data := some (← readFormData) } }]
    ({} : NodeDraft)
    fun d => do
      let id ← required "id" d.id
      let type ← required "type" d.type
      return { id, type, data := d.data.getD {} }

/-- The fields of an edge read so far. -/
structure EdgeDraft where
  id : Option (Option String) := none
  source : Option String := none
  sourceHandle : Option (Option String) := none
  target : Option String := none
  targetHandle : Option (Option String) := none

def readEdge : Reader CanvasEdge :=
  record "struct UiEdge"
    [{ name := "id", filled := (·.id.isSome)
       read := fun d => do return { d with id := some (← optional text) } },
     { name := "source", filled := (·.source.isSome), optionalItem := false
       read := fun d => do return { d with source := some (← text) } },
     { name := "source_handle", aliases := ["sourceHandle"], filled := (·.sourceHandle.isSome)
       read := fun d => do return { d with sourceHandle := some (← optional text) } },
     { name := "target", filled := (·.target.isSome), optionalItem := false
       read := fun d => do return { d with target := some (← text) } },
     { name := "target_handle", aliases := ["targetHandle"], filled := (·.targetHandle.isSome)
       read := fun d => do return { d with targetHandle := some (← optional text) } }]
    ({} : EdgeDraft)
    fun d => do
      let source ← required "source" d.source
      let target ← required "target" d.target
      return { id := d.id.join, source, sourceHandle := d.sourceHandle.join, target,
               targetHandle := d.targetHandle.join }

/-- The fields of a document read so far. -/
structure DocumentDraft where
  nodes : Option (List CanvasNode) := none
  edges : Option (List CanvasEdge) := none

def readDocument : Reader Document :=
  record "struct UiPipeline"
    [{ name := "nodes", filled := (·.nodes.isSome)
       read := fun d => do return { d with nodes := some (← list readNode) } },
     { name := "edges", filled := (·.edges.isSome)
       read := fun d => do return { d with edges := some (← list readEdge) } }]
    ({} : DocumentDraft)
    fun d => .ok { nodes := d.nodes.getD [], edges := d.edges.getD [] }

/-- The document that a text holds. -/
def Document.parse (s : String) : Except ReadError Document :=
  readText readDocument s

end PipelineScript.Canvas
