/-
# From a drawing to a pipeline

The nodes come first: their types are resolved and their saved
configuration is laid over the default one.  Then the edges are drawn in
order, both handles being resolved against the ports of the nodes.
-/
import PipelineScript.Canvas.Basic
import PipelineScript.Graph.Edit
import PipelineScript.Text.Blank
import PipelineScript.Text.Ordinal

namespace PipelineScript.Canvas

/-- Why a drawing is no pipeline. -/
inductive ConversionError where
  | unreadable (cause : Json.ReadError)
  | unknownHandle (edge node handle : String)
  | graph (cause : GraphError)
deriving Repr

def ConversionError.message : ConversionError → String
  | unreadable cause => "Failed to parse pipeline JSON: " ++ cause.message
  | unknownHandle edge node handle =>
    "Edge '" ++ edge ++ "' references handle '" ++ handle ++
      "' which does not exist on node '" ++ node ++ "'"
  | graph cause => cause.message

/-- The saved configuration over the default one: field by field when both
are objects; null stands for the default. -/
def mergeDefaults (defaults saved : Json) : Json :=
  match defaults, saved with
  | defaults, .null => defaults
  | .obj base, .obj top => .obj (Json.Entries.overlay base top)
  | _, saved => saved

/-- The part of a handle that may be an index: what stands behind its last
hyphen, or all of it. -/
def indexPart (handle : String) : String :=
  String.ofList (handle.toList.reverse.takeWhile (· != '-')).reverse

/-- The port of a trimmed handle: the first port for an empty handle,
the port of that name, or else the port of that index.  Without a port, the
handle as it is reported. -/
def portOf (ports : List String) (handle : String) : Except String String :=
  if handle == "" then
    match ports with
    | p :: _ => .ok p
    | [] => .error "<none>"
  else if ports.contains handle then .ok handle
  else
    match (Text.ordinalOfText? (indexPart handle)).bind fun i => ports[i.toNat]? with
    | some p => .ok p
    | none => .error handle

/-- The port that a handle of a node means.  A node that is not there has
any port, so that drawing the edge reports the node. -/
def resolveHandle (g : Graph) (node : String) (side : Side) (handle : Option String) :
    Except String String :=
  match g.node? node with
  | none => .ok (handle.getD "")
  | some n => portOf (n.ports side) (Text.trim (handle.getD ""))

/-- What an edit makes of the pipeline, or why it cannot be drawn. -/
def edited {α : Type} (g : Graph) (m : Editing α) : Except ConversionError Graph :=
  match m.run g with
  | .ok _ g => .ok g
  | .error e _ => .error (.graph e)

/-- Adds a node of the drawing. -/
def addNode (r : Registry) (g : Graph) (n : CanvasNode) : Except ConversionError Graph :=
  match r.resolve n.type with
  | .error e => .error (.graph (.registry e))
  | .ok c =>
    edited g (Graph.insertNode (c.newNode n.id (mergeDefaults c.defaultConfig n.data.config)))

/-- Adds an edge of the drawing. -/
def addEdge (g : Graph) (e : CanvasEdge) : Except ConversionError Graph :=
  match resolveHandle g e.source .output e.sourceHandle with
  | .error handle => .error (.unknownHandle e.label e.source handle)
  | .ok sourcePort =>
    match resolveHandle g e.target .input e.targetHandle with
    | .error handle => .error (.unknownHandle e.label e.target handle)
    | .ok targetPort => edited g (Graph.connect e.source sourcePort e.target targetPort)

/-- The pipeline of a drawing. -/
def Document.toGraph (d : Document) (r : Registry) : Except ConversionError Graph := do
  let g ← d.nodes.foldlM (addNode r) {}
  d.edges.foldlM addEdge g

/-- The pipeline of a drawing given as text. -/
def graphOfText (r : Registry) (s : String) : Except ConversionError Graph :=
  match Document.parse s with
  | .error e => .error (.unreadable e)
  | .ok d => d.toGraph r

end PipelineScript.Canvas
