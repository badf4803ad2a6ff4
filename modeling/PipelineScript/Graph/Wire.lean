/-
# Graphs as JSON

The written form of a graph, and the reading of it.  Configurations and
ports may be left out of a node; some fields have a second name.
-/
import PipelineScript.Graph.Basic
import PipelineScript.Json.Decode

namespace PipelineScript

open Json

namespace Node

/-- A list of ports, empty unless it is given. -/
def portsMember (position : Nat) (name : String) : Member (List String) :=
  { position, name, decode := .list .text, absent := some [], omitted := some [] }

def decode : Decoder Node :=
  .record "struct PipelineNode" 5 fun s w =>
    mk <$> Member.read { position := 0, name := "id", decode := .text } s w <*>
      Member.read
        { position := 1, name := "type", aliases := ["componentType"], decode := .text } s w <*>
      Member.read
        { position := 2, name := "config", decode := .raw, absent := some .null,
          omitted := some .null } s w <*>
      (portsMember 3 "inputs").read s w <*> (portsMember 4 "outputs").read s w

def encode (n : Node) : Json :=
  .obj [("config", n.config), ("id", .str n.id), ("inputs", .ofStrings n.inputs),
    ("outputs", .ofStrings n.outputs), ("type", .str n.component)]

end Node

namespace Edge

def decode : Decoder Edge :=
  .record "struct PipelineEdge" 4 fun s w =>
    mk <$> Member.read { position := 0, name := "source", decode := .text } s w <*>
      Member.read
        { position := 1, name := "source_port", aliases := ["sourcePort"], decode := .text } s w <*>
      Member.read { position := 2, name := "target", decode := .text } s w <*>
      Member.read
        { position := 3, name := "target_port", aliases := ["targetPort"], decode := .text } s w

def encode (e : Edge) : Json :=
  .obj [("source", .str e.source), ("source_port", .str e.sourcePort), ("target", .str e.target),
    ("target_port", .str e.targetPort)]

end Edge

namespace Graph

def decode : Decoder Graph :=
  .record "struct PipelineGraph" 2 fun s w =>
    mk <$>
      Member.read
        { position := 0, name := "nodes", decode := .list Node.decode, absent := some [],
          omitted := some [] } s w <*>
      Member.read
        { position := 1, name := "edges", decode := .list Edge.decode, absent := some [],
          omitted := some [] } s w

def encode (g : Graph) : Json :=
  .obj [("edges", .arr (g.edges.map Edge.encode)), ("nodes", .arr (g.nodes.map Node.encode))]

end Graph

end PipelineScript
