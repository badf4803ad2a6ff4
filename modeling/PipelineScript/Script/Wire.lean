/-
# Scripts as JSON

The written form of a compiled script, and the reading of it.
-/
import PipelineScript.Json.Decode
import PipelineScript.Script.Basic

namespace PipelineScript

open Json

namespace Fragment

def decode : Decoder Fragment :=
  .record "struct NodeFragment" 4 fun s w =>
    mk <$> Member.read { position := 0, name := "node_id", decode := .text } s w <*>
      Member.read { position := 1, name := "component", decode := .text } s w <*>
      Member.read { position := 2, name := "code", decode := .text } s w <*>
      Member.read { position := 3, name := "outputs", decode := .list (.optional .text) } s w

def encode (f : Fragment) : Json :=
  .obj [("code", .str f.code), ("component", .str f.component), ("node_id", .str f.node),
    ("outputs", .arr (f.outputs.map ofString?))]

end Fragment

namespace SkippedNode

def decode : Decoder SkippedNode :=
  .record "struct SkippedNode" 2 fun s w =>
    mk <$> Member.read { position := 0, name := "node_id", decode := .text } s w <*>
      Member.read { position := 1, name := "reason", decode := .text } s w

def encode (n : SkippedNode) : Json :=
  .obj [("node_id", .str n.node), ("reason", .str n.reason)]

end SkippedNode

namespace Script

def decode : Decoder Script :=
  .record "struct CompiledScript" 4 fun s w =>
    mk <$>
      Member.read
        { position := 0, name := "header", decode := .optional .text, absent := some none } s w <*>
      Member.read { position := 1, name := "imports", decode := .list .text } s w <*>
      Member.read { position := 2, name := "fragments", decode := .list Fragment.decode } s w <*>
      Member.read { position := 3, name := "skipped", decode := .list SkippedNode.decode } s w

def encode (s : Script) : Json :=
  .obj [("fragments", .arr (s.fragments.map Fragment.encode)), ("header", ofString? s.header),
    ("imports", ofStrings s.imports), ("skipped", .arr (s.skipped.map SkippedNode.encode))]

end Script

end PipelineScript
