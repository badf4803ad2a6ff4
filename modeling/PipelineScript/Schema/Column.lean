/-
# Columns

A column as the schema backend reports it.  A named column is known by its
name, a positional one (of a file without a header line) by its index.
-/
import PipelineScript.Json.Decode

namespace PipelineScript

structure Column where
  label : String
  /-- The name of the column, or its position when it has none. -/
  value : String
  dataType : String
  named : Bool
deriving Repr, DecidableEq

namespace Column

open Json

def labelMember : Member String := { position := 0, name := "label", decode := .text }
def valueMember : Member String := { position := 1, name := "value", decode := .text }
def typeMember : Member String :=
  { position := 2, name := "type", decode := .text, absent := some "", omitted := some "" }
def namedMember : Member Bool :=
  { position := 3, name := "named", decode := .boolean, absent := some true, omitted := some true }

/-- Reads a column; the type may be left out, and a column is named unless
it says otherwise. -/
def decode : Decoder Column :=
  .record "struct SchemaOption" 4 fun s w =>
    mk <$> labelMember.read s w <*> valueMember.read s w <*> typeMember.read s w <*>
      namedMember.read s w

def encode (c : Column) : Json :=
  .obj [("label", .str c.label), ("named", .bool c.named), ("type", .str c.dataType),
    ("value", .str c.value)]

end Column

/-- Writes a list of columns. -/
def encodeColumns (cs : List Column) : Json :=
  .arr (cs.map Column.encode)

end PipelineScript
