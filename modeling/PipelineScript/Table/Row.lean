/-
# Rows of table-shaped configurations

Two kinds of rows live in node configurations: environment variables and
column mappings.  `Row` says what an editable table needs to know of them.
A row uses up an ordinal when its key is the decimal text of one; an
environment variable also by a name such as `ENV_3`.
-/
import PipelineScript.Schema.Column
import PipelineScript.Text.Blank
import PipelineScript.Text.Ordinal

namespace PipelineScript

/-- What an editable table needs to know of its rows. -/
class Row (ρ : Type) where
  /-- A partial update. -/
  Patch : Type
  key : ρ → String
  /-- A new row; the ordinal is not in use in the table. -/
  blank : (key : String) → (ordinal : UInt64) → ρ
  apply : ρ → Patch → ρ
  /-- Only complete rows reach generated code. -/
  isComplete : ρ → Bool
  /-- The ordinals that new rows must not use again. -/
  usedOrdinals : ρ → List UInt64
  encode : ρ → Json
  decode : Json.Decoder ρ

/-- An environment variable.  `fallback` is only shown in the editor. -/
structure VariableRow where
  key : String
  name : String
  value : String
  fallback : String
deriving Repr, DecidableEq

namespace VariableRow

open Json

/-- A text that is empty unless it is given. -/
def textMember (position : Nat) (name : String) : Member String :=
  { position, name, decode := .text, absent := some "", omitted := some "" }

def decode : Decoder VariableRow :=
  .record "struct EnvVariableRow" 4 fun s w =>
    mk <$> Member.read { position := 0, name := "key", decode := .key } s w <*>
      (textMember 1 "name").read s w <*> (textMember 2 "value").read s w <*>
      (textMember 3 "default").read s w

def encode (r : VariableRow) : Json :=
  .obj [("default", .str r.fallback), ("key", .str r.key), ("name", .str r.name),
    ("value", .str r.value)]

/-- New values for some of the texts. -/
structure Patch where
  name : Option String := none
  value : Option String := none
  fallback : Option String := none
deriving Repr, DecidableEq

def apply (r : VariableRow) (p : Patch) : VariableRow :=
  { r with
    name := p.name.getD r.name
    value := p.value.getD r.value
    fallback := p.fallback.getD r.fallback }

/-- Has the variable a name? -/
def isComplete (r : VariableRow) : Bool :=
  !Text.isBlankText r.name

/-- The ordinal in a name that is `ENV_` and a number. -/
def ordinalOfName? (name : String) : Option UInt64 :=
  match name.toList with
  | 'E' :: 'N' :: 'V' :: '_' :: rest => Text.ordinalOfText? (String.ofList rest)
  | _ => none

instance : Row VariableRow where
  Patch := Patch
  key := key
  blank key ordinal := ⟨key, "ENV_" ++ Text.ordinalText ordinal, "", ""⟩
  apply := apply
  isComplete := isComplete
  usedOrdinals r := (Text.ordinalOfText? r.key).toList ++ (ordinalOfName? r.name).toList
  encode := encode
  decode := decode

end VariableRow

/-- The mapping of an upstream column onto a target column. -/
structure MappingRow where
  key : String
  /-- The upstream column, once one has been picked. -/
  input : Option Column
  outputName : String
  outputType : String
deriving Repr, DecidableEq

namespace MappingRow

open Json

def decode : Decoder MappingRow :=
  .record "struct ColumnMappingRow" 4 fun s w =>
    mk <$> Member.read { position := 0, name := "key", decode := .key } s w <*>
      Member.read
        { position := 1, name := "input", decode := .optional Column.decode,
          absent := some none, omitted := some none } s w <*>
      Member.read
        { position := 2, name := "value", aliases := ["outputName"], decode := .text,
          absent := some "", omitted := some "" } s w <*>
      Member.read
        { position := 3, name := "type", aliases := ["outputType"], decode := .text,
          absent := some "", omitted := some "" } s w

def encode (r : MappingRow) : Json :=
  .obj [("input", match r.input with | none => .null | some c => c.encode), ("key", .str r.key),
    ("type", .str r.outputType), ("value", .str r.outputName)]

/-- New values for some parts; the input can also be cleared. -/
structure Patch where
  input : Option (Option Column) := none
  outputName : Option String := none
  outputType : Option String := none
deriving Repr, DecidableEq

def apply (r : MappingRow) (p : Patch) : MappingRow :=
  { r with
    input := p.input.getD r.input
    outputName := p.outputName.getD r.outputName
    outputType := p.outputType.getD r.outputType }

/-- Has the row an input column and a name for its output? -/
def isComplete (r : MappingRow) : Bool :=
  r.input.isSome && !Text.isBlankText r.outputName

instance : Row MappingRow where
  Patch := Patch
  key := key
  blank key ordinal := ⟨key, none, "column_" ++ Text.ordinalText ordinal, ""⟩
  apply := apply
  isComplete := isComplete
  usedOrdinals r := (Text.ordinalOfText? r.key).toList
  encode := encode
  decode := decode

end MappingRow

/-- The rows of a table as JSON. -/
def encodeRows {ρ : Type} [Row ρ] (rows : List ρ) : Json :=
  .arr (rows.map Row.encode)

/-- The rows of a table, from JSON. -/
def decodeRows {ρ : Type} [Row ρ] : Json.Decoder (List ρ) :=
  .list Row.decode

end PipelineScript
