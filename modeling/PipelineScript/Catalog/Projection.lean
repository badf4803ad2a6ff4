/-
# Column projections

The complete rows of a mapping table select and rename columns of the
upstream frame.  A projection lists, for each output column, the label of
its input column: the name of a named column, the index of a positional
one.
-/
import PipelineScript.Catalog.Config
import PipelineScript.Table.Row
import PipelineScript.Text.Literal

namespace PipelineScript.Catalog

/-- How a column is addressed in the upstream frame. -/
inductive Label where
  | named (name : String)
  | positional (index : UInt64)
deriving Repr, DecidableEq

/-- The label as code. -/
def Label.code : Label → String
  | named name => Text.literal name
  | positional index => Text.ordinalText index

/-- The label of a column, if it has one. -/
def labelOf (c : Column) : Except Flaw Label :=
  if c.named then .ok (.named c.value)
  else
    match Text.ordinalOfText? (Text.trim c.value) with
    | some index => .ok (.positional index)
    | none => .error (.notAnIndex c.value)

/-- Input labels with the names of their output columns. -/
abbrev Projection := List (Label × String)

namespace Projection

/-- The renaming and the selection as code. -/
def code (p : Projection) : String :=
  ".rename(columns=\x7b" ++
    ", ".intercalate (p.map fun e => e.1.code ++ ": " ++ Text.literal e.2) ++ "\x7d)[" ++
    Text.literalList (p.map Prod.snd) ++ "]"

/-- The entries for complete rows, in order. -/
def ofComplete : List MappingRow → Except Flaw Projection
  | [] => .ok []
  | r :: rest =>
    match r.input with
    | none => ofComplete rest
    | some c => do
      let label ← labelOf c
      let more ← ofComplete rest
      return (label, r.outputName) :: more

end Projection

/-- The projection of a mapping table: none for an empty table, and a
failure for a table without a complete row. -/
def projection (rows : List MappingRow) : Plan (Option Projection) :=
  if rows.isEmpty then .done none
  else
    let complete := rows.filter MappingRow.isComplete
    if complete.isEmpty then .lacks (.noMappedColumn rows.length)
    else
      match Projection.ofComplete complete with
      | .ok p => .done (some p)
      | .error cause => .rejects cause

end PipelineScript.Catalog
