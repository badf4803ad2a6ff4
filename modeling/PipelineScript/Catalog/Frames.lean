/-
# Operations on frames

Filtering the rows of a frame, mapping its columns, and merging two
frames.
-/
import PipelineScript.Catalog.Projection
import PipelineScript.Text.Blank

namespace PipelineScript.Catalog

open Json

structure FilterConfig where
  /-- A query expression on the columns of the frame. -/
  condition : String
deriving Repr, DecidableEq

def FilterConfig.decode : Decoder FilterConfig :=
  .record "struct FilterConfig" 1 fun s w =>
    mk <$> (withDefault 0 "condition" .text "").read s w

/-- Keeps the rows that meet a condition. -/
def filterRows : Component where
  identity := "filterRows"
  display := "Filter Rows"
  category := "Transforms"
  kind := .transform
  icon := "filter"
  defaultConfig := .obj [("condition", .str "")]
  variableBase := "filtered"
  imports _ := [importPandas]
  generate config := do
    let c ← decodeConfig FilterConfig.decode config
    let condition := Text.trim c.condition
    if condition == "" then
      return .skipped "no filter condition"
    let frame ← .needInput 0
    let out ← .publish 0
    return .fragment (out ++ " = " ++ frame ++ ".query(" ++ Text.literal condition ++ ")")

structure MappingConfig where
  mapping : List MappingRow
deriving Repr, DecidableEq

def MappingConfig.decode : Decoder MappingConfig :=
  .record "struct ColumnMappingConfig" 1 fun s w =>
    mk <$> (withDefault 0 "mapping" (.list MappingRow.decode) []).read s w

/-- Renames and selects columns by a mapping table. -/
def columnMapping : Component where
  identity := "columnMapping"
  display := "Column Mapping"
  category := "Transforms"
  kind := .transform
  icon := "columns"
  defaultConfig := .obj [("mapping", .arr [])]
  variableBase := "mapped"
  imports _ := [importPandas]
  generate config := do
    let c ← decodeConfig MappingConfig.decode config
    match ← projection c.mapping with
    | none => return .skipped "the mapping table is empty"
    | some p =>
      let frame ← .needInput 0
      let out ← .publish 0
      return .fragment (out ++ " = " ++ frame ++ p.code)

structure MergeConfig where
  /-- The columns to join on; empty for the common ones. -/
  on : List String
  how : String
deriving Repr, DecidableEq

def MergeConfig.decode : Decoder MergeConfig :=
  .record "struct MergeConfig" 2 fun s w =>
    mk <$> (withDefault 0 "on" (.list .text) []).read s w <*>
      (withDefault 1 "how" .text "inner").read s w

/-- The ways to join. -/
def joinKinds : List String := ["inner", "left", "right", "outer", "cross"]

/-- The join columns as an argument: one column stands without brackets. -/
def MergeConfig.onArgument (c : MergeConfig) : String :=
  match c.on with
  | [] => ""
  | [column] => ", on=" ++ Text.literal column
  | columns => ", on=" ++ Text.literalList columns

/-- Joins two frames. -/
def mergeFrames : Component where
  identity := "mergeFrames"
  display := "Merge"
  category := "Transforms"
  kind := .transform
  icon := "merge"
  defaultConfig := .obj [("how", .str "inner"), ("on", .arr [])]
  inputs := ["left", "right"]
  variableBase := "merged"
  imports _ := [importPandas]
  generate config := do
    let c ← decodeConfig MergeConfig.decode config
    requireOneOf "how" c.how joinKinds
    let left ← .needInput 0
    let right ← .needInput 1
    let out ← .publish 0
    return .fragment (out ++ " = pd.merge(" ++ left ++ ", " ++ right ++ c.onArgument ++
      ", how=" ++ Text.literal c.how ++ ")")

end PipelineScript.Catalog
