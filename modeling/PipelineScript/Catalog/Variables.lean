/-
# Environment variables

Exports the rows that have a name and a value into the environment of the
script, in row order: of two rows with one name the later one wins.
-/
import PipelineScript.Catalog.Config
import PipelineScript.Table.Row
import PipelineScript.Text.Literal

namespace PipelineScript.Catalog

open Json

structure VariablesConfig where
  rows : List VariableRow
deriving Repr, DecidableEq

def VariablesConfig.decode : Decoder VariablesConfig :=
  .record "struct EnvVariablesConfig" 1 fun s w =>
    mk <$> (withDefault 0 "variables" (.list VariableRow.decode) []).read s w

/-- The rows that are exported. -/
def VariablesConfig.assigned (c : VariablesConfig) : List VariableRow :=
  c.rows.filter fun r => r.isComplete && r.value != ""

/-- The assignment of one row. -/
def assignment (r : VariableRow) : String :=
  "os.environ[" ++ Text.literal (Text.trim r.name) ++ "] = " ++ Text.literal r.value

def envVariables : Component where
  identity := "envVariables"
  display := "Environment Variables"
  category := "Settings"
  kind := .settings
  icon := "key"
  defaultConfig := .obj [("variables", .arr [])]
  variableBase := "env"
  imports _ := [importOs]
  generate config := do
    let c ← decodeConfig VariablesConfig.decode config
    if c.assigned.isEmpty then
      return .skipped "no environment variable has both a name and a value"
    return .fragment ("\n".intercalate (c.assigned.map assignment))

end PipelineScript.Catalog
