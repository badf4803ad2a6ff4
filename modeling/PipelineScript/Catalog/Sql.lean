/-
# SQL tables

Writes a frame into a table of an external database, reshaped by a mapping
table if there is one.
-/
import PipelineScript.Catalog.Projection
import PipelineScript.Schema.Connection

namespace PipelineScript.Catalog

open Json

structure SqlConfig where
  connection : Connection
  tableName : String
  ifExists : String
  mapping : List MappingRow
deriving Repr, DecidableEq

def SqlConfig.decode : Decoder SqlConfig :=
  .record "struct SqlTableConfig" 4 fun s w =>
    mk <$> (withDefault 0 "dbOptions" Connection.decode {}).read s w <*>
      (withDefault 1 "tableName" .text "").read s w <*>
      (withDefault 2 "ifExists" .text "append").read s w <*>
      (withDefault 3 "mapping" (.list MappingRow.decode) []).read s w

/-- What to do with a table that exists. -/
def ifExistsKinds : List String := ["fail", "replace", "append"]

def sqlTableOutput : Component where
  identity := "sqlTableOutput"
  display := "SQL Table Output"
  category := "Outputs"
  kind := .output
  icon := "database"
  defaultConfig := .obj
    [("dbOptions", Connection.encode { port := "3306" }), ("ifExists", .str "append"),
      ("mapping", .arr []), ("tableName", .str "")]
  imports _ := [importPandas, importSqlalchemy]
  generate config := do
    let c ← decodeConfig SqlConfig.decode config
    if !c.connection.isComplete then
      return .skipped "database connection is not configured"
    let table := Text.trim c.tableName
    if table == "" then
      return .skipped "no target table"
    requireOneOf "ifExists" c.ifExists ifExistsKinds
    let suffix := match ← projection c.mapping with
      | none => ""
      | some p => p.code
    let frame ← .needInput 0
    let engine ← .fresh "engine" .done
    return .fragment (engine ++ " = sqlalchemy.create_engine(" ++ Text.literal c.connection.url ++
      ")\n" ++ frame ++ suffix ++ ".to_sql(name=" ++ Text.literal table ++ ", con=" ++ engine ++
      ", if_exists=" ++ Text.literal c.ifExists ++ ", index=False)")

end PipelineScript.Catalog
