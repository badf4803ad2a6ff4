/-
# CSV files

Reading a frame from a CSV file and writing one to it.  Without a file
path there is nothing to do.
-/
import PipelineScript.Catalog.Config
import PipelineScript.Text.Blank
import PipelineScript.Text.Literal

namespace PipelineScript.Catalog

open Json

structure CsvConfig where
  filePath : String
  separator : String
  /-- Does the first line hold column names?  Only asked when reading. -/
  header : Bool
deriving Repr, DecidableEq

namespace CsvConfig

def decode : Decoder CsvConfig :=
  .record "struct CsvFileConfig" 3 fun s w =>
    mk <$> (withDefault 0 "filePath" .text "").read s w <*>
      (withDefault 1 "separator" .text ",").read s w <*>
      (withDefault 2 "header" .boolean true).read s w

/-- The configuration of a new node. -/
def initial : Json :=
  .obj [("filePath", .str ""), ("header", .bool true), ("separator", .str ",")]

/-- The separator as code; an empty one counts as a comma. -/
def separatorCode (c : CsvConfig) : String :=
  Text.literal (if c.separator == "" then "," else c.separator)

end CsvConfig

def csvFileInput : Component where
  identity := "csvFileInput"
  display := "CSV File Input"
  category := "Inputs"
  kind := .input
  icon := "file-csv"
  defaultConfig := CsvConfig.initial
  variableBase := "source"
  imports _ := [importPandas]
  generate config := do
    let c ← decodeConfig CsvConfig.decode config
    if Text.isBlankText c.filePath then
      return .skipped "no file path selected"
    let out ← .publish 0
    return .fragment (out ++ " = pd.read_csv(" ++ Text.literal c.filePath ++ ", sep=" ++
      c.separatorCode ++ (if c.header then "" else ", header=None") ++ ")")

def csvFileOutput : Component where
  identity := "csvFileOutput"
  display := "CSV File Output"
  category := "Outputs"
  kind := .output
  icon := "file-export"
  defaultConfig := CsvConfig.initial
  imports _ := [importPandas]
  generate config := do
    let c ← decodeConfig CsvConfig.decode config
    if Text.isBlankText c.filePath then
      return .skipped "no output file path"
    let frame ← .needInput 0
    return .fragment (frame ++ ".to_csv(" ++ Text.literal c.filePath ++ ", sep=" ++
      c.separatorCode ++ ", index=False)")

end PipelineScript.Catalog
