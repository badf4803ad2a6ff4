/-
# The standard catalog

The built-in components in their catalog order.
-/
import PipelineScript.Catalog.Csv
import PipelineScript.Catalog.Frames
import PipelineScript.Catalog.Sql
import PipelineScript.Catalog.Variables
import PipelineScript.Component.Registry

namespace PipelineScript

open Catalog

/-- The registry of the built-in components. -/
def Registry.standard : Registry :=
  ⟨[envVariables, csvFileInput, filterRows, columnMapping, mergeFrames, csvFileOutput,
    sqlTableOutput]⟩

end PipelineScript
