import PipelineScript.Command.Desk
import PipelineScript.Component.Scripted
import PipelineScript.Main
import PipelineScript.Script.Wire
import PipelineScript.Proofs.Compile.Uniqueness
import PipelineScript.Proofs.Compile.Wiring
import PipelineScript.Proofs.Schema.Staleness
import PipelineScript.Proofs.Graph.Editing
import PipelineScript.Proofs.Compile.Questions
import PipelineScript.Proofs.Catalog.Layout
import PipelineScript.Proofs.Catalog.Verdict
import PipelineScript.Proofs.Catalog.Literals
import PipelineScript.Proofs.Compile.Closure
import PipelineScript.Proofs.Canvas.Conversion
import PipelineScript.Proofs.Compile.Preview
import PipelineScript.Proofs.Table.Names
import PipelineScript.Proofs.Table.Workspace
import PipelineScript.Proofs.Script.RoundTrip
import PipelineScript.Proofs.Compile.Cycles
import PipelineScript.Proofs.Compile.EdgeOrder
import PipelineScript.Proofs.Graph.Newcomer
import PipelineScript.Proofs.Compile.Growth
import PipelineScript.Proofs.Schema.Question
import PipelineScript.Proofs.Compile.Skipped
import PipelineScript.Proofs.Schema.RoundTrip
import PipelineScript.Proofs.Text.Blocks
import PipelineScript.Proofs.Catalog.Variables
import PipelineScript.Proofs.Script.Rendering
import PipelineScript.Proofs.Table.Schema
import PipelineScript.Proofs.Canvas.Pipeline
import PipelineScript.Proofs.Text.Reader
import PipelineScript.Proofs.Compile.Coverage
import PipelineScript.Proofs.Table.Refused
import PipelineScript.Proofs.Catalog.Columns
import PipelineScript.Proofs.Compile.Identifiers
import PipelineScript.Proofs.Script.Header
import PipelineScript.Proofs.Catalog.Engines
import PipelineScript.Proofs.Compile.NameHistory
import PipelineScript.Proofs.Table.Ordinals
