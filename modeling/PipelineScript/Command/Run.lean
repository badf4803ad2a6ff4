/-
# Running a command

A command reads settings and a pipeline, and prints a script or a list of
columns.  The script goes into a file when the user names one, after the
saved form of the script.  A command stops at the first failure, and
whatever it did before stays done.
-/
import PipelineScript.Canvas.Conversion
import PipelineScript.Catalog.Standard
import PipelineScript.Command.Invocation
import PipelineScript.Schema.Discovery
import PipelineScript.Schema.Exchange
import PipelineScript.Script.Artifact
import PipelineScript.Settings.Loading

namespace PipelineScript

/-- What a command needs of the world. -/
structure Surroundings (m : Type → Type) where
  files : Files m
  /-- Sends a question to the backend and waits for as long as its settings
  allow. -/
  ask : BackendSettings → Question → m Exchange
  /-- Shows a text as a result. -/
  print : String → m Unit
  /-- Tells the user something besides the results. -/
  note : String → m Unit

namespace Command

/-- Why a command stopped. -/
inductive Failure where
  | settings (cause : SettingsError)
  | pipelineFile (path : String) (cause : FileError)
  | conversion (cause : Canvas.ConversionError)
  | compilation (cause : CompileError)
  | artifactFile (path : String) (cause : FileError)
  | scriptFile (path : String) (cause : FileError)
  | question (cause : SchemaError)

def Failure.message : Failure → String
  | settings cause => "Failed to load configuration: " ++ cause.message
  | pipelineFile path cause => "Failed to read pipeline file '" ++ path ++ "': " ++ cause.message
  | conversion cause => "Failed to convert pipeline: " ++ cause.message
  | compilation cause => "Compilation failed: " ++ cause.message
  | artifactFile path cause =>
    "Failed to save artifact: Artifact I/O failed for '" ++ path ++ "': " ++ cause.message
  | scriptFile path cause => "Failed to write script '" ++ path ++ "': " ++ cause.message
  | question cause => cause.message ++ if cause.isRetryable then " (retry later)" else ""

/-- A text with spaces behind it, at least so many characters wide. -/
def padded (width : Nat) (s : String) : String :=
  s ++ String.ofList (List.replicate (width - s.length) ' ')

/-- A column as one line: its label in a field of thirty-two characters,
its type, and a mark if it has no name. -/
def columnLine (c : Column) : String :=
  padded 32 c.label ++ " " ++ c.dataType ++ (if c.named then "" else " (positional)") ++ "\n"

/-- What is printed for a finding. -/
def findingText : Finding → String
  | .current [] => "(no columns)\n"
  | .current cs => String.join (cs.map columnLine)
  | .superseded => "(superseded)\n"

/-- What is told about a node without code. -/
def skippedLine (n : SkippedNode) : String :=
  "Skipped node '" ++ n.node ++ "': " ++ n.reason ++ "\n"

section

variable {m : Type → Type} [Monad m]

/-- A step of a command. -/
abbrev Running (m : Type → Type) := ExceptT Failure m

/-- Does something that may fail for a reason. -/
def attempt {ε α : Type} (failure : ε → Failure) (step : m (Except ε α)) : Running m α :=
  ExceptT.mk (return (← step).mapError failure)

/-- Reads a saved pipeline. -/
def readPipeline (w : Surroundings m) (path : String) : Running m Graph := do
  let text ← attempt (.pipelineFile path) (w.files.read path)
  attempt .conversion (pure (Canvas.graphOfText .standard text))

def runCompile (w : Surroundings m) (s : Settings) (pipeline : String)
    (output artifact : Option String) : Running m Unit := do
  let graph ← readPipeline w pipeline
  let script ← attempt .compilation (pure (PipelineScript.compile .standard s.script.header graph))
  for n in script.skipped do
    w.note (skippedLine n)
  if let some path := artifact then
    attempt (.artifactFile path) (w.files.write path (Artifact.encode script))
  match output with
  | some path => attempt (.scriptFile path) (w.files.write path (bytesOfText script.render))
  | none => w.print script.render

/-- Asks a question that was prepared, and prints what it found. -/
def runQuestion (w : Surroundings m) (b : BackendSettings)
    (prepared : Except SchemaError Prepared × Discovery) : Running m Unit := do
  let (question, service) := prepared
  let p ← attempt .question (pure question)
  let exchange ← w.ask b p.question
  let finding ← attempt .question (pure (service.settle p.ticket (exchange.outcome b.timeoutMs)))
  w.print (findingText finding)

/-- Runs a command with the settings it is to use. -/
def run (w : Surroundings m) (s : Settings) : Command → Running m Unit
  | .compile pipeline output artifact => runCompile w s pipeline output artifact
  | .columns pipeline node => do
    let graph ← readPipeline w pipeline
    let service : Discovery :=
      { timeoutMs := s.backend.timeoutMs, registry := some .standard }
    runQuestion w s.backend (service.prepareUpstream graph node)
  | .table name connection probe =>
    let service : Discovery := { timeoutMs := s.backend.timeoutMs }
    let (p, service) := service.prepareTable name connection name probe
    runQuestion w s.backend (.ok p, service)

end

end Command

/-- How a command line ended. -/
inductive Ending where
  | done
  | failed (cause : Command.Failure)
  /-- The command line asks for nothing known. -/
  | misused

namespace Ending

/-- The number by which the caller learns of the end. -/
def exitCode : Ending → UInt32
  | done => 0
  | failed _ => 1
  | misused => 2

end Ending

/-- Runs a command line. -/
def runArguments {m : Type → Type} [Monad m] (w : Surroundings m) (arguments : List String) :
    m Ending := do
  match Invocation.ofArguments? arguments with
  | none => return .misused
  | some i =>
    let steps : Command.Running m Unit := do
      let s ← Command.attempt .settings (Settings.load w.files i.settings)
      Command.run w s i.command
    match ← steps.run with
    | .ok () => return .done
    | .error cause => return .failed cause

end PipelineScript
