/-
# Compiled scripts

A script is a header, an import block and one fragment per node that
generated code, in dependency order; skipped nodes are listed with their
reasons.  `render` lays it out: a comment, the imports and the fragments,
separated by blank lines.
-/
import PipelineScript.Text.Lines

namespace PipelineScript

/-- The code of one node. -/
structure Fragment where
  node : String
  component : String
  code : String
  /-- The variable published on each output port, if any. -/
  outputs : List (Option String)
deriving Repr, DecidableEq

/-- A node without code, and why. -/
structure SkippedNode where
  node : String
  reason : String
deriving Repr, DecidableEq

/-- The result of compiling a pipeline. -/
structure Script where
  header : Option String := none
  imports : List String := []
  fragments : List Fragment := []
  skipped : List SkippedNode := []
deriving Repr, DecidableEq

namespace Script

/-- The header as comment lines; nothing for an empty one. -/
def headerSection (s : Script) : List String :=
  match s.header with
  | none => []
  | some h =>
    if h == "" then [] else ["\n".intercalate ((Text.lines h).map ("# " ++ ·))]

/-- The import statements, one a line. -/
def importsBlock (s : Script) : String :=
  "\n".intercalate s.imports

/-- The fragments that have code, separated by blank lines. -/
def bodyBlock (s : Script) : String :=
  "\n\n".intercalate ((s.fragments.map (·.code)).filter (· != ""))

/-- The parts of the program that are not empty. -/
def sections (s : Script) : List String :=
  s.headerSection ++ [s.importsBlock, s.bodyBlock].filter (· != "")

/-- The text of the program. -/
def render (s : Script) : String :=
  "\n\n".intercalate s.sections ++ "\n"

/-- The fragment of a node. -/
def fragment? (s : Script) (node : String) : Option Fragment :=
  s.fragments.find? (·.node == node)

/-- The variable that a node publishes on its first output port. -/
def outputOf? (s : Script) (node : String) : Option String :=
  (s.fragment? node).bind fun f => f.outputs.head?.bind id

end Script

end PipelineScript
