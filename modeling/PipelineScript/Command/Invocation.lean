/-
# What a command line asks for

There are three commands: to compile a pipeline, to ask which columns flow
into a node, and to ask which columns a table has.  Two switches may stand
in front of the command as well as behind it; behind it they count more.
-/
import PipelineScript.Command.Arguments
import PipelineScript.Schema.Connection

namespace PipelineScript

inductive Command where
  /-- Compile a saved pipeline. -/
  | compile (pipeline : String) (output artifact : Option String)
  /-- List the columns that flow into a node of a saved pipeline. -/
  | columns (pipeline node : String)
  /-- List the columns of a table. -/
  | table (name : String) (connection : Connection) (probe : Option String)
deriving Repr

/-- A command with the settings file to use. -/
structure Invocation where
  settings : Option String
  command : Command
deriving Repr

namespace Command

/-- The switches of every command. -/
def commonSwitches : List Switch :=
  [{ name := "config", letter := some 'c', isPath := true },
    { name := "verbose", letter := some 'v', takesValue := false }]

def compileSwitches : List Switch :=
  [{ name := "output", letter := some 'o', isPath := true },
    { name := "artifact", isPath := true }]

def tableSwitches : List Switch :=
  [{ name := "host" }, { name := "port" }, { name := "user", letter := some 'u' },
    { name := "password", letter := some 'p' }, { name := "database", letter := some 'd' },
    { name := "query", letter := some 'q' }]

/-- The switches of a command, by its name. -/
def switches? : String → Option (List Switch)
  | "compile" => some compileSwitches
  | "columns" => some []
  | "table" => some tableSwitches
  | _ => none

/-- The command that arguments make, by its name. -/
def ofArguments? (command : String) (a : Arguments) : Option Command :=
  match command, a.positions with
  | "compile", [pipeline] =>
    if pipeline == "" then none
    else some (.compile pipeline (a.value? "output") (a.value? "artifact"))
  | "columns", [pipeline, node] => if pipeline == "" then none else some (.columns pipeline node)
  | "table", [name] => do
    let host ← a.value? "host"
    let database ← a.value? "database"
    return .table name
      { host, database
        port := (a.value? "port").getD "3306"
        username := (a.value? "user").getD "root"
        password := (a.value? "password").getD "" }
      (a.value? "query")
  | _, _ => none

end Command

open Command in
/-- Reads a command line; nothing if it asks for nothing known. -/
def Invocation.ofArguments? (arguments : List String) : Option Invocation := do
  let (front, rest) ← Arguments.read commonSwitches true {} arguments
  match rest with
  | [] => none
  | name :: rest =>
    let known ← switches? name
    let (back, _) ← Arguments.read (known ++ commonSwitches) false {} rest
    let command ← Command.ofArguments? name back
    return { settings := (back.value? "config").or (front.value? "config"), command }

end PipelineScript
