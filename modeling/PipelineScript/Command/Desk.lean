/-
# A command line at work on files in memory

A desk holds files, collects what is printed and told, and has no line to
the backend, so every question fails to be sent.
-/
import PipelineScript.Command.Run
import PipelineScript.Files.Folder
import PipelineScript.Schema.Endpoint

namespace PipelineScript

structure Desk where
  folder : Folder := {}
  /-- What was printed. -/
  printed : String := ""
  /-- What the user was told besides. -/
  notes : String := ""

namespace Desk

/-- The desk after a text went to one of the places that the user reads. -/
def deliver? (d : Desk) (path text : String) : Option Desk :=
  if path == "/dev/stdout" then some { d with printed := d.printed ++ text }
  else if path == "/dev/stderr" then some { d with notes := d.notes ++ text }
  else none

/-- The files of the desk. -/
def files : Files (StateM Desk) where
  read path := fun d => (d.folder.read path, d)
  write path bytes := fun d =>
    match d.deliver? path (legibleText bytes) with
    | some after => (.ok (), after)
    | none =>
      match d.folder.write path bytes with
      | .ok folder => (.ok (), { d with folder })
      | .error e => (.error e, d)

/-- The desk as surroundings of a command. -/
def surroundings : Surroundings (StateM Desk) where
  files
  ask backend _ := pure (.failed (Endpoint.sendFailure backend.endpoint))
  print text := modify fun d => { d with printed := d.printed ++ text }
  note text := modify fun d => { d with notes := d.notes ++ text }

/-- Runs a command line at a desk. -/
def run (d : Desk) (arguments : List String) : Ending × Desk :=
  (runArguments surroundings arguments).run d

end Desk

end PipelineScript
