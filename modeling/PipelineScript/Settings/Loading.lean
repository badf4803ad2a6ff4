/-
# Where settings come from

A file that the user names has to be there and to hold settings.  Without
one the file of the project is used if it is there and holds settings, and
the defaults otherwise.
-/
import PipelineScript.Files.Basic
import PipelineScript.Settings.Document

namespace PipelineScript

/-- Why the settings that the user asked for are not there. -/
inductive SettingsError where
  | unreadable (path : String) (cause : FileError)
  | malformed (path : String)
deriving Repr, DecidableEq

def SettingsError.message : SettingsError → String
  | unreadable path cause => "Failed to read config file '" ++ path ++ "': " ++ cause.message
  | malformed path => "Failed to parse config file '" ++ path ++ "'"

namespace Settings

/-- The settings file of a project. -/
def projectFile : String := ".pipeforge.yml"

/-- The settings that a file holds. -/
def fromFile {m : Type → Type} [Monad m] (files : Files m) (path : String) :
    m (Except SettingsError Settings) := do
  match ← files.read path with
  | .error e => return .error (.unreadable path e)
  | .ok text =>
    match ofYaml? text with
    | some s => return .ok s
    | none => return .error (.malformed path)

/-- The settings to use when the user names this file, or none. -/
def load {m : Type → Type} [Monad m] (files : Files m) :
    Option String → m (Except SettingsError Settings)
  | some path => fromFile files path
  | none => do
    match ← fromFile files projectFile with
    | .ok s => return .ok s
    | .error _ => return .ok {}

end Settings

end PipelineScript
