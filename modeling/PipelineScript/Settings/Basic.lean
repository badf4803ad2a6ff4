/-
# Settings

Where the schema backend is asked and how long an answer may take, and the
header of compiled scripts.  Everything has a default.
-/
import PipelineScript.Json.Decode

namespace PipelineScript

open Json

/-- How the schema backend is reached. -/
structure BackendSettings where
  endpoint : String := "http://127.0.0.1:8765/introspect"
  timeoutMs : Nat := 30000
deriving Repr, DecidableEq

/-- How scripts are written. -/
structure ScriptSettings where
  header : Option String := none
deriving Repr, DecidableEq

structure Settings where
  backend : BackendSettings := {}
  script : ScriptSettings := {}
deriving Repr, DecidableEq

namespace BackendSettings

def decode : Decoder BackendSettings :=
  .record "struct IntrospectionSettings" 2 fun s w =>
    let usual : BackendSettings := {}
    mk <$>
      Member.read
        { position := 0, name := "endpoint", decode := .text, absent := some usual.endpoint,
          omitted := some usual.endpoint } s w <*>
      Member.read
        { position := 1, name := "timeout-ms", decode := .natural, absent := some usual.timeoutMs,
          omitted := some usual.timeoutMs } s w

def encode (b : BackendSettings) : Json :=
  .obj [("endpoint", .str b.endpoint), ("timeout-ms", .int b.timeoutMs)]

end BackendSettings

def ScriptSettings.encode (s : ScriptSettings) : Json :=
  .obj [("header", ofString? s.header)]

def Settings.encode (s : Settings) : Json :=
  .obj [("compiler", s.script.encode), ("introspection", s.backend.encode)]

end PipelineScript
