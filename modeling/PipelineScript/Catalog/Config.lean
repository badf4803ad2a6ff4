/-
# Reading a node's configuration

The steps that the components of the catalog share: decoding the
configuration, checking a word against a list, and the import statements.
-/
import PipelineScript.Component.Basic
import PipelineScript.Json.Decode

namespace PipelineScript.Catalog

open Json

def importOs : String := "import os"
def importPandas : String := "import pandas as pd"
def importSqlalchemy : String := "import sqlalchemy"

/-- A field with a default value. -/
def withDefault {α : Type} (position : Nat) (name : String) (decode : Decoder α) (value : α) :
    Member α :=
  { position, name, decode, absent := some value, omitted := some value }

/-- The value of a configuration; null stands for the empty object. -/
def readConfig {α : Type} (d : Decoder α) (config : Json) : Except Mismatch α :=
  d .free (match config with | .null => .emptyObject | v => v)

/-- Decodes the configuration of the node, or fails. -/
def decodeConfig {α : Type} (d : Decoder α) (config : Json) : Plan α :=
  match readConfig d config with
  | .ok a => .done a
  | .error cause => .rejects (.undecodable cause)

/-- Fails unless the word is an allowed one. -/
def requireOneOf (field word : String) (allowed : List String) : Plan Unit :=
  if allowed.contains word then .done () else .rejects (.notAmong field allowed word)

end PipelineScript.Catalog
