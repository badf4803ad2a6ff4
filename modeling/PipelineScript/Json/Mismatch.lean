/-
# Why a JSON value does not fit a type

A decoder that refuses a value says which of these causes it met; the
wording is here and nowhere else.
-/
import PipelineScript.Json.Printer
import PipelineScript.Text.Visible

namespace PipelineScript.Json

/-- What a value is called in messages.  Lists and objects are named
without their contents. -/
def describe : Json → String
  | .null => "null"
  | .bool b => "boolean \x60" ++ (if b then "true" else "false") ++ "\x60"
  | .int n => "integer \x60" ++ toString n ++ "\x60"
  | .real x => "floating point \x60" ++ realText x ++ "\x60"
  | .str s => "string " ++ Text.visible s
  | .arr _ => "sequence"
  | .obj _ => "map"

/-- How many elements, in words. -/
def elements (n : Nat) : String :=
  toString n ++ (if n == 1 then " element" else " elements")

/-- The cause of a refusal. -/
inductive Mismatch where
  /-- The value is of another sort than expected. -/
  | invalidType (found : Json) (expected : String)
  /-- The value is of the right sort but out of range. -/
  | invalidValue (found : Json) (expected : String)
  /-- A list has too few or too many items. -/
  | invalidLength (length : Nat) (expected : String)
  | missingField (name : String)
  /-- A field is given twice, perhaps under two of its names. -/
  | duplicateField (name : String)
  | unknownVariant (name : String) (known : List String)
  /-- A row key must be a text or a number. -/
  | notAKey (found : Json)
deriving Repr

namespace Mismatch

/-- A name between backquotes. -/
def ticked (name : String) : String := "\x60" ++ name ++ "\x60"

/-- What was expected instead of an unknown name. -/
def alternatives : List String → String
  | [] => "there are no variants"
  | [a] => "expected " ++ ticked a
  | [a, b] => "expected " ++ ticked a ++ " or " ++ ticked b
  | names => "expected one of " ++ ", ".intercalate (names.map ticked)

def message : Mismatch → String
  | invalidType found expected => "invalid type: " ++ found.describe ++ ", expected " ++ expected
  | invalidValue found expected => "invalid value: " ++ found.describe ++ ", expected " ++ expected
  | invalidLength length expected =>
    "invalid length " ++ toString length ++ ", expected " ++ expected
  | missingField name => "missing field " ++ ticked name
  | duplicateField name => "duplicate field " ++ ticked name
  | unknownVariant name known => "unknown variant " ++ ticked name ++ ", " ++ alternatives known
  | notAKey found => "expected a string or number key, found " ++ found.compact

end Mismatch

end PipelineScript.Json
