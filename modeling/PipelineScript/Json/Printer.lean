/-
# Compact JSON text

Values without blanks between tokens.  Texts escape the quote, the
backslash and the control characters below the space; doubles have the
shortest digits that read back, always with a point or an exponent.
-/
import PipelineScript.Json.Basic
import PipelineScript.Number.Shortest
import PipelineScript.Text.Literal

namespace PipelineScript.Json

/-- Doubles from `1e-5` up to below `1e16` are written without exponent; a
positive exponent carries its sign. -/
def realLayout : Number.DecimalLayout :=
  ⟨-5, 15, true⟩

/-- The text of a double. -/
def realText (x : Number.Binary64) : String :=
  realLayout.render x

/-- How one character is written inside a JSON text. -/
def escapeChar (c : Char) : List Char :=
  if c = '"' then ['\\', '"']
  else if c = '\\' then ['\\', '\\']
  else if c = '\n' then ['\\', 'n']
  else if c = '\r' then ['\\', 'r']
  else if c = '\t' then ['\\', 't']
  else if c.val = 0x08 then ['\\', 'b']
  else if c.val = 0x0C then ['\\', 'f']
  else if c.val < 0x20 then
    ['\\', 'u', '0', '0', Text.hexDigit (c.toNat / 16), Text.hexDigit (c.toNat % 16)]
  else [c]

/-- A text with its quotes. -/
def quoted (s : String) : String :=
  String.ofList ('"' :: (s.toList.flatMap escapeChar ++ ['"']))

mutual

/-- The compact text of a value. -/
def compact : Json → String
  | .null => "null"
  | .bool b => if b then "true" else "false"
  | .int n => toString n
  | .real x => realText x
  | .str s => quoted s
  | .arr items => "[" ++ compactItems items ++ "]"
  | .obj entries => "\x7b" ++ compactEntries entries ++ "\x7d"

def compactItems : List Json → String
  | [] => ""
  | [v] => compact v
  | v :: rest => compact v ++ "," ++ compactItems rest

def compactEntries : List (String × Json) → String
  | [] => ""
  | [(k, v)] => quoted k ++ ":" ++ compact v
  | (k, v) :: rest => quoted k ++ ":" ++ compact v ++ "," ++ compactEntries rest

end

end PipelineScript.Json
