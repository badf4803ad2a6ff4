/-
# String literals of the generated script

A text goes into the script as a one-line double-quoted Python literal.
The backslash, the quote, the three common line controls and every other
ASCII control character are escaped, so no character of the text can end
the literal or break the line.
-/
import PipelineScript.Text.Hex

namespace PipelineScript.Text

/-- The ASCII control characters. -/
def isControl (c : Char) : Bool :=
  c.val < 0x20 || c.val == 0x7F

/-- How one character is written inside a literal. -/
def escapeChar (c : Char) : List Char :=
  if c = '\\' then ['\\', '\\']
  else if c = '"' then ['\\', '"']
  else if c = '\n' then ['\\', 'n']
  else if c = '\r' then ['\\', 'r']
  else if c = '\t' then ['\\', 't']
  else if isControl c then ['\\', 'x', hexDigit (c.toNat / 16), hexDigit (c.toNat % 16)]
  else [c]

/-- The literal of a character list, quotes included. -/
def literalChars (cs : List Char) : List Char :=
  '"' :: (cs.flatMap escapeChar ++ ['"'])

/-- The literal of a text. -/
def literal (s : String) : String :=
  String.ofList (literalChars s.toList)

/-- The literal of a list of texts. -/
def literalList (items : List String) : String :=
  "[" ++ ", ".intercalate (items.map literal) ++ "]"

end PipelineScript.Text
