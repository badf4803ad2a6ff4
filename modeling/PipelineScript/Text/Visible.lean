/-
# Texts shown in messages

A text is shown between quotes, with the characters that do not show on a
page written as escapes.
-/
import PipelineScript.Text.Hex
import PipelineScript.Text.Hidden

namespace PipelineScript.Text

/-- How one character is shown. -/
def showChar (c : Char) : List Char :=
  if c = '"' then ['\\', '"']
  else if c = '\\' then ['\\', '\\']
  else if c = '\n' then ['\\', 'n']
  else if c = '\r' then ['\\', 'r']
  else if c = '\t' then ['\\', 't']
  else if c.val = 0 then ['\\', '0']
  else if isHidden c then ['\\', 'u', '\x7b'] ++ hexDigits c.toNat ++ ['\x7d']
  else [c]

/-- A text as it is shown in messages. -/
def visible (s : String) : String :=
  String.ofList ('"' :: (s.toList.flatMap showChar ++ ['"']))

end PipelineScript.Text
