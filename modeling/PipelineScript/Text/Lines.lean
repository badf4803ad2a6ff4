/-
# The lines of a text

A line feed ends a line, together with one carriage return in front of it.
What stands behind the last line feed is a line as well, unless it is
empty; a carriage return is part of it.
-/

namespace PipelineScript.Text

/-- A line that was ended by a line feed, without the carriage return. -/
def dropReturn (reversed : List Char) : List Char :=
  match reversed with
  | '\r' :: rest => rest.reverse
  | line => line.reverse

/-- The lines of a character list; `current` is the line being read, its
last character first. -/
def linesFrom (current : List Char) : List Char → List (List Char)
  | [] => if current.isEmpty then [] else [current.reverse]
  | '\n' :: rest => dropReturn current :: linesFrom [] rest
  | c :: rest => linesFrom (c :: current) rest

/-- The lines of a text. -/
def lines (s : String) : List String :=
  (linesFrom [] s.toList).map String.ofList

end PipelineScript.Text
