/-
# Blank characters and trimming

`isBlank` is the Unicode property White_Space, so a no-break space or an
ideographic space is blank, while a zero width space is not.  Every place
of the library that trims a text, or asks whether a text says anything,
uses this one predicate.
-/

namespace PipelineScript.Text

/-- The characters of the Unicode property White_Space. -/
def isBlank (c : Char) : Bool :=
  let n := c.val
  (0x09 ≤ n && n ≤ 0x0D) || n == 0x20 || n == 0x85 || n == 0xA0 || n == 0x1680 ||
    (0x2000 ≤ n && n ≤ 0x200A) || n == 0x2028 || n == 0x2029 || n == 0x202F ||
    n == 0x205F || n == 0x3000

/-- A character list without its blank end. -/
def trimEndChars (cs : List Char) : List Char :=
  (cs.reverse.dropWhile isBlank).reverse

/-- A text without its blank end. -/
def trimEnd (s : String) : String :=
  String.ofList (trimEndChars s.toList)

/-- A text without its blank start and its blank end. -/
def trim (s : String) : String :=
  String.ofList (trimEndChars (s.toList.dropWhile isBlank))

/-- A text that holds blank characters only, or nothing. -/
def isBlankText (s : String) : Bool :=
  s.toList.all isBlank

end PipelineScript.Text
