/-
# Ranges of characters

A kind of characters is written as the first and the last code point of each
of its ranges.
-/

namespace PipelineScript.Text

/-- Is a character in one of the ranges? -/
def inRanges (ranges : List (Nat × Nat)) (c : Char) : Bool :=
  ranges.any fun (first, last) => first ≤ c.toNat && c.toNat ≤ last

end PipelineScript.Text
