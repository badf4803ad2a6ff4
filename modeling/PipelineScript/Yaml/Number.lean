/-
# Numbers in YAML

The numbers without a sign that fit into 64 bits, in base ten or, behind a
zero and a letter, in base sixteen, eight or two.  A decimal number has no
leading zeros.
-/
import PipelineScript.Text.Ordinal
import PipelineScript.Yaml.Scalar

namespace PipelineScript.Yaml

/-- The number that digits of a base write, read on from `value`. -/
def digitsIn? (base value : Nat) : List Char → Option Nat
  | [] => some value
  | c :: rest =>
    match Text.hexValue? c with
    | some d => if d < base then digitsIn? base (value * base + d) rest else none
    | none => none

/-- The number that at least one digit of a base writes. -/
def numeral? (base : Nat) (digits : List Char) : Option Nat :=
  if digits.isEmpty then none else digitsIn? base 0 digits

/-- The number that a text writes behind an optional plus sign. -/
def number? (text : String) : Option Nat :=
  let chars := match text.toList with
    | '+' :: rest => rest
    | chars => chars
  let n := match chars with
    | '0' :: 'x' :: digits => numeral? 16 digits
    | '0' :: 'o' :: digits => numeral? 8 digits
    | '0' :: 'b' :: digits => numeral? 2 digits
    | ['0'] => some 0
    | '0' :: _ => none
    | digits => numeral? 10 digits
  n.filter (· < Text.ordinalCount)

end PipelineScript.Yaml
