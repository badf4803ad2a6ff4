/-
# Ordinals and their decimal texts

Row keys, canvas handles and positional columns carry numbers of 64 bits
written in decimal.  `ordinalOfText?` is generous on one point only: a
plus sign may stand in front.  Blanks, other signs and numbers that do not
fit are refused.
-/

namespace PipelineScript.Text

/-- The value of a list of decimal digits, read on from `acc`. -/
def digitsValue (acc : Nat) : List Char → Option Nat
  | [] => some acc
  | c :: r => if c.isDigit then digitsValue (acc * 10 + (c.toNat - '0'.toNat)) r else none

/-- The number that a decimal text names: an optional plus sign, then at
least one digit. -/
def natOfText? (s : String) : Option Nat :=
  match s.toList with
  | [] => none
  | ['+'] => none
  | '+' :: r => digitsValue 0 r
  | cs => digitsValue 0 cs

/-- How many numbers of 64 bits there are. -/
def ordinalCount : Nat := 18446744073709551616

/-- The greatest number of 64 bits. -/
def greatestOrdinal : UInt64 := 18446744073709551615

/-- The 64-bit number that a decimal text names. -/
def ordinalOfText? (s : String) : Option UInt64 :=
  (natOfText? s).bind fun n => if n < ordinalCount then some (UInt64.ofNat n) else none

/-- The decimal text of an ordinal, without leading zeros. -/
def ordinalText (n : UInt64) : String :=
  toString n.toNat

end PipelineScript.Text
