/-
# Digits of base sixteen

Written in small letters, read in either case.
-/

namespace PipelineScript.Text

/-- A digit of base sixteen, in small letters. -/
def hexDigit (n : Nat) : Char :=
  if n < 10 then Char.ofNat ('0'.toNat + n) else Char.ofNat ('a'.toNat + (n - 10))

/-- The value of a digit of base sixteen. -/
def hexValue? (c : Char) : Option Nat :=
  if c.isDigit then some (c.toNat - '0'.toNat)
  else if 'a' ≤ c ∧ c ≤ 'f' then some (c.toNat - 'a'.toNat + 10)
  else if 'A' ≤ c ∧ c ≤ 'F' then some (c.toNat - 'A'.toNat + 10)
  else none

/-- The digits of a number in base sixteen. -/
def hexDigits (n : Nat) : List Char :=
  Nat.toDigits 16 n

/-- The number that digits of base sixteen write. -/
def hexNumber (digits : String) : Nat :=
  digits.toList.foldl (fun n c => n * 16 + (hexValue? c).getD 0) 0

end PipelineScript.Text
