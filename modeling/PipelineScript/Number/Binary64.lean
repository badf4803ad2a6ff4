/-
# Finite binary64 numbers, exactly

A number that is not a 64-bit integer is a double: a sign and a magnitude
`mantissa · 2^exponent`.  Everything is computed on natural numbers.
`nearest` rounds a ratio to the nearest double, ties to the even mantissa,
and answers `none` past the largest one; products and quotients are exact
ratios that are rounded once.
-/

namespace PipelineScript.Number

/-- The size of a finite double.  `mantissa` stays below `2^53`; below
`2^52` only at the least exponent. -/
structure Magnitude where
  mantissa : Nat
  exponent : Int
deriving Repr, DecidableEq

/-- A finite double.  Zero has a sign as well. -/
structure Binary64 where
  negative : Bool
  size : Magnitude
deriving Repr, DecidableEq

namespace Magnitude

/-- The exponent of the smallest doubles. -/
def leastExponent : Int := -1074

/-- The exponent of the largest doubles. -/
def greatestExponent : Int := 971

def zero : Magnitude := ⟨0, leastExponent⟩

/-- The value as a ratio of natural numbers. -/
def ratio (x : Magnitude) : Nat × Nat :=
  (x.mantissa * Nat.pow 2 x.exponent.toNat, Nat.pow 2 (-x.exponent).toNat)

/-- `num / den` in units of `2^e`, rounded to nearest, ties to even. -/
def unitsNearest (num den : Nat) (e : Int) : Nat :=
  let n := num * Nat.pow 2 (-e).toNat
  let d := den * Nat.pow 2 e.toNat
  let q := n / d
  let r := n % d
  if 2 * r > d || (2 * r == d && q % 2 == 1) then q + 1 else q

/-- The exponent at which `num / den` has a mantissa of 53 bits, or the
least one. -/
def exponentOf (num den : Nat) : Int :=
  let guess : Int := (num.log2 : Int) - (den.log2 : Int) - 53
  let quotient := num * Nat.pow 2 (-guess).toNat / (den * Nat.pow 2 guess.toNat)
  max leastExponent (if quotient < Nat.pow 2 53 then guess else guess + 1)

/-- The double nearest to `num / den`, unless it is too large. -/
def nearest (num den : Nat) : Option Magnitude :=
  if num == 0 then some zero
  else
    let e := exponentOf num den
    let m := unitsNearest num den e
    let x : Magnitude := if m == Nat.pow 2 53 then ⟨Nat.pow 2 52, e + 1⟩ else ⟨m, e⟩
    if x.exponent ≤ greatestExponent then some x else none

/-- The rounded product. -/
def mul (x y : Magnitude) : Option Magnitude :=
  nearest (x.ratio.1 * y.ratio.1) (x.ratio.2 * y.ratio.2)

/-- The rounded quotient by a divisor that is not zero. -/
def div (x y : Magnitude) : Option Magnitude :=
  nearest (x.ratio.1 * y.ratio.2) (x.ratio.2 * y.ratio.1)

/-- The double nearest to a power of ten. -/
def powerOfTen (n : Nat) : Magnitude :=
  (nearest (Nat.pow 10 n) 1).getD zero

/-- The largest power of ten that a double reaches. -/
def greatestPower : Nat := 308

/-- Division by the largest power of ten, so many times; nothing is left to
divide once zero is reached. -/
def lower : (times : Nat) → Magnitude → Option Magnitude
  | 0, x => some x
  | times + 1, x =>
    if x.mantissa == 0 then some zero
    else (x.div (powerOfTen greatestPower)).bind (lower times)

/-- A magnitude scaled down by `10^places`: division by the largest power
as long as more places are left, then one division by the rest. -/
def scaleDown (x : Magnitude) (places : Nat) : Option Magnitude :=
  let times := (places - 1) / greatestPower
  (lower times x).bind fun y => y.div (powerOfTen (places - times * greatestPower))

/-- A magnitude scaled up by `10^places`: one product, `none` when the
power or the product is out of reach. -/
def scaleUp (x : Magnitude) (places : Nat) : Option Magnitude :=
  if places ≤ greatestPower then x.mul (powerOfTen places)
  else if x.mantissa == 0 then some zero
  else none

/-- The reading of `digits · 10^places`: the digits become a double, which
is scaled once.  The result may differ from the nearest double in its last
bit. -/
def ofDecimal (digits : Nat) (places : Int) : Option Magnitude :=
  (nearest digits 1).bind fun x =>
    if places < 0 then x.scaleDown places.natAbs else x.scaleUp places.natAbs

end Magnitude

/-- Zero with a sign, as `-0` is read. -/
def Binary64.zero (negative : Bool) : Binary64 := ⟨negative, Magnitude.zero⟩

end PipelineScript.Number
