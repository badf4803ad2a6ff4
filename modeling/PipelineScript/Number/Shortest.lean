/-
# The shortest decimal text of a double

`shortest` finds the fewest digits that read back as the same double: for
1, 2, … 17 digits it tests the two neighbours of the value on that decimal
grid, and the first grid with a hit wins; of two hits the nearer one, of
two equally near the even one.  `DecimalLayout` says how digits and
exponent are laid out as text.
-/
import PipelineScript.Number.Binary64

namespace PipelineScript.Number

/-- Digits and the power of ten of the first one: `[1, 5]` at `2` is 150. -/
structure Decimal where
  digits : List Nat
  lead : Int
deriving Repr, DecidableEq

namespace Magnitude

/-- How many decimal digits a natural number has. -/
def digitCount (n : Nat) : Nat := (Nat.toDigits 10 n).length

/-- The power of ten of the first digit of a positive magnitude. -/
def lead (x : Magnitude) : Int :=
  let (num, den) := x.ratio
  if den ≤ num then (digitCount (num / den) : Int) - 1 else -(digitCount (den / num) : Int)

/-- Does `k · 10^place` read back as `x`?  Twice the value is compared with
the two ends of the interval that rounds to `x`; the ends belong to it when
the mantissa is even. -/
def readsBack (x : Magnitude) (k : Nat) (place : Int) : Bool :=
  let p10 := Nat.pow 10 place.toNat
  let q10 := Nat.pow 10 (-place).toNat
  let p2 := Nat.pow 2 x.exponent.toNat
  let q2 := Nat.pow 2 (-x.exponent).toNat
  -- all sides in units of a quarter of the last place of `x`, times `q10 · q2`
  let value := 4 * k * p10 * q2
  let above := (4 * x.mantissa + 2) * p2 * q10
  let below :=
    if x.mantissa == Nat.pow 2 52 && x.exponent > leastExponent then
      (4 * x.mantissa - 1) * p2 * q10
    else (4 * x.mantissa - 2) * p2 * q10
  if x.mantissa % 2 == 0 then below ≤ value && value ≤ above else below < value && value < above

/-- The grid point of `count` digits that reads back as `x`, if there is
one. -/
def gridPoint (x : Magnitude) (count : Nat) : Option (Nat × Int) :=
  let place : Int := x.lead - count + 1
  let (num, den) := x.ratio
  let n := num * Nat.pow 10 (-place).toNat
  let d := den * Nat.pow 10 place.toNat
  let low := n / d
  let r := n % d
  let high := low + 1
  let lowFirst := 2 * r < d || (2 * r == d && low % 2 == 0)
  let (first, second) := if lowFirst then (low, high) else (high, low)
  if x.readsBack first place then some (first, place)
  else if x.readsBack second place then some (second, place)
  else none

/-- The first grid with a hit, from `count` digits on. -/
def firstGrid (x : Magnitude) : (tries count : Nat) → Option (Nat × Int)
  | 0, _ => none
  | tries + 1, count => (x.gridPoint count).or (firstGrid x tries (count + 1))

/-- The fewest digits that read back.  Zero has the one digit 0. -/
def shortest (x : Magnitude) : Decimal :=
  if x.mantissa == 0 then ⟨[0], 0⟩
  else
    match x.firstGrid 17 1 with
    | none => ⟨[0], 0⟩
    | some (k, place) =>
      let all := (Nat.toDigits 10 k).map fun c => c.toNat - '0'.toNat
      let kept := (all.reverse.dropWhile (· == 0)).reverse
      ⟨kept, place + all.length - 1⟩

end Magnitude

/-- How a decimal is laid out as text. -/
structure DecimalLayout where
  /-- The least power of the first digit that is written without exponent. -/
  plainFrom : Int
  /-- The greatest such power. -/
  plainTo : Int
  /-- Is a positive exponent written with its sign? -/
  plusSign : Bool

namespace DecimalLayout

def digitText (digits : List Nat) : String :=
  String.ofList (digits.map fun d => Char.ofNat ('0'.toNat + d))

/-- Without an exponent, always with a point and a digit after it. -/
def plainText (d : Decimal) : String :=
  if d.lead < 0 then
    "0." ++ digitText (List.replicate (d.lead.natAbs - 1) 0 ++ d.digits)
  else
    let whole := d.lead.toNat + 1
    let front := d.digits.take whole
    let back := d.digits.drop whole
    digitText (front ++ List.replicate (whole - front.length) 0) ++ "." ++
      (if back.isEmpty then "0" else digitText back)

/-- With an exponent; a single digit has no point. -/
def exponentText (layout : DecimalLayout) (d : Decimal) : String :=
  let back := d.digits.drop 1
  let sign := if d.lead < 0 then "-" else if layout.plusSign then "+" else ""
  digitText (d.digits.take 1) ++ (if back.isEmpty then "" else "." ++ digitText back) ++
    "e" ++ sign ++ toString d.lead.natAbs

/-- The text of a double. -/
def render (layout : DecimalLayout) (x : Binary64) : String :=
  let d := x.size.shortest
  let sign := if x.negative then "-" else ""
  sign ++
    (if layout.plainFrom ≤ d.lead && d.lead ≤ layout.plainTo then plainText d
     else layout.exponentText d)

end DecimalLayout

end PipelineScript.Number
