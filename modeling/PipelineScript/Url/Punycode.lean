/-
# Names in letters of ASCII

A label with other characters than those of ASCII is written in ASCII: its
own characters of ASCII come first, and behind a hyphen stand numbers that
say, from the least code point up, where the others go.  A number is written
with its lowest digit first, and its last digit is the first one below a
threshold, which follows the size of the numbers before.
-/

namespace PipelineScript.Url.Punycode

def isPlain (c : Char) : Bool :=
  c.val < 0x80

/-- A digit of base thirty-six, the letters first. -/
def digit (n : Nat) : Char :=
  if n < 26 then Char.ofNat ('a'.toNat + n) else Char.ofNat ('0'.toNat + (n - 26))

/-- The value of a digit. -/
def digitValue? (c : Char) : Option Nat :=
  if 'a' ≤ c ∧ c ≤ 'z' then some (c.toNat - 'a'.toNat)
  else if '0' ≤ c ∧ c ≤ '9' then some (c.toNat - '0'.toNat + 26)
  else none

/-- The threshold for the digit at a place; places are counted in steps of
thirty-six. -/
def threshold (bias place : Nat) : Nat :=
  min 26 (max 1 (place - bias))

/-- Divides a number until it is small, and counts how often. -/
def shrunk (n turns : Nat) : Nat × Nat :=
  if 455 < n then shrunk (n / 35) (turns + 1) else (n, turns)
termination_by n
decreasing_by omega

/-- The bias after a number that put the last of so many characters in its
place. -/
def nextBias (number count : Nat) (isFirst : Bool) : Nat :=
  let damped := if isFirst then number / 700 else number / 2
  let (n, turns) := shrunk (damped + damped / count) 0
  36 * turns + 36 * n / (n + 38)

/-- The digits of a number from a place on. -/
def digits (bias place n : Nat) : List Char :=
  if n < threshold bias place then [digit n]
  else
    digit (threshold bias place + (n - threshold bias place) % (36 - threshold bias place)) ::
      digits bias (place + 36) ((n - threshold bias place) / (36 - threshold bias place))
termination_by n
decreasing_by
  have h : 1 ≤ threshold bias place := by unfold threshold; omega
  have := Nat.div_le_self (n - threshold bias place) (36 - threshold bias place)
  omega

/-- A label that is being written. -/
structure Writing where
  /-- The digits so far, from the first on. -/
  written : List Char := []
  /-- The number that is counted up to the next place. -/
  number : Nat := 0
  bias : Nat := 72
  /-- How many characters have their places. -/
  placed : Nat
  /-- The code point up to which all characters have their places. -/
  reached : Nat := 128

/-- Goes past a character of the label while the places of one code point
are written. -/
def Writing.pass (plain point : Nat) (w : Writing) (c : Char) : Writing :=
  if c.toNat < point then { w with number := w.number + 1 }
  else if c.toNat = point then
    { w with
      written := w.written ++ digits w.bias 36 w.number
      number := 0
      bias := nextBias w.number (w.placed + 1) (w.placed = plain)
      placed := w.placed + 1 }
  else w

/-- Writes the places of one code point. -/
def Writing.point (label : List Char) (plain : Nat) (w : Writing) (point : Nat) : Writing :=
  let begun := { w with number := w.number + (point - w.reached) * (w.placed + 1) }
  let done := label.foldl (Writing.pass plain point) begun
  { done with number := done.number + 1, reached := point + 1 }

/-- The form of a label in ASCII. -/
def encode (label : List Char) : List Char :=
  let plain := label.filter isPlain
  let points := ((label.filter (!isPlain ·)).map Char.toNat).mergeSort.eraseDups
  let w := points.foldl (Writing.point label plain.length) { placed := plain.length }
  plain ++ (if plain.isEmpty then [] else ['-']) ++ w.written

/-- A label that is being read. -/
structure Reading where
  label : List Char
  point : Nat := 128
  /-- The place up to which the label was filled by earlier numbers. -/
  start : Nat := 0
  /-- The place that the number under way has come to. -/
  reached : Nat := 0
  bias : Nat := 72
  weight : Nat := 1
  place : Nat := 36

/-- Reads a digit.  The last one of a number puts a character in its place. -/
def Reading.step? (r : Reading) (c : Char) : Option Reading := do
  let d ← digitValue? c
  let reached := r.reached + d * r.weight
  let t := threshold r.bias r.place
  if t ≤ d then
    return { r with reached, weight := r.weight * (36 - t), place := r.place + 36 }
  let count := r.label.length + 1
  let point := r.point + reached / count
  guard point.isValidChar
  let i := reached % count
  return {
    label := r.label.take i ++ Char.ofNat point :: r.label.drop i
    point
    start := i + 1
    reached := i + 1
    bias := nextBias (reached - r.start) count (r.start = 0) }

/-- The label that a form in ASCII stands for. -/
def decode? (form : List Char) : Option (List Char) := do
  let tail := (form.reverse.takeWhile (· != '-')).reverse
  let plain := form.take (form.length - tail.length)
  let begun : Reading := { label := plain.dropLast }
  let r ← (if plain.length = 1 then form else tail).foldlM Reading.step? begun
  guard (r.place = 36)
  return r.label

example : encode "bücher".toList = "bcher-kva".toList := by decide +kernel

example : decode? "bcher-kva".toList = some "bücher".toList := by decide +kernel

end PipelineScript.Url.Punycode
