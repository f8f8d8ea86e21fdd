import LineScript.Decimal.Binary

/-!
The shortest decimal of a float: the fewest digits that round back to it and, of those decimals,
the nearest one.

Everything is counted in units of `10 ^ -1074`.  The smallest float unit `2 ^ -1074` is
`5 ^ 1074` of them, so every finite magnitude and the ends of its rounding interval are whole
numbers of quarter units, and the last grid of the search, `10 ^ 0`, holds the number itself.
-/

namespace LineScript.Decimal

/-- `digits * 10 ^ exponent`. -/
structure Scientific where
  digits : Nat
  exponent : Int
deriving DecidableEq, Repr

/-- The reals that round to a magnitude, in quarters of `10 ^ -1074`: those between `low` and
`high`, and these two as well if `closed`. -/
structure RoundingInterval where
  low : Nat
  value : Nat
  high : Nat
  closed : Bool

/-- The interval reaches half way to both neighbours.  Below a power of two the neighbours are
twice as dense.  The half-way points round to the even significand. -/
def Magnitude.interval (x : Magnitude) : RoundingInterval :=
  let unit := Nat.pow 2 x.scale * Nat.pow 5 unitPlaces
  let below := if x.significand = fractionSize ∧ 0 < x.scale then 1 else 2
  { low := (4 * x.significand - below) * unit
    value := 4 * x.significand * unit
    high := (4 * x.significand + 2) * unit
    closed := x.significand % 2 = 0 }

namespace RoundingInterval

/-- Does the number, in quarters of `10 ^ -1074`, lie in the interval? -/
def holds (i : RoundingInterval) (n : Nat) : Bool :=
  (i.low < n && n < i.high) || (i.closed && (n == i.low || n == i.high))

/-- How many times `step` the number nearest to the value is among the multiples of `step` in
the interval; of two equally near ones the larger. -/
def multiple? (i : RoundingInterval) (step : Nat) : Option Nat :=
  let below := i.value / step
  let above := below + 1
  match i.holds (below * step), i.holds (above * step) with
  | true, true =>
    if i.value - below * step < above * step - i.value then some below else some above
  | true, false => some below
  | false, true => some above
  | false, false => none

/-- The first of the powers `10 ^ n`, `10 ^ (n - 1)`, … that has a multiple in the interval,
with that multiple. -/
def firstMultiple (i : RoundingInterval) : Nat → Nat × Nat
  | 0 => (i.value / 4, 0)
  | n + 1 =>
    match i.multiple? (4 * Nat.pow 10 (n + 1)) with
    | some c => (c, n + 1)
    | none => i.firstMultiple n

end RoundingInterval

/-- The shortest decimal of a magnitude.  The search begins at a power of ten above the value:
a number of `b` binary digits has at most `b * 0.30103 + 1` decimal ones. -/
def Magnitude.shortest (x : Magnitude) : Scientific :=
  let i := x.interval
  let found := i.firstMultiple (i.high.log2 * 30103 / 100000 + 2)
  ⟨found.1, found.2 - unitPlaces⟩

/-- The shortest decimal of a finite float, without its sign. -/
def shortest (x : Float) : Scientific :=
  (Magnitude.ofBits (magnitudeBits x)).shortest

example : (Magnitude.ofBits 0x3FB999999999999A).shortest = ⟨1, -1⟩ := by decide +kernel
example : (Magnitude.ofBits 1).shortest = ⟨5, -324⟩ := by decide +kernel

end LineScript.Decimal
