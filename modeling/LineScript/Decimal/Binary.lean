/-!
The magnitude of a 64-bit float as a whole number.  All finite floats are multiples of the
smallest unit `2 ^ -1074`; `Magnitude` writes one as `significand * 2 ^ scale` such units.

Main statement: reading a bit pattern and writing it again gives the same pattern
(`Magnitude.toBits_ofBits`).  `nearestBits` rounds a quotient to a pattern, ties to even.
-/

namespace LineScript.Decimal

/-- The smallest unit has so many binary places. -/
def unitPlaces : Nat := 1074

/-- `significand * 2 ^ scale` smallest units. -/
structure Magnitude where
  significand : Nat
  scale : Nat
deriving DecidableEq

/-- The bit pattern of infinity; every smaller pattern is a finite magnitude. -/
def infinityBits : Nat := 0x7FF0000000000000

/-- The bit that stands for the sign: `2 ^ 63`. -/
def signBit : Nat := 0x8000000000000000

/-- One more than the largest fraction: `2 ^ 52`. -/
def fractionSize : Nat := 0x10000000000000

namespace Magnitude

/-- Reads an exponent field and a fraction field.  The lowest exponent has no hidden bit. -/
def ofBits (bits : Nat) : Magnitude :=
  if bits < fractionSize then ⟨bits, 0⟩
  else ⟨fractionSize + bits % fractionSize, bits / fractionSize - 1⟩

/-- Writes the fields.  A significand of `2 ^ 53` carries into the exponent by itself. -/
def toBits (x : Magnitude) : Nat :=
  x.scale * fractionSize + x.significand

theorem toBits_ofBits (bits : Nat) : (ofBits bits).toBits = bits := by
  unfold ofBits toBits fractionSize
  split
  · simp
  · next h =>
    have : 1 ≤ bits / 0x10000000000000 := by omega
    simp only
    omega

end Magnitude

/-- The quotient rounded to the nearest whole number, a tie to the even one. -/
def divRoundEven (num den : Nat) : Nat :=
  let quotient := num / den
  let twice := 2 * (num % den)
  if twice < den ∨ twice = den ∧ quotient % 2 = 0 then quotient else quotient + 1

/-- The bit pattern of the float nearest to `num / den`, a tie going to the even pattern.
What is too large for a finite float becomes infinity. -/
def nearestBits (num den : Nat) : Nat :=
  let units := num * Nat.pow 2 unitPlaces
  let scale := (units / den).log2 - 52
  min infinityBits (Magnitude.toBits ⟨divRoundEven units (den * Nat.pow 2 scale), scale⟩)

example : nearestBits 1 1 = 0x3FF0000000000000 := by decide +kernel
example : nearestBits 1 10 = 0x3FB999999999999A := by decide +kernel
example : nearestBits 0x20000000000001 1 = nearestBits 0x20000000000000 1 := by decide +kernel

/-- The float of a sign and a magnitude's bits. -/
def floatOf (negative : Bool) (bits : Nat) : Float :=
  Float.ofBits (UInt64.ofNat (bits + if negative then signBit else 0))

/-- Is the sign of the float negative?  Minus zero is negative too. -/
def isNegative (x : Float) : Bool :=
  signBit ≤ x.toBits.toNat

/-- The bits of the float without the sign. -/
def magnitudeBits (x : Float) : Nat :=
  x.toBits.toNat % signBit

end LineScript.Decimal
