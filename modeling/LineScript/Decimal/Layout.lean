import LineScript.Decimal.Shortest

/-!
How numbers are written.  A `Layout` says where positional writing ends and what stands around
the digits; the digits are those of the shortest decimal.
-/

namespace LineScript.Decimal

/-- The decisions of a way to write numbers. -/
structure Layout where
  /-- Magnitudes from `10 ^ minPower` are written positionally; `none` is no bound. -/
  minPower : Option Int
  /-- Magnitudes below `10 ^ maxPower` are written positionally; `none` is no bound. -/
  maxPower : Option Int
  /-- Stands behind a whole number that is written positionally. -/
  wholeMark : String
  /-- The exponent has at least as many digits. -/
  exponentWidth : Nat
  notANumber : String
  infinity : String

/-- How values are written: positionally from `10 ^ -4` up to `10 ^ 16` and always with a
fraction, else with an exponent that has a sign and at least two digits. -/
def Layout.value : Layout where
  minPower := some (-4)
  maxPower := some 16
  wholeMark := ".0"
  exponentWidth := 2
  notANumber := "nan"
  infinity := "inf"

/-- How numbers are written in messages: always positionally, with a fraction only where there
is one. -/
def Layout.message : Layout where
  minPower := none
  maxPower := none
  wholeMark := ""
  exponentWidth := 0
  notANumber := "NaN"
  infinity := "inf"

def digitList (n : Nat) : List Char :=
  Nat.toDigits 10 n

/-- Digits whose first one stands `point` places in front of the point (behind it, if negative). -/
def positional (wholeMark : String) (digits : List Char) (point : Int) : List Char :=
  let before := point.toNat
  if point ≤ 0 then ['0', '.'] ++ List.replicate (-point).toNat '0' ++ digits
  else if digits.length ≤ before then
    digits ++ List.replicate (before - digits.length) '0' ++ wholeMark.toList
  else digits.take before ++ ['.'] ++ digits.drop before

/-- One digit in front of the point, then the exponent with its sign. -/
def exponential (width : Nat) (digits : List Char) (exponent : Int) : List Char :=
  let magnitude := digitList exponent.natAbs
  let mantissa := match digits with
    | first :: second :: rest => [first, '.', second] ++ rest
    | _ => digits
  mantissa ++ ['e', if exponent < 0 then '-' else '+'] ++
    List.replicate (width - magnitude.length) '0' ++ magnitude

def Layout.magnitude (layout : Layout) (x : Scientific) : List Char :=
  if x.digits = 0 then '0' :: layout.wholeMark.toList
  else
    let digits := digitList x.digits
    let point := digits.length + x.exponent
    if layout.minPower.all (· < point) && layout.maxPower.all (point ≤ ·) then
      positional layout.wholeMark digits point
    else exponential layout.exponentWidth digits (point - 1)

def Layout.write (layout : Layout) (x : Float) : String :=
  if x.isNaN then layout.notANumber
  else
    let sign := if isNegative x then "-" else ""
    if x.isInf then sign ++ layout.infinity
    else sign ++ String.ofList (layout.magnitude (shortest x))

end LineScript.Decimal
