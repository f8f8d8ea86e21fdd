import LineScript.Decimal.Shortest

/-!
Numbers as they are read: an optional sign, then `inf`, `infinity` or `nan` in any letter case,
or decimal digits with an optional point and an optional exponent.  Only ASCII digits count, and
at least one must stand on one side of the point.  The number is the float nearest to the
numeral; the even one of two equally near.
-/

namespace LineScript.Decimal

def ofDigits (digits : List Char) : Nat :=
  Nat.ofDigitChars 10 digits 0

/-- Takes a sign off; `true` is minus. -/
def takeSign : List Char → Bool × List Char
  | '-' :: rest => (true, rest)
  | '+' :: rest => (false, rest)
  | cs => (false, cs)

/-- The exponent part: nothing, or `e`, an optional sign and at least one digit. -/
def exponent? : List Char → Option Int
  | [] => some 0
  | e :: rest =>
    if e = 'e' ∨ e = 'E' then
      let (negative, digits) := takeSign rest
      if digits ≠ [] ∧ digits.all Char.isDigit then
        let n : Int := ofDigits digits
        some (if negative then -n else n)
      else none
    else none

def scientific? (cs : List Char) : Option Scientific :=
  let whole := cs.takeWhile Char.isDigit
  let (fraction, rest) := match cs.dropWhile Char.isDigit with
    | '.' :: more => (more.takeWhile Char.isDigit, more.dropWhile Char.isDigit)
    | rest => ([], rest)
  if whole = [] ∧ fraction = [] then none
  else (exponent? rest).map fun e => ⟨ofDigits (whole ++ fraction), e - fraction.length⟩

/-- The bits of the float nearest to a decimal.  From `10 ^ 310` on every number is infinite
and below `10 ^ -330` every number is zero, so their powers of ten are never computed. -/
def Scientific.nearestBits (x : Scientific) : Nat :=
  let power := (Nat.toDigits 10 x.digits).length + x.exponent
  if x.digits = 0 then 0
  else if 310 < power then infinityBits
  else if power < -330 then 0
  else if 0 ≤ x.exponent then Decimal.nearestBits (x.digits * Nat.pow 10 x.exponent.toNat) 1
  else Decimal.nearestBits x.digits (Nat.pow 10 (-x.exponent).toNat)

def notANumberBits : Nat := 0x7FF8000000000000

/-- The words for numbers without digits. -/
def specialBits? (cs : List Char) : Option Nat :=
  let word := cs.map Char.toLower
  if word = "inf".toList ∨ word = "infinity".toList then some infinityBits
  else if word = "nan".toList then some notANumberBits
  else none

/-- The number that the text writes, if it writes one. -/
def readNumber? (text : String) : Option Float :=
  let (negative, cs) := takeSign text.toList
  (specialBits? cs <|> (scientific? cs).map Scientific.nearestBits).map (floatOf negative)

end LineScript.Decimal
