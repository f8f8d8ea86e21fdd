import LineScript.Decimal.Layout
import LineScript.Decimal.Numeral
import LineScript.Proofs.NumberText
import LineScript.Proofs.Rounding
import LineScript.Proofs.Scanning

/-!
Numerals that are read back.

Every decimal in the rounding interval of a finite magnitude rounds to it, also one whose power of
ten is never computed (`Scientific.nearestBits_of_holds`).  A decimal that is written positionally
or with an exponent is read as itself, perhaps with more zeros (`scientific?_magnitude`).  So what
is written for a magnitude is read as the magnitude (`nearestBits_scientific?_magnitude`).
-/

namespace LineScript.Decimal

/-! ## Decimals that round to a magnitude -/

theorem Scientific.Denotes.shift {y : Scientific} {n : Nat} (h : y.Denotes n) (count : Nat) :
    Scientific.Denotes ⟨y.digits * 10 ^ count, y.exponent - count⟩ n := by
  obtain ⟨power, zeros, hexponent, hdigits⟩ := h
  refine ⟨power, zeros + count, ?_, ?_⟩
  · dsimp only
    rw [hexponent]
    omega
  · calc 4 * (y.digits * 10 ^ count) * 10 ^ power
      _ = 4 * y.digits * 10 ^ power * 10 ^ count := by ring
      _ = n * 10 ^ (zeros + count) := by rw [hdigits]; ring

/-- The scale of the largest finite magnitudes. -/
def largestScale : Nat := 2045

/-- Every finite magnitude is below this power of ten. -/
def powerAbove : Nat := 310

/-- Every magnitude but zero is above one over this power of ten. -/
def powerBelow : Nat := 331

theorem largest_lt : Nat.pow 2 55 * (Nat.pow 2 largestScale * Nat.pow 5 unitPlaces) <
    4 * Nat.pow 10 (powerAbove + unitPlaces) := by
  decide +kernel

theorem lt_smallest :
    4 * Nat.pow 10 unitPlaces < 2 * Nat.pow 5 unitPlaces * Nat.pow 10 powerBelow := by
  decide +kernel

namespace Magnitude

theorem scale_le {x : Magnitude} (hx : x.IsCanonical) (h : x.toBits < infinityBits) :
    x.scale ≤ largestScale := by
  have hnormal := hx.le_significand
  unfold toBits at h
  simp only [fractionSize, infinityBits, largestScale] at hnormal h ⊢
  omega

theorem significand_pos {x : Magnitude} (hx : x.IsCanonical) (h : 0 < x.toBits) :
    0 < x.significand := by
  have hnormal := hx.le_significand
  unfold toBits at h
  simp only [fractionSize] at hnormal h
  omega

theorem unit_le {x : Magnitude} {scale : Nat} (h : x.scale ≤ scale) :
    x.unit ≤ Nat.pow 2 scale * Nat.pow 5 unitPlaces :=
  Nat.mul_le_mul_right _ (Nat.pow_le_pow_right (by decide) h)

theorem le_unit (x : Magnitude) : Nat.pow 5 unitPlaces ≤ x.unit :=
  Nat.le_mul_of_pos_left _ (Nat.two_pow_pos x.scale)

theorem lt_of_holds {x : Magnitude} {n : Nat} (hx : x.IsCanonical) (hbits : x.toBits < infinityBits)
    (h : x.interval.holds n = true) : n < 4 * Nat.pow 10 (powerAbove + unitPlaces) := by
  obtain ⟨-, hhigh, -⟩ := (holds_iff x n).mp h
  have hsignificand : 4 * x.significand + 2 ≤ Nat.pow 2 55 := by
    have := hx.significand_lt
    simp only [fractionSize] at this
    show _ ≤ 2 ^ 55
    omega
  refine Nat.lt_of_le_of_lt ?_ largest_lt
  calc n ≤ (4 * x.significand + 2) * x.unit := by rw [Nat.add_mul, Nat.mul_assoc]; exact hhigh
    _ ≤ Nat.pow 2 55 * (Nat.pow 2 largestScale * Nat.pow 5 unitPlaces) :=
      Nat.mul_le_mul hsignificand (unit_le (scale_le hx hbits))

theorem smallest_lt_of_holds {x : Magnitude} {n : Nat} (hx : x.IsCanonical) (hbits : 0 < x.toBits)
    (h : x.interval.holds n = true) : 4 * Nat.pow 10 unitPlaces < n * Nat.pow 10 powerBelow := by
  obtain ⟨hlow, -, -⟩ := (holds_iff x n).mp h
  have hvalue : x.unit ≤ x.significand * x.unit :=
    Nat.le_mul_of_pos_left _ (significand_pos hx hbits)
  have hbelow := Nat.mul_le_mul_right x.unit x.below_le
  have hunit := x.le_unit
  refine Nat.lt_of_lt_of_le lt_smallest (Nat.mul_le_mul_right _ ?_)
  omega

end Magnitude

/-! ## The float nearest to a decimal -/

theorem pow_le_of_toDigits {n : Nat} (hn : n ≠ 0) : 10 ^ ((Nat.toDigits 10 n).length - 1) ≤ n := by
  by_contra hlt
  rw [Nat.not_le] at hlt
  rcases Nat.eq_zero_or_pos ((Nat.toDigits 10 n).length - 1) with hone | hmore
  · rw [hone, Nat.pow_zero] at hlt
    omega
  · have := (Nat.length_toDigits_le_iff (by decide) hmore).mpr hlt
    omega

theorem lt_pow_of_toDigits (n : Nat) : n < 10 ^ (Nat.toDigits 10 n).length :=
  (Nat.length_toDigits_le_iff (by decide) Nat.length_toDigits_pos).mp (Nat.le_refl _)

namespace Scientific

variable {bits : Nat} {y : Scientific}

theorem bits_eq_zero (h : (Magnitude.ofBits bits).Holds y) (hdigits : y.digits = 0) :
    bits = 0 := by
  obtain ⟨n, ⟨power, zeros, -, hn⟩, hholds⟩ := h
  have hzero : n = 0 := by
    rw [hdigits, Nat.mul_zero, Nat.zero_mul] at hn
    exact (Nat.mul_eq_zero.mp hn.symm).resolve_right (Nat.pow_pos (by decide)).ne'
  by_contra hbits
  have := Magnitude.smallest_lt_of_holds (Magnitude.isCanonical_ofBits bits)
    (by rw [Magnitude.toBits_ofBits]; omega) hholds
  rw [hzero, Nat.zero_mul] at this
  exact Nat.not_lt_zero _ this

/-- A decimal of the interval is not too large to be looked at. -/
theorem power_le (hbits : bits < infinityBits) (h : (Magnitude.ofBits bits).Holds y)
    (hdigits : y.digits ≠ 0) : (Nat.toDigits 10 y.digits).length + y.exponent ≤ 310 := by
  obtain ⟨n, ⟨power, zeros, hexponent, hn⟩, hholds⟩ := h
  have hlow := pow_le_of_toDigits hdigits
  have hpos : 0 < (Nat.toDigits 10 y.digits).length := Nat.length_toDigits_pos
  generalize (Nat.toDigits 10 y.digits).length = count at hlow hpos ⊢
  have hlt := Magnitude.lt_of_holds (Magnitude.isCanonical_ofBits bits)
    (by rwa [Magnitude.toBits_ofBits]) hholds
  generalize unitPlaces = places at hlt hexponent
  have hpower : 10 ^ (count - 1 + power) < 10 ^ (powerAbove + places + zeros) := by
    have hscaled : 4 * 10 ^ (count - 1 + power) < 4 * 10 ^ (powerAbove + places + zeros) := by
      calc 4 * 10 ^ (count - 1 + power) = 4 * 10 ^ (count - 1) * 10 ^ power := by ring
        _ ≤ 4 * y.digits * 10 ^ power := by gcongr
        _ = n * 10 ^ zeros := hn
        _ < 4 * 10 ^ (powerAbove + places) * 10 ^ zeros := by
          exact Nat.mul_lt_mul_of_pos_right hlt (Nat.pow_pos (by decide))
        _ = 4 * 10 ^ (powerAbove + places + zeros) := by ring
    omega
  have := (Nat.pow_lt_pow_iff_right (by decide)).mp hpower
  unfold powerAbove at this
  omega

/-- Nor is it too small, unless the magnitude is zero. -/
theorem le_power (hbits : 0 < bits) (h : (Magnitude.ofBits bits).Holds y) :
    -330 ≤ (Nat.toDigits 10 y.digits).length + y.exponent := by
  obtain ⟨n, ⟨power, zeros, hexponent, hn⟩, hholds⟩ := h
  have hhigh := lt_pow_of_toDigits y.digits
  generalize (Nat.toDigits 10 y.digits).length = count at hhigh ⊢
  have hlt := Magnitude.smallest_lt_of_holds (Magnitude.isCanonical_ofBits bits)
    (by rwa [Magnitude.toBits_ofBits]) hholds
  generalize unitPlaces = places at hlt hexponent
  generalize hleast : powerBelow = least at hlt
  have hpower : 10 ^ (places + zeros) < 10 ^ (count + power + least) := by
    have hscaled : 4 * 10 ^ (places + zeros) < 4 * 10 ^ (count + power + least) := by
      calc 4 * 10 ^ (places + zeros) = 4 * 10 ^ places * 10 ^ zeros := by ring
        _ < n * 10 ^ least * 10 ^ zeros := by
          exact Nat.mul_lt_mul_of_pos_right hlt (Nat.pow_pos (by decide))
        _ = 4 * y.digits * 10 ^ power * 10 ^ least := by rw [hn]; ring
        _ ≤ 4 * 10 ^ count * 10 ^ power * 10 ^ least := by gcongr
        _ = 4 * 10 ^ (count + power + least) := by ring
    omega
  have := (Nat.pow_lt_pow_iff_right (by decide)).mp hpower
  unfold powerBelow at hleast
  omega

theorem ten_pow_pos (n : Nat) : 0 < 10 ^ n :=
  Nat.pow_pos (by decide)

/-- A decimal without places behind the point, as a quotient. -/
theorem Denotes.of_whole {n exponent : Nat} (h : y.Denotes n) (he : y.exponent = exponent) :
    4 * (y.digits * Nat.pow 10 exponent) * Nat.pow 10 unitPlaces = n * 1 := by
  obtain ⟨power, zeros, hexponent, hn⟩ := h
  generalize unitPlaces = places at hexponent ⊢
  have hpower : power = exponent + places + zeros := by omega
  refine Nat.eq_of_mul_eq_mul_right (ten_pow_pos zeros) ?_
  rw [Nat.mul_one, ← hn, hpower]
  show 4 * (y.digits * 10 ^ exponent) * 10 ^ places * 10 ^ zeros = _
  ring

/-- A decimal with places behind the point, as a quotient. -/
theorem Denotes.of_fraction {n places : Nat} (h : y.Denotes n) (he : y.exponent = -places) :
    4 * y.digits * Nat.pow 10 unitPlaces = n * Nat.pow 10 places := by
  obtain ⟨power, zeros, hexponent, hn⟩ := h
  generalize unitPlaces = unit at hexponent ⊢
  have hpower : power + places = unit + zeros := by omega
  refine Nat.eq_of_mul_eq_mul_right (ten_pow_pos power) ?_
  show 4 * y.digits * 10 ^ unit * 10 ^ power = n * 10 ^ places * 10 ^ power
  calc 4 * y.digits * 10 ^ unit * 10 ^ power
    _ = n * 10 ^ zeros * 10 ^ unit := by rw [← hn]; ring
    _ = n * 10 ^ (power + places) := by rw [hpower]; ring
    _ = n * 10 ^ places * 10 ^ power := by ring

/-- **Rounding.**  Every decimal in the rounding interval of a finite magnitude is read as it. -/
theorem nearestBits_of_holds (hbits : bits < infinityBits) (h : (Magnitude.ofBits bits).Holds y) :
    y.nearestBits = bits := by
  unfold nearestBits
  dsimp only
  by_cases hdigits : y.digits = 0
  · rw [if_pos hdigits, bits_eq_zero h hdigits]
  · rw [if_neg hdigits, if_neg (Int.not_lt.mpr (power_le hbits h hdigits))]
    split
    · next hsmall =>
      by_contra hne
      have := le_power (by omega) h
      omega
    · obtain ⟨n, hdenotes, hholds⟩ := h
      have hquotient (num den : Nat) (hden : 0 < den)
          (hnum : 4 * num * Nat.pow 10 unitPlaces = n * den) : Decimal.nearestBits num den = bits :=
        nearestBits_of_covers hbits hden (Magnitude.covers_of_holds hden hnum hholds)
      split
      · next hwhole =>
        refine hquotient _ 1 Nat.one_pos (hdenotes.of_whole ?_)
        omega
      · next hfraction =>
        refine hquotient _ _ (ten_pow_pos _) (hdenotes.of_fraction ?_)
        omega

end Scientific

/-! ## Digits -/

theorem ofDigits_digitList (n : Nat) : ofDigits (digitList n) = n :=
  Nat.ofDigitChars_ten_toDigits

theorem ofDigits_zeros_append (count : Nat) (digits : List Char) :
    ofDigits (List.replicate count '0' ++ digits) = ofDigits digits := by
  unfold ofDigits
  rw [Nat.ofDigitChars_append, Nat.ofDigitChars_replicate_zero, Nat.mul_zero]

theorem ofDigits_append_zeros (digits : List Char) (count : Nat) :
    ofDigits (digits ++ List.replicate count '0') = ofDigits digits * 10 ^ count := by
  unfold ofDigits
  rw [Nat.ofDigitChars_append, Nat.ofDigitChars_replicate_zero, Nat.mul_comm]

theorem isDigit_of_mem_digitList (n : Nat) : ∀ c ∈ digitList n, c.isDigit = true :=
  chars_digitList (fun _ h => h) n

theorem isDigit_of_mem_zeros (count : Nat) : ∀ c ∈ List.replicate count '0', c.isDigit = true :=
  chars_zeros (fun _ h => h) count

/-! ## Parts of a numeral -/

/-- Digits, a point, digits, and what follows them. -/
theorem scientific?_of_point {whole fraction tail : List Char} (hne : whole ≠ [])
    (hwhole : ∀ c ∈ whole, c.isDigit = true) (hfraction : ∀ c ∈ fraction, c.isDigit = true)
    (htail : ∀ c, tail.head? = some c → c.isDigit = false) :
    scientific? (whole ++ '.' :: (fraction ++ tail)) =
      (exponent? tail).map fun e => ⟨ofDigits (whole ++ fraction), e - fraction.length⟩ := by
  obtain ⟨htake, hdrop⟩ := takeWhile_dropWhile_append whole ('.' :: (fraction ++ tail)) hwhole
    (by rintro c hc; cases hc; rfl)
  obtain ⟨htake', hdrop'⟩ := takeWhile_dropWhile_append fraction tail hfraction htail
  simp only [scientific?, htake, hdrop, htake', hdrop', hne, false_and, if_false]

/-- Digits, a point and digits. -/
theorem scientific?_of_fraction {whole fraction : List Char} (hne : whole ≠ [])
    (hwhole : ∀ c ∈ whole, c.isDigit = true) (hfraction : ∀ c ∈ fraction, c.isDigit = true) :
    scientific? (whole ++ '.' :: fraction) =
      some ⟨ofDigits (whole ++ fraction), -fraction.length⟩ := by
  have h := scientific?_of_point hne hwhole hfraction (show ∀ c, [].head? = some c → _ by simp)
  rw [List.append_nil] at h
  rw [h, exponent?, Option.map_some, Int.zero_sub]

/-- Digits, and what follows them. -/
theorem scientific?_of_whole {whole tail : List Char} (hne : whole ≠ [])
    (hwhole : ∀ c ∈ whole, c.isDigit = true)
    (htail : ∀ c, tail.head? = some c → c.isDigit = false ∧ c ≠ '.') :
    scientific? (whole ++ tail) = (exponent? tail).map fun e => ⟨ofDigits whole, e⟩ := by
  obtain ⟨htake, hdrop⟩ := takeWhile_dropWhile_append whole tail hwhole fun c hc => (htail c hc).1
  unfold scientific?
  rw [htake, hdrop]
  split
  next fraction rest hsplit =>
  split at hsplit
  · next more => exact absurd rfl (htail '.' rfl).2
  · cases hsplit
    simp [hne]

/-- What is read as a numeral begins with a digit or the point. -/
theorem head_of_scientific? {cs : List Char} (h : scientific? cs ≠ none) :
    ∃ first rest, cs = first :: rest ∧ (first.isDigit = true ∨ first = '.') := by
  cases cs with
  | nil => exact absurd rfl h
  | cons first rest =>
    refine ⟨first, rest, rfl, ?_⟩
    by_contra hfirst
    rw [not_or, Bool.not_eq_true] at hfirst
    exact h (scientific?_of_head hfirst.1 hfirst.2 rest)

/-- An exponent is read as it was written. -/
theorem exponent?_written (zeros : Nat) (exponent : Int) :
    exponent? ('e' :: (if exponent < 0 then '-' else '+') ::
      (List.replicate zeros '0' ++ digitList exponent.natAbs)) = some exponent := by
  have hall : ∀ c ∈ List.replicate zeros '0' ++ digitList exponent.natAbs, c.isDigit = true := by
    rw [List.forall_mem_append]
    exact ⟨isDigit_of_mem_zeros _, isDigit_of_mem_digitList _⟩
  have hne : List.replicate zeros '0' ++ digitList exponent.natAbs ≠ [] := by
    simp [digitList]
  have hvalue : ofDigits (List.replicate zeros '0' ++ digitList exponent.natAbs) =
      exponent.natAbs := by
    rw [ofDigits_zeros_append, ofDigits_digitList]
  generalize List.replicate zeros '0' ++ digitList exponent.natAbs = digits at hall hne hvalue ⊢
  have hdigits : digits ≠ [] ∧ digits.all Char.isDigit = true :=
    ⟨hne, List.all_eq_true.mpr hall⟩
  by_cases hnegative : exponent < 0
  · simp only [exponent?, takeSign, hnegative, hdigits, hvalue, if_true, true_or, and_self,
      ne_eq, not_false_eq_true]
    congr 1
    omega
  · simp only [exponent?, takeSign, hnegative, hdigits, hvalue, if_true, if_false, true_or,
      and_self, ne_eq, not_false_eq_true]
    congr 1
    simp only [Bool.false_eq_true, if_false]
    omega

/-! ## Written decimals -/

section

variable {digits : List Char} (hdigits : ∀ c ∈ digits, c.isDigit = true) (hne : digits ≠ [])

include hdigits hne

omit hne in
/-- Zeros between the point and the digits. -/
theorem scientific?_zeros_append (count : Nat) :
    scientific? (['0', '.'] ++ List.replicate count '0' ++ digits) =
      some ⟨ofDigits digits, -(count + digits.length : Nat)⟩ := by
  have hfraction : ∀ c ∈ List.replicate count '0' ++ digits, c.isDigit = true := by
    rw [List.forall_mem_append]
    exact ⟨isDigit_of_mem_zeros _, hdigits⟩
  have hread := scientific?_of_fraction (show ['0'] ≠ [] by simp) (by simp) hfraction
  have hvalue : ofDigits (['0'] ++ (List.replicate count '0' ++ digits)) = ofDigits digits :=
    ofDigits_zeros_append (count + 1) digits
  rw [hvalue, List.length_append, List.length_replicate] at hread
  rw [← hread]
  simp

/-- Zeros between the digits and the point, and one behind it. -/
theorem scientific?_append_zeros (count : Nat) :
    scientific? (digits ++ List.replicate count '0' ++ ".0".toList) =
      some ⟨ofDigits digits * 10 ^ (count + 1), -1⟩ := by
  have hall : ∀ c ∈ digits ++ List.replicate count '0', c.isDigit = true := by
    rw [List.forall_mem_append]
    exact ⟨hdigits, isDigit_of_mem_zeros _⟩
  have hread := scientific?_of_fraction (List.append_ne_nil_of_left_ne_nil hne _) hall
    (show ∀ c ∈ ['0'], c.isDigit = true by simp)
  have hvalue : ofDigits (digits ++ List.replicate count '0' ++ ['0']) =
      ofDigits digits * 10 ^ (count + 1) := by
    rw [List.append_assoc, ← List.replicate_succ', ofDigits_append_zeros]
  rwa [hvalue] at hread

/-- The point between two digits. -/
theorem scientific?_take_drop {before : Nat} (hbefore : 0 < before) :
    scientific? (digits.take before ++ ['.'] ++ digits.drop before) =
      some ⟨ofDigits digits, -(digits.length - before : Nat)⟩ := by
  have htake : digits.take before ≠ [] := by
    rw [Ne, List.take_eq_nil_iff, not_or]
    exact ⟨by omega, hne⟩
  have hfraction : ∀ c ∈ digits.drop before, c.isDigit = true :=
    fun c hc => hdigits c (List.mem_of_mem_drop hc)
  have hread := scientific?_of_fraction htake
    (fun c hc => hdigits c (List.mem_of_mem_take hc)) hfraction
  rw [List.take_append_drop, List.length_drop] at hread
  rw [← hread]
  simp

/-- What is written positionally is read as the same decimal, with some zeros if it is whole. -/
theorem scientific?_positional (exponent : Int) :
    ∃ zeros : Nat, scientific? (positional ".0" digits (digits.length + exponent)) =
      some ⟨ofDigits digits * 10 ^ zeros, exponent - zeros⟩ := by
  unfold positional
  dsimp only
  split
  · next hsmall =>
    refine ⟨0, (scientific?_zeros_append hdigits _).trans ?_⟩
    rw [Nat.pow_zero, Nat.mul_one]
    congr 2
    omega
  · next hlarge =>
    split
    · next hwhole =>
      generalize hcount : (digits.length + exponent : Int).toNat - digits.length = count
      refine ⟨count + 1, (scientific?_append_zeros hdigits hne count).trans ?_⟩
      congr 2
      omega
    · next hpoint =>
      refine ⟨0, (scientific?_take_drop hdigits hne (by omega)).trans ?_⟩
      rw [Nat.pow_zero, Nat.mul_one]
      congr 2
      omega

/-- What is written with an exponent is read as the same decimal. -/
theorem scientific?_exponential (width : Nat) (exponent : Int) :
    scientific? (exponential width digits (digits.length + exponent - 1)) =
      some ⟨ofDigits digits, exponent⟩ := by
  generalize hpower : (digits.length + exponent - 1 : Int) = power
  have htail := exponent?_written (width - (digitList power.natAbs).length) power
  unfold exponential
  dsimp only
  generalize List.replicate (width - (digitList power.natAbs).length) '0' = zeros at htail ⊢
  generalize (if power < 0 then '-' else '+') = sign at htail ⊢
  generalize digitList power.natAbs = magnitude at htail ⊢
  have hhead (c : Char) (hc : ('e' :: sign :: (zeros ++ magnitude)).head? = some c) :
      c.isDigit = false ∧ c ≠ '.' := by
    cases hc
    decide
  rcases digits with _ | ⟨first, _ | ⟨second, rest⟩⟩
  · exact absurd rfl hne
  · -- one digit has no point behind it
    have hread := scientific?_of_whole hne hdigits hhead
    rw [htail, Option.map_some] at hread
    obtain rfl : power = exponent := by
      simpa using hpower.symm
    rw [← hread]
    simp
  · obtain ⟨hfirst, hfraction⟩ := List.forall_mem_cons.mp hdigits
    have hread := scientific?_of_point (show [first] ≠ [] by simp) (by simpa using hfirst) hfraction
      fun c hc => (hhead c hc).1
    rw [htail, Option.map_some] at hread
    have hexponent : power - (second :: rest).length = exponent := by
      rw [← hpower, List.length_cons]
      omega
    rw [hexponent] at hread
    rw [← List.singleton_append, ← hread]
    simp

end

/-! ## Magnitudes that are read back -/

theorem Magnitude.Holds.shift {x : Magnitude} {y : Scientific} (h : x.Holds y) (count : Nat) :
    x.Holds ⟨y.digits * 10 ^ count, y.exponent - count⟩ := by
  obtain ⟨n, hn, hholds⟩ := h
  exact ⟨n, hn.shift count, hholds⟩

/-- Apart from zero, a written decimal is read as itself, perhaps with some more zeros. -/
theorem scientific?_magnitude {y : Scientific} (hdigits : y.digits ≠ 0) :
    ∃ zeros : Nat, scientific? (Layout.value.magnitude y) =
      some ⟨y.digits * 10 ^ zeros, y.exponent - zeros⟩ := by
  have hall : ∀ c ∈ digitList y.digits, c.isDigit = true := isDigit_of_mem_digitList _
  have hne : digitList y.digits ≠ [] := by simp [digitList]
  unfold Layout.magnitude
  rw [if_neg hdigits]
  dsimp only
  split
  · have h := scientific?_positional hall hne y.exponent
    rwa [ofDigits_digitList] at h
  · have h := scientific?_exponential hall hne Layout.value.exponentWidth y.exponent
    rw [ofDigits_digitList] at h
    exact ⟨0, by simpa using h⟩

/-- **Round trip.**  Every decimal in the rounding interval of a finite magnitude is written so that
it is read as the magnitude. -/
theorem nearestBits_scientific?_magnitude {bits : Nat} (hbits : bits < infinityBits)
    {y : Scientific} (h : (Magnitude.ofBits bits).Holds y) :
    (scientific? (Layout.value.magnitude y)).map Scientific.nearestBits = some bits := by
  by_cases hdigits : y.digits = 0
  · obtain rfl := Scientific.bits_eq_zero h hdigits
    unfold Layout.magnitude
    rw [if_pos hdigits]
    rfl
  · obtain ⟨zeros, hread⟩ := scientific?_magnitude hdigits
    rw [hread, Option.map_some, Scientific.nearestBits_of_holds hbits (h.shift zeros)]

end LineScript.Decimal
