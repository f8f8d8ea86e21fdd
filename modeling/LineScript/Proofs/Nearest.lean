import Mathlib
import LineScript.Proofs.NumberRoundTrip

/-!
The nearest float.

Patterns are ordered like the magnitudes that they stand for, and each lies one unit of its own
scale below the next one (`patternUnits_succ`).  So a number that is rounded on the grid of its own
scale is rounded to the nearest of all patterns (`RoundsOnGrid.nearest`), and if that is behind the
finite ones, infinity is the nearest that is left.

Main statement: every decimal is read as the float nearest to it, a tie going to the even one
(`Scientific.isNearestFloat`).
-/

namespace LineScript.Decimal

/-! ## The order of patterns -/

/-- The magnitude of a pattern, in smallest units.  For infinity this is the power of two behind the
finite magnitudes. -/
def patternUnits (bits : Nat) : Nat :=
  (Magnitude.ofBits bits).significand * 2 ^ (Magnitude.ofBits bits).scale

theorem ofBits_toBits_of_le {n k : Nat} (hlow : fractionSize ≤ n) (hhigh : n < 2 * fractionSize) :
    Magnitude.ofBits (Magnitude.toBits ⟨n, k⟩) = ⟨n, k⟩ := by
  simp only [fractionSize] at hlow hhigh
  unfold Magnitude.ofBits Magnitude.toBits fractionSize
  dsimp only
  rw [if_neg (by omega), Magnitude.mk.injEq]
  constructor <;> omega

/-- A significand of two powers carries into the exponent. -/
theorem toBits_carry (k : Nat) :
    Magnitude.toBits ⟨2 * fractionSize, k⟩ = Magnitude.toBits ⟨fractionSize, k + 1⟩ := by
  unfold Magnitude.toBits
  ring

/-- A magnitude is that of its pattern, also where its significand is carried into the exponent. -/
theorem patternUnits_toBits {n k : Nat} (hlow : 0 < k → fractionSize ≤ n)
    (hhigh : n ≤ 2 * fractionSize) : patternUnits (Magnitude.toBits ⟨n, k⟩) = n * 2 ^ k := by
  unfold patternUnits
  rcases Nat.lt_or_ge n fractionSize with hsmall | hnormal
  · obtain rfl : k = 0 := by
      by_contra hk
      have := hlow (Nat.pos_of_ne_zero hk)
      omega
    have hbits : Magnitude.toBits ⟨n, 0⟩ = n := by simp [Magnitude.toBits]
    rw [hbits, Magnitude.ofBits, if_pos hsmall]
  · rcases hhigh.lt_or_eq with hlt | rfl
    · rw [ofBits_toBits_of_le hnormal hlt]
    · rw [toBits_carry, ofBits_toBits_of_le (Nat.le_refl _) (by decide), Nat.pow_succ]
      ring

/-- The next pattern stands for one unit of the scale more. -/
theorem patternUnits_succ (bits : Nat) :
    patternUnits (bits + 1) = patternUnits bits + 2 ^ (Magnitude.ofBits bits).scale := by
  obtain ⟨hlt, hle⟩ := Magnitude.isCanonical_ofBits bits
  have hbits := Magnitude.toBits_ofBits bits
  unfold patternUnits at *
  generalize Magnitude.ofBits bits = x at hlt hle hbits ⊢
  obtain ⟨n, k⟩ := x
  dsimp only at hlt hle ⊢
  have hnext : bits + 1 = Magnitude.toBits ⟨n + 1, k⟩ := by
    rw [← hbits]
    simp only [Magnitude.toBits, Nat.add_assoc]
  have h := patternUnits_toBits (n := n + 1) (k := k) (fun hk => (hle hk).trans (Nat.le_succ n)) hlt
  rw [hnext]
  exact h.trans (Nat.succ_mul n _)

theorem patternUnits_strictMono : StrictMono patternUnits :=
  strictMono_nat_of_lt_succ fun bits => by
    rw [patternUnits_succ]
    exact Nat.lt_add_of_pos_right (Nat.two_pow_pos _)

/-! ## The nearest pattern -/

/-- `n` is `q` rounded on the grid of the multiples of `2 ^ k`, which is the grid of the patterns about
`q`. -/
structure RoundsOnGrid (q : ℚ) (n k : Nat) : Prop where
  /-- A coarser grid than the finest one is taken only where the numbers are normal. -/
  le : 0 < k → (fractionSize * 2 ^ k : ℚ) ≤ q
  low : (n * 2 ^ k : ℚ) - 2 ^ k / 2 ≤ q
  high : q ≤ (n * 2 ^ k : ℚ) + 2 ^ k / 2
  tie : (n * 2 ^ k : ℚ) - 2 ^ k / 2 = q ∨ q = (n * 2 ^ k : ℚ) + 2 ^ k / 2 → n % 2 = 0
  normal : 0 < k → fractionSize ≤ n
  carry : n ≤ 2 * fractionSize

/-- No pattern from zero to infinity is nearer to `q` units than `bits`; if one is as near, `bits` is
even. -/
structure IsNearestPattern (q : ℚ) (bits : Nat) : Prop where
  le_infinity : bits ≤ infinityBits
  le : ∀ other ≤ infinityBits, |q - patternUnits bits| ≤ |q - patternUnits other|
  tie : ∀ other ≤ infinityBits, other ≠ bits →
    |q - patternUnits bits| = |q - patternUnits other| → bits % 2 = 0

theorem IsNearestPattern.of_lt {q : ℚ} {bits : Nat} (hle : bits ≤ infinityBits)
    (h : ∀ other ≤ infinityBits, other ≠ bits →
      |q - patternUnits bits| < |q - patternUnits other| ∨
        |q - patternUnits bits| = |q - patternUnits other| ∧ bits % 2 = 0) :
    IsNearestPattern q bits := by
  refine ⟨hle, fun other hother => ?_, fun other hother hne heq => ?_⟩
  · rcases eq_or_ne other bits with rfl | hne
    · exact le_rfl
    · exact (h other hother hne).elim le_of_lt fun heq => heq.1.le
  · exact (h other hother hne).elim (fun hlt => absurd heq hlt.ne) fun heq => heq.2

/-- A number at most half way up is nearer than what stands a whole step above. -/
theorem nearer_of_le {q value other step : ℚ} (hstep : 0 < step) (hq : q ≤ value + step / 2)
    (hother : value + step ≤ other) :
    |q - value| < |q - other| ∨ |q - value| = |q - other| ∧ q = value + step / 2 := by
  have habove : |q - other| = other - q := by
    rw [abs_sub_comm]
    exact abs_of_nonneg (by linarith)
  rw [habove]
  rcases le_total q value with hle | hle
  · rw [abs_sub_comm, abs_of_nonneg (by linarith)]
    exact .inl (by linarith)
  · rw [abs_of_nonneg (by linarith)]
    rcases hq.lt_or_eq with hlt | rfl
    · exact .inl (by linarith)
    · rcases hother.lt_or_eq with hlt | rfl
      · exact .inl (by linarith)
      · exact .inr ⟨by ring, rfl⟩

/-- The same the other way around. -/
theorem nearer_of_ge {q value other step : ℚ} (hstep : 0 < step) (hq : value - step / 2 ≤ q)
    (hother : other ≤ value - step) :
    |q - value| < |q - other| ∨ |q - value| = |q - other| ∧ value - step / 2 = q := by
  have h := nearer_of_le hstep (show -q ≤ -value + step / 2 by linarith)
    (show -value + step ≤ -other by linarith)
  have hneg (a : ℚ) : |-q - -a| = |q - a| := by
    rw [neg_sub_neg, abs_sub_comm]
  rw [hneg, hneg] at h
  exact h.imp_right fun ⟨heq, hq⟩ => ⟨heq, by linarith⟩

namespace RoundsOnGrid

variable {q : ℚ} {n k : Nat} (h : RoundsOnGrid q n k)

include h

theorem patternUnits_eq : patternUnits (Magnitude.toBits ⟨n, k⟩) = n * 2 ^ k :=
  patternUnits_toBits h.normal h.carry

theorem add_le {other : Nat} (hother : Magnitude.toBits ⟨n, k⟩ < other) :
    n * 2 ^ k + 2 ^ k ≤ patternUnits other := by
  have hmono := patternUnits_strictMono.monotone (Nat.succ_le_of_lt hother)
  have hscale : k ≤ (Magnitude.ofBits (Magnitude.toBits ⟨n, k⟩)).scale := by
    rcases Nat.eq_zero_or_pos k with rfl | hk
    · exact Nat.zero_le _
    · rcases h.carry.lt_or_eq with hlt | rfl
      · rw [ofBits_toBits_of_le (h.normal hk) hlt]
      · rw [toBits_carry, ofBits_toBits_of_le (Nat.le_refl _) (by decide)]
        exact Nat.le_succ k
  rw [Nat.succ_eq_add_one, patternUnits_succ, h.patternUnits_eq] at hmono
  have hpow := Nat.pow_le_pow_right (show 0 < 2 by decide) hscale
  omega

theorem le_sub {other : Nat} (hother : other < Magnitude.toBits ⟨n, k⟩)
    (hpower : ¬ (0 < k ∧ n = fractionSize)) : patternUnits other + 2 ^ k ≤ n * 2 ^ k := by
  have hpos : 0 < n := by
    rcases Nat.eq_zero_or_pos k with rfl | hk
    · simp only [Magnitude.toBits] at hother
      omega
    · exact Nat.lt_of_lt_of_le (by decide) (h.normal hk)
  obtain ⟨m, rfl⟩ := Nat.exists_eq_add_of_le' hpos
  have hnormal : 0 < k → fractionSize ≤ m := by
    intro hk
    have hm := h.normal hk
    have hne : m + 1 ≠ fractionSize := fun hm => hpower ⟨hk, hm⟩
    omega
  have hle : other ≤ Magnitude.toBits ⟨m, k⟩ := by
    unfold Magnitude.toBits at hother ⊢
    dsimp only at hother ⊢
    omega
  have hmono := patternUnits_strictMono.monotone hle
  rw [patternUnits_toBits hnormal ((Nat.le_succ m).trans h.carry)] at hmono
  rw [Nat.succ_mul]
  omega

theorem tie_even (hq : (n * 2 ^ k : ℚ) - 2 ^ k / 2 = q ∨ q = (n * 2 ^ k : ℚ) + 2 ^ k / 2) :
    Magnitude.toBits ⟨n, k⟩ % 2 = 0 := by
  have heven := h.tie hq
  unfold Magnitude.toBits fractionSize
  dsimp only
  omega

/-- What is rounded is the nearest of all patterns, those behind infinity included. -/
theorem nearest {other : Nat} (hne : other ≠ Magnitude.toBits ⟨n, k⟩) :
    |q - patternUnits (Magnitude.toBits ⟨n, k⟩)| < |q - patternUnits other| ∨
      |q - patternUnits (Magnitude.toBits ⟨n, k⟩)| = |q - patternUnits other| ∧
        Magnitude.toBits ⟨n, k⟩ % 2 = 0 := by
  have hstep : (0 : ℚ) < 2 ^ k := by positivity
  have hvalue : (patternUnits (Magnitude.toBits ⟨n, k⟩) : ℚ) = n * 2 ^ k := by
    rw [h.patternUnits_eq]
    push_cast
    rfl
  rw [hvalue]
  rcases lt_or_gt_of_ne hne with hlt | hgt
  · by_cases hpower : 0 < k ∧ n = fractionSize
    · -- the grid is finer below a power of two, but the number does not lie below it
      have hle : (n * 2 ^ k : ℚ) ≤ q := by
        rw [hpower.2]
        exact h.le hpower.1
      have hother : (patternUnits other : ℚ) < n * 2 ^ k := by
        rw [← hvalue]
        exact_mod_cast patternUnits_strictMono hlt
      rw [abs_of_nonneg (by linarith), abs_of_nonneg (by linarith)]
      exact .inl (by linarith)
    · have hother : (patternUnits other : ℚ) ≤ n * 2 ^ k - 2 ^ k := by
        have := h.le_sub hlt hpower
        have : (patternUnits other : ℚ) + 2 ^ k ≤ n * 2 ^ k := by exact_mod_cast this
        linarith
      exact (nearer_of_ge hstep h.low hother).imp_right fun ⟨heq, hq⟩ => ⟨heq, h.tie_even (.inl hq)⟩
  · have hother : (n * 2 ^ k + 2 ^ k : ℚ) ≤ patternUnits other := by
      exact_mod_cast h.add_le hgt
    exact (nearer_of_le hstep h.high hother).imp_right fun ⟨heq, hq⟩ => ⟨heq, h.tie_even (.inr hq)⟩

omit h in
theorem patternUnits_infinityBits :
    patternUnits infinityBits = fractionSize * 2 ^ (largestScale + 1) := by
  have h := patternUnits_toBits (n := fractionSize) (k := largestScale + 1)
    (fun _ => Nat.le_refl _) (by decide)
  rwa [show Magnitude.toBits ⟨fractionSize, largestScale + 1⟩ = infinityBits by decide] at h

omit h in
/-- From infinity on it is the nearest pattern. -/
theorem isNearestPattern_of_le (hq : (patternUnits infinityBits : ℚ) ≤ q) :
    IsNearestPattern q infinityBits := by
  refine .of_lt le_rfl fun other hother hne => .inl ?_
  have hlt : (patternUnits other : ℚ) < patternUnits infinityBits := by
    exact_mod_cast patternUnits_strictMono (lt_of_le_of_ne hother hne)
  rw [abs_of_nonneg (by linarith), abs_of_nonneg (by linarith)]
  linarith

/-- What is rounded behind the finite patterns becomes infinity. -/
theorem isNearestPattern :
    IsNearestPattern q (min infinityBits (Magnitude.toBits ⟨n, k⟩)) := by
  rcases le_or_gt (Magnitude.toBits ⟨n, k⟩) infinityBits with hle | hgt
  · rw [Nat.min_eq_right hle]
    exact .of_lt hle fun other _ hne => h.nearest hne
  · rw [Nat.min_eq_left hgt.le]
    apply isNearestPattern_of_le
    have hscale : largestScale + 1 ≤ k := by
      have hcarry := h.carry
      simp only [Magnitude.toBits, infinityBits, fractionSize] at hgt hcarry
      unfold largestScale
      omega
    have hpow : (2 : ℚ) ^ (largestScale + 1) ≤ 2 ^ k := pow_le_pow_right₀ (by norm_num) hscale
    rw [patternUnits_infinityBits]
    push_cast
    calc (fractionSize * 2 ^ (largestScale + 1) : ℚ)
      _ ≤ fractionSize * 2 ^ k := mul_le_mul_of_nonneg_left hpow (Nat.cast_nonneg _)
      _ ≤ q := h.le (Nat.lt_of_lt_of_le (Nat.succ_pos _) hscale)

end RoundsOnGrid

/-! ## Rounding a quotient -/

theorem isNearest_divRoundEven (num : Nat) {den : Nat} (hden : 0 < den) :
    IsNearest (divRoundEven num den) num den := by
  have hdiv : num / den * den + num % den = num := Nat.div_add_mod' num den
  have hmod : num % den < den := Nat.mod_lt num hden
  unfold divRoundEven
  dsimp only
  generalize num / den = quotient at hdiv ⊢
  generalize num % den = remainder at hdiv hmod ⊢
  split
  · exact ⟨by omega, by omega, by omega⟩
  · have hnext : (quotient + 1) * den = quotient * den + den := Nat.succ_mul quotient den
    exact ⟨by omega, by omega, by omega⟩

theorem fractionSize_eq : fractionSize = 2 ^ 52 := by decide

/-- The scale is chosen such that the quotient is rounded to the places of a significand. -/
theorem roundsOnGrid_of_div (units : Nat) {den : Nat} (hden : 0 < den) :
    RoundsOnGrid (units / den : ℚ)
      (divRoundEven units (den * 2 ^ ((units / den).log2 - 52))) ((units / den).log2 - 52) := by
  have hlow : 0 < (units / den).log2 - 52 →
      fractionSize * (den * 2 ^ ((units / den).log2 - 52)) ≤ units := by
    intro hpos
    have hne : units / den ≠ 0 := by
      intro hzero
      rw [hzero] at hpos
      exact absurd hpos (by decide)
    have hself := Nat.log2_self_le hne
    calc fractionSize * (den * 2 ^ ((units / den).log2 - 52))
      _ = 2 ^ (52 + ((units / den).log2 - 52)) * den := by rw [fractionSize_eq]; ring
      _ = 2 ^ (units / den).log2 * den := by rw [Nat.add_sub_cancel' (by omega)]
      _ ≤ units / den * den := Nat.mul_le_mul_right den hself
      _ ≤ units := Nat.div_mul_le_self units den
  have hhigh : units < 2 * fractionSize * (den * 2 ^ ((units / den).log2 - 52)) := by
    have hself := Nat.lt_log2_self (n := units / den)
    rw [Nat.div_lt_iff_lt_mul hden] at hself
    refine hself.trans_le ?_
    calc 2 ^ ((units / den).log2 + 1) * den
      _ ≤ 2 ^ (53 + ((units / den).log2 - 52)) * den :=
        Nat.mul_le_mul_right den (Nat.pow_le_pow_right (by decide) (by omega))
      _ = 2 * fractionSize * (den * 2 ^ ((units / den).log2 - 52)) := by
        rw [fractionSize_eq]; ring
  generalize (units / den).log2 - 52 = k at hlow hhigh ⊢
  have hgrid : 0 < den * 2 ^ k := Nat.mul_pos hden (Nat.two_pow_pos k)
  obtain ⟨hbelow, habove, htie⟩ := isNearest_divRoundEven units hgrid
  generalize divRoundEven units (den * 2 ^ k) = n at hbelow habove htie ⊢
  have hdenq : (0 : ℚ) < den := by exact_mod_cast hden
  refine ⟨fun hk => ?_, ?_, ?_, fun hends => htie ?_, fun hk => ?_, ?_⟩
  · rw [le_div_iff₀ hdenq]
    have : (fractionSize * (den * 2 ^ k) : ℚ) ≤ units := by exact_mod_cast hlow hk
    linarith
  · rw [le_div_iff₀ hdenq]
    have : (2 * (n * (den * 2 ^ k)) : ℚ) ≤ 2 * units + den * 2 ^ k := by exact_mod_cast hbelow
    linarith
  · rw [div_le_iff₀ hdenq]
    have : (2 * units : ℚ) ≤ 2 * (n * (den * 2 ^ k)) + den * 2 ^ k := by exact_mod_cast habove
    linarith
  · refine hends.imp (fun hq => ?_) fun hq => ?_
    · rw [eq_div_iff hdenq.ne'] at hq
      have : (2 * (n * (den * 2 ^ k)) : ℚ) = 2 * units + den * 2 ^ k := by linarith
      exact_mod_cast this
    · rw [div_eq_iff hdenq.ne'] at hq
      have : (2 * units : ℚ) = 2 * (n * (den * 2 ^ k)) + den * 2 ^ k := by linarith
      exact_mod_cast this
  · have hlarge : 2 * fractionSize * (den * 2 ^ k) < (2 * n + 2) * (den * 2 ^ k) := by
      have := hlow hk
      linarith
    have := Nat.lt_of_mul_lt_mul_right hlarge
    omega
  · have hsmall : 2 * n * (den * 2 ^ k) < (4 * fractionSize + 1) * (den * 2 ^ k) := by linarith
    have := Nat.lt_of_mul_lt_mul_right hsmall
    omega

/-- **Rounding.**  A quotient is rounded to the pattern nearest to it. -/
theorem isNearestPattern_nearestBits (num : Nat) {den : Nat} (hden : 0 < den) :
    IsNearestPattern (num * 2 ^ unitPlaces / den) (nearestBits num den) := by
  have hunits (places : Nat) : ((num * Nat.pow 2 places : ℕ) : ℚ) = num * 2 ^ places := by
    rw [Nat.pow_eq]
    push_cast
    rfl
  rw [← hunits]
  exact (roundsOnGrid_of_div (num * Nat.pow 2 unitPlaces) hden).isNearestPattern

/-- What is at most half a unit becomes zero. -/
theorem isNearestPattern_zero {q : ℚ} (hlow : 0 ≤ q) (hhigh : q ≤ 1 / 2) :
    IsNearestPattern q 0 := by
  have h : RoundsOnGrid q 0 0 := by
    refine ⟨fun h => absurd h (Nat.lt_irrefl 0), ?_, ?_, fun _ => rfl,
      fun h => absurd h (Nat.lt_irrefl 0), Nat.zero_le _⟩
    · norm_num
      linarith
    · norm_num
      linarith
  exact h.isNearestPattern

/-! ## Rounding a decimal -/

theorem infinity_le :
    (fractionSize * 2 ^ (largestScale + 1) : ℚ) ≤ 10 ^ powerAbove * 2 ^ unitPlaces := by
  have hcast (a b c : Nat) (h : fractionSize * Nat.pow 2 a ≤ Nat.pow 10 b * Nat.pow 2 c) :
      (fractionSize * 2 ^ a : ℚ) ≤ 10 ^ b * 2 ^ c := by
    exact_mod_cast h
  exact hcast _ _ _ (by decide +kernel)

theorem unit_le_half : (2 * 2 ^ unitPlaces : ℚ) ≤ 10 ^ powerBelow := by
  have hcast (a b : Nat) (h : 2 * Nat.pow 2 a ≤ Nat.pow 10 b) : (2 * 2 ^ a : ℚ) ≤ 10 ^ b := by
    exact_mod_cast h
  exact hcast _ _ (by decide +kernel)

namespace Scientific

def value (x : Scientific) : ℚ :=
  x.digits * 10 ^ x.exponent

theorem value_nonneg (x : Scientific) : 0 ≤ x.value := by
  unfold value
  positivity

/-- A decimal from this power of ten on is read as infinity. -/
theorem infinity_le_value {x : Scientific} (hdigits : x.digits ≠ 0)
    (h : 310 < (Nat.toDigits 10 x.digits).length + x.exponent) :
    (patternUnits infinityBits : ℚ) ≤ x.value * 2 ^ unitPlaces := by
  have hlow : (10 ^ ((Nat.toDigits 10 x.digits).length - 1) : ℚ) ≤ x.digits := by
    exact_mod_cast pow_le_of_toDigits hdigits
  have hpos : 0 < (Nat.toDigits 10 x.digits).length := Nat.length_toDigits_pos
  generalize (Nat.toDigits 10 x.digits).length = count at h hlow hpos
  have hvalue : (10 ^ powerAbove : ℚ) ≤ x.value := by
    calc (10 ^ powerAbove : ℚ)
      _ = 10 ^ (powerAbove : ℤ) := (zpow_natCast _ _).symm
      _ ≤ 10 ^ ((count - 1 : ℕ) + x.exponent) :=
        zpow_le_zpow_right₀ (by norm_num) (by unfold powerAbove; omega)
      _ = 10 ^ (count - 1) * 10 ^ x.exponent := by rw [zpow_add₀ (by norm_num), zpow_natCast]
      _ ≤ x.value := mul_le_mul_of_nonneg_right hlow (by positivity)
  rw [RoundsOnGrid.patternUnits_infinityBits]
  push_cast
  exact infinity_le.trans (mul_le_mul_of_nonneg_right hvalue (by positivity))

/-- A decimal below this power of ten is read as zero. -/
theorem value_le_half {x : Scientific}
    (h : (Nat.toDigits 10 x.digits).length + x.exponent < -330) :
    x.value * 2 ^ unitPlaces ≤ 1 / 2 := by
  have hhigh : (x.digits : ℚ) ≤ 10 ^ (Nat.toDigits 10 x.digits).length := by
    exact_mod_cast (lt_pow_of_toDigits x.digits).le
  generalize (Nat.toDigits 10 x.digits).length = count at h hhigh
  have hvalue : x.value ≤ (10 ^ powerBelow)⁻¹ := by
    calc x.value
      _ ≤ 10 ^ count * 10 ^ x.exponent := mul_le_mul_of_nonneg_right hhigh (by positivity)
      _ = 10 ^ (count + x.exponent) := by rw [zpow_add₀ (by norm_num), zpow_natCast]
      _ ≤ 10 ^ (-powerBelow : ℤ) :=
        zpow_le_zpow_right₀ (by norm_num) (by unfold powerBelow; omega)
      _ = (10 ^ powerBelow)⁻¹ := by rw [zpow_neg, zpow_natCast]
  calc x.value * 2 ^ unitPlaces
    _ ≤ (10 ^ powerBelow)⁻¹ * 2 ^ unitPlaces := mul_le_mul_of_nonneg_right hvalue (by positivity)
    _ ≤ 1 / 2 := by
      rw [inv_mul_le_iff₀ (by positivity)]
      linarith [unit_le_half]

/-- **Reading.**  A decimal is read as the pattern nearest to it. -/
theorem isNearestPattern_nearestBits (x : Scientific) :
    IsNearestPattern (x.value * 2 ^ unitPlaces) x.nearestBits := by
  unfold nearestBits
  dsimp only
  split
  · next hzero =>
    have hvalue : x.value = 0 := by simp [value, hzero]
    rw [hvalue, zero_mul]
    exact isNearestPattern_zero le_rfl (by norm_num)
  · next hdigits =>
    split
    · next hlarge => exact RoundsOnGrid.isNearestPattern_of_le (infinity_le_value hdigits hlarge)
    · split
      · next hsmall =>
        have := x.value_nonneg
        exact isNearestPattern_zero (by positivity) (value_le_half hsmall)
      · split
        · next hwhole =>
          have h := Decimal.isNearestPattern_nearestBits
            (x.digits * Nat.pow 10 x.exponent.toNat) Nat.one_pos
          have hvalue : x.value = ((x.digits * Nat.pow 10 x.exponent.toNat : ℕ) : ℚ) := by
            rw [value, Nat.pow_eq, Nat.cast_mul, Nat.cast_pow, ← zpow_natCast,
              Int.toNat_of_nonneg hwhole]
            rfl
          rwa [Nat.cast_one, div_one, ← hvalue] at h
        · next hfraction =>
          have h := Decimal.isNearestPattern_nearestBits x.digits
            (ten_pow_pos (-x.exponent).toNat)
          have hvalue : x.value = x.digits / ((10 ^ (-x.exponent).toNat : ℕ) : ℚ) := by
            rw [value, Nat.cast_pow, ← zpow_natCast, Int.toNat_of_nonneg (by omega), zpow_neg,
              div_inv_eq_mul]
            rfl
          rw [hvalue, div_mul_eq_mul_div]
          exact h

end Scientific

/-! ## Floats -/

open Float.Model in
/-- A pattern up to that of infinity is kept by the float that is made of it. -/
theorem toBits_ofBits {bits : Nat} (h : bits ≤ infinityBits) :
    (Float.ofBits (UInt64.ofNat bits)).toBits.toNat = bits := by
  have hword : (UInt64.ofNat bits).toNat = bits := by
    rw [UInt64.toNat_ofNat', Nat.mod_eq_of_lt]
    exact Nat.lt_of_le_of_lt h (by decide)
  have hvalid : Format.binary64.Valid (UInt64.ofNat bits).toBitVec := by
    refine ⟨fun hexponent hmantissa => ?_⟩
    have hexponent' := (unpackExponent_eq_iff _).mp hexponent
    have hmantissa' := mt (unpackMantissa_eq_iff _).mpr hmantissa
    have hnat : (UInt64.ofNat bits).toBitVec.toNat = bits := hword
    rw [hnat] at hexponent' hmantissa'
    simp only [infinityBits, fractionSize] at h hexponent' hmantissa'
    omega
  have hbits := Float.ofBits_toBits ⟨⟨UInt64.ofNat bits, hvalid⟩⟩
  have hkept : (Float.ofBits (UInt64.ofNat bits)).toBits = UInt64.ofNat bits :=
    congrArg Float.toBits hbits
  rw [hkept, hword]

theorem magnitudeBits_floatOf {bits : Nat} (h : bits ≤ infinityBits) :
    magnitudeBits (floatOf false bits) = bits ∧ isNegative (floatOf false bits) = false := by
  have hbits := toBits_ofBits h
  have hlt : bits < signBit := Nat.lt_of_le_of_lt h (by decide)
  unfold magnitudeBits isNegative floatOf
  simp only [Bool.false_eq_true, if_false, Nat.add_zero, hbits]
  exact ⟨Nat.mod_eq_of_lt hlt, decide_eq_false (Nat.not_le.mpr hlt)⟩

/-- The number that a float is which is no NaN.  Infinity counts as the power of two behind the
finite floats: that is where rounding takes it to be. -/
def valueOf (x : Float) : ℚ :=
  (if isNegative x then -1 else 1) * patternUnits (magnitudeBits x) / 2 ^ unitPlaces

/-- No float is nearer to the number than `x`, and if another one is as near, `x` is the even one. -/
structure IsNearestFloat (number : ℚ) (x : Float) : Prop where
  notNaN : x.isNaN = false
  le : ∀ y : Float, y.isNaN = false → |number - valueOf x| ≤ |number - valueOf y|
  tie : ∀ y : Float, y.isNaN = false → y ≠ x →
    |number - valueOf x| = |number - valueOf y| → magnitudeBits x % 2 = 0

/-- How far a number is from a float, in smallest units. -/
theorem abs_sub_valueOf (number : ℚ) (y : Float) :
    |number - valueOf y| =
      |number * 2 ^ unitPlaces - (if isNegative y then -1 else 1) * patternUnits (magnitudeBits y)| /
        2 ^ unitPlaces := by
  have hpos : (0 : ℚ) < 2 ^ unitPlaces := by positivity
  unfold valueOf
  generalize (2 : ℚ) ^ unitPlaces = unit at hpos ⊢
  rw [← abs_of_pos hpos, ← abs_div, abs_of_pos hpos, sub_div, mul_div_cancel_right₀ _ hpos.ne']

/-- A float without the sign is no farther from a number that is not negative. -/
theorem abs_sub_le_of_sign {q : ℚ} (hq : 0 ≤ q) (units : Nat) (negative : Bool) :
    |q - units| ≤ |q - (if negative then -1 else 1) * units| := by
  have hunits : (0 : ℚ) ≤ units := Nat.cast_nonneg units
  cases negative with
  | false => simp
  | true =>
    simp only [if_true, neg_one_mul, sub_neg_eq_add]
    rw [abs_of_nonneg (add_nonneg hq hunits)]
    exact (abs_sub_le_iff.mpr ⟨by linarith, by linarith⟩)

theorem patternUnits_zero : patternUnits 0 = 0 := by decide

theorem IsNearestPattern.isNearestFloat {number : ℚ} {bits : Nat} (hnumber : 0 ≤ number)
    (h : IsNearestPattern (number * 2 ^ unitPlaces) bits) :
    IsNearestFloat number (floatOf false bits) := by
  obtain ⟨hmagnitude, hsign⟩ := magnitudeBits_floatOf h.le_infinity
  have hunit : (0 : ℚ) < 2 ^ unitPlaces := by positivity
  have hq : 0 ≤ number * 2 ^ unitPlaces := mul_nonneg hnumber hunit.le
  have hfinite {y : Float} (hy : y.isNaN = false) : magnitudeBits y ≤ infinityBits := by
    by_contra hlt
    rw [(isNaN_iff y).mpr (Nat.lt_of_not_le hlt)] at hy
    cases hy
  have hdistance : |number - valueOf (floatOf false bits)| =
      |number * 2 ^ unitPlaces - patternUnits bits| / 2 ^ unitPlaces := by
    rw [abs_sub_valueOf, hmagnitude, hsign]
    simp
  refine ⟨?_, fun y hy => ?_, fun y hy hne heq => ?_⟩
  · rw [Bool.eq_false_iff, Ne, isNaN_iff, hmagnitude]
    exact Nat.not_lt.mpr h.le_infinity
  · rw [hdistance, abs_sub_valueOf]
    exact div_le_div_of_nonneg_right
      ((h.le _ (hfinite hy)).trans (abs_sub_le_of_sign hq _ _)) hunit.le
  · rw [hdistance, abs_sub_valueOf, div_left_inj' hunit.ne'] at heq
    rw [hmagnitude]
    by_cases hsame : magnitudeBits y = bits
    · -- the same magnitude with a minus sign: only zero is as near
      have hnegative : isNegative y = true := by
        by_contra hpositive
        rw [Bool.not_eq_true] at hpositive
        have hy' := floatOf_magnitudeBits y
        rw [hpositive, hsame] at hy'
        exact hne hy'.symm
      have hzero := h.le 0 (Nat.zero_le _)
      rw [patternUnits_zero, Nat.cast_zero, sub_zero, abs_of_nonneg hq] at hzero
      have hunits : (0 : ℚ) ≤ patternUnits bits := Nat.cast_nonneg _
      simp only [hnegative, hsame, if_true, neg_one_mul, sub_neg_eq_add] at heq
      rw [abs_of_nonneg (add_nonneg hq hunits)] at heq
      have hnothing : (patternUnits bits : ℚ) = patternUnits 0 := by
        rw [patternUnits_zero, Nat.cast_zero]
        linarith
      rw [patternUnits_strictMono.injective (Nat.cast_injective hnothing)]
    · exact h.tie _ (hfinite hy) hsame
        (le_antisymm (h.le _ (hfinite hy)) ((abs_sub_le_of_sign hq _ _).trans_eq heq.symm))

/-- **Decimals are read as the nearest floats.** -/
theorem Scientific.isNearestFloat (x : Scientific) :
    IsNearestFloat x.value (floatOf false x.nearestBits) :=
  x.isNearestPattern_nearestBits.isNearestFloat x.value_nonneg

end LineScript.Decimal
