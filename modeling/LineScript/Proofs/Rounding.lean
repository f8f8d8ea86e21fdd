import LineScript.Decimal.Shortest
import Mathlib.Tactic.Linarith
import Mathlib.Tactic.Ring

/-!
Rounding to the nearest float.

A quotient that lies in the rounding interval of a finite magnitude rounds to that magnitude
(`nearestBits_of_covers`), and the shortest decimal of a magnitude lies in its interval
(`Magnitude.holds_shortest`).  So the shortest decimal rounds back.
-/

namespace LineScript.Decimal

/-! ## Whole numbers -/

/-- No whole number is nearer to `num / den` than `n`; if one is as near, `n` is even. -/
structure IsNearest (n num den : Nat) : Prop where
  low : 2 * (n * den) ≤ 2 * num + den
  high : 2 * num ≤ 2 * (n * den) + den
  tie : 2 * (n * den) = 2 * num + den ∨ 2 * num = 2 * (n * den) + den → n % 2 = 0

theorem divRoundEven_eq {n num den : Nat} (hden : 0 < den) (h : IsNearest n num den) :
    divRoundEven num den = n := by
  obtain ⟨hlow, hhigh, htie⟩ := h
  have hdiv : num / den * den + num % den = num := Nat.div_add_mod' num den
  have hmod : num % den < den := Nat.mod_lt num hden
  unfold divRoundEven
  dsimp only
  generalize num / den = q at hdiv ⊢
  generalize num % den = r at hdiv hmod ⊢
  have hle : n ≤ q + 1 := by
    have : 2 * n * den < (2 * q + 3) * den := by linarith
    have := Nat.lt_of_mul_lt_mul_right this
    omega
  have hge : q ≤ n := by
    have : 2 * q * den < (2 * n + 2) * den := by linarith
    have := Nat.lt_of_mul_lt_mul_right this
    omega
  rcases Nat.lt_or_ge q n with hlt | hge'
  · obtain rfl : n = q + 1 := by omega
    rw [Nat.add_mul, Nat.one_mul] at hlow htie
    rw [if_neg]
    omega
  · obtain rfl : n = q := by omega
    rw [if_pos]
    omega

/-! ## Magnitudes -/

namespace Magnitude

/-- The significand is as large as the scale allows. -/
structure IsCanonical (x : Magnitude) : Prop where
  significand_lt : x.significand < 2 * fractionSize
  le_significand : 0 < x.scale → fractionSize ≤ x.significand

theorem isCanonical_ofBits (bits : Nat) : (ofBits bits).IsCanonical := by
  unfold ofBits
  split
  · next h => exact ⟨by dsimp only; omega, fun h => absurd h (Nat.lt_irrefl 0)⟩
  · have hmod : bits % fractionSize < fractionSize := Nat.mod_lt _ (by decide)
    exact ⟨by dsimp only; omega, fun _ => Nat.le_add_right _ _⟩

/-- How many quarters of a unit the interval reaches down. -/
def below (x : Magnitude) : Nat :=
  if x.significand = fractionSize ∧ 0 < x.scale then 1 else 2

theorem below_le (x : Magnitude) : x.below ≤ 2 := by
  unfold below
  split <;> omega

/-- The quotient `units / den`, in smallest units, lies in the rounding interval. -/
structure Covers (x : Magnitude) (units den : Nat) : Prop where
  low : 4 * (x.significand * (den * 2 ^ x.scale)) ≤ 4 * units + x.below * (den * 2 ^ x.scale)
  high : 4 * units ≤ 4 * (x.significand * (den * 2 ^ x.scale)) + 2 * (den * 2 ^ x.scale)
  tie : 4 * (x.significand * (den * 2 ^ x.scale)) = 4 * units + x.below * (den * 2 ^ x.scale) ∨
    4 * units = 4 * (x.significand * (den * 2 ^ x.scale)) + 2 * (den * 2 ^ x.scale) →
    x.significand % 2 = 0

namespace Covers

variable {x : Magnitude} {units den : Nat}

theorem isNearest (h : x.Covers units den) :
    IsNearest x.significand units (den * 2 ^ x.scale) := by
  obtain ⟨hlow, hhigh, htie⟩ := h
  have hbelow := Nat.mul_le_mul_right (den * 2 ^ x.scale) x.below_le
  refine ⟨by omega, by omega, fun h => htie ?_⟩
  omega

/-- Below a power of two the grid is finer, and the power is even there. -/
theorem of_lt (hx : x.IsCanonical) (h : x.Covers units den) {k : Nat} (hscale : x.scale = k + 1)
    (hlt : units < fractionSize * (den * 2 ^ x.scale)) :
    x.significand = fractionSize ∧ fractionSize * (den * 2 ^ k) ≤ units ∧
      IsNearest (2 * fractionSize) units (den * 2 ^ k) := by
  have hlow := h.low
  have hunit : den * 2 ^ x.scale = 2 * (den * 2 ^ k) := by
    rw [hscale, Nat.pow_succ]
    ring
  have hnormal := hx.le_significand (by omega)
  have hsig : x.significand = fractionSize := by
    have hbelow := Nat.mul_le_mul_right (den * 2 ^ x.scale) x.below_le
    have hclose : x.significand * (den * 2 ^ x.scale) <
        (fractionSize + 1) * (den * 2 ^ x.scale) := by
      generalize den * 2 ^ x.scale = unit at hlow hlt hbelow
      linarith
    have := Nat.lt_of_mul_lt_mul_right hclose
    omega
  have hbelow : x.below = 1 := if_pos ⟨hsig, by omega⟩
  rw [hbelow, hsig, hunit] at hlow
  rw [hunit] at hlt
  refine ⟨hsig, ?_, ?_, ?_, fun _ => by decide⟩
  all_goals simp only [fractionSize] at hlow hlt ⊢
  all_goals omega

/-- The quotient does not reach the next power of two. -/
theorem div_lt (hx : x.IsCanonical) (h : x.Covers units den) (hden : 0 < den) :
    units / den < 2 * fractionSize * 2 ^ x.scale := by
  have hhigh := h.high
  have hsucc := Nat.mul_le_mul_right (den * 2 ^ x.scale) (Nat.succ_le_of_lt hx.significand_lt)
  have hunit : 0 < den * 2 ^ x.scale := Nat.mul_pos hden (Nat.two_pow_pos _)
  rw [Nat.div_lt_iff_lt_mul hden,
    show 2 * fractionSize * 2 ^ x.scale * den = 2 * fractionSize * (den * 2 ^ x.scale) by ring]
  generalize den * 2 ^ x.scale = unit at hhigh hsucc hunit ⊢
  rw [Nat.succ_mul] at hsucc
  linarith

end Covers

end Magnitude

/-- The scale that is chosen for a number of so many units. -/
theorem log2_sub_eq {n k : Nat} (hlow : 0 < k → fractionSize * 2 ^ k ≤ n)
    (hhigh : n < 2 * fractionSize * 2 ^ k) : n.log2 - 52 = k := by
  have hpower : fractionSize = 2 ^ 52 := by decide
  have hhigh' : n < 2 ^ (52 + k + 1) := by
    rw [hpower] at hhigh
    calc n < 2 * 2 ^ 52 * 2 ^ k := hhigh
      _ = 2 ^ (52 + k + 1) := by ring
  rcases Nat.eq_zero_or_pos n with rfl | hn
  · rcases Nat.eq_zero_or_pos k with rfl | hk
    · rfl
    · have := hlow hk
      have := Nat.two_pow_pos k
      simp [fractionSize] at *
  · have hlt := (Nat.log2_lt hn.ne').mpr hhigh'
    rcases Nat.eq_zero_or_pos k with rfl | hk
    · omega
    · have hle : 2 ^ (52 + k) ≤ n := by
        rw [Nat.pow_add, ← hpower]
        exact hlow hk
      have := (Nat.le_log2 hn.ne').mpr hle
      omega

theorem le_div_of_le {units den k : Nat} (hden : 0 < den)
    (h : fractionSize * (den * 2 ^ k) ≤ units) : fractionSize * 2 ^ k ≤ units / den := by
  rw [Nat.le_div_iff_mul_le hden]
  calc fractionSize * 2 ^ k * den = fractionSize * (den * 2 ^ k) := by ring
    _ ≤ units := h

/-- **Rounding.**  What lies in the rounding interval of a finite pattern rounds to it. -/
theorem nearestBits_of_covers {bits num den : Nat} (hbits : bits < infinityBits) (hden : 0 < den)
    (h : (Magnitude.ofBits bits).Covers (num * Nat.pow 2 unitPlaces) den) :
    nearestBits num den = bits := by
  have hx := Magnitude.isCanonical_ofBits bits
  have htoBits := Magnitude.toBits_ofBits bits
  generalize Magnitude.ofBits bits = x at h hx htoBits
  have hhigh := h.div_lt hx hden
  have hpos (k : Nat) : 0 < den * 2 ^ k := Nat.mul_pos hden (Nat.two_pow_pos k)
  unfold nearestBits
  generalize num * Nat.pow 2 unitPlaces = units at h hhigh ⊢
  suffices hrounded : Magnitude.toBits ⟨divRoundEven units (den * 2 ^ ((units / den).log2 - 52)),
      (units / den).log2 - 52⟩ = bits by
    show min infinityBits (Magnitude.toBits _) = bits
    rw [Nat.pow_eq, hrounded]
    exact Nat.min_eq_right hbits.le
  by_cases hpower : 0 < x.scale ∧ units < fractionSize * (den * 2 ^ x.scale)
  · -- the quotient lies below the power of two that it rounds to, and rounds on the finer grid
    obtain ⟨k, hscale⟩ := Nat.exists_eq_add_of_le' hpower.1
    obtain ⟨hsignificand, hle, hnearest⟩ := h.of_lt hx hscale hpower.2
    have hlt : units / den < 2 * fractionSize * 2 ^ k := by
      rw [Nat.div_lt_iff_lt_mul hden]
      calc units < fractionSize * (den * 2 ^ x.scale) := hpower.2
        _ = 2 * fractionSize * 2 ^ k * den := by rw [hscale]; ring
    rw [log2_sub_eq (fun _ => le_div_of_le hden hle) hlt, divRoundEven_eq (hpos k) hnearest,
      ← htoBits, Magnitude.toBits, Magnitude.toBits, hscale, hsignificand]
    ring
  · have hlow : 0 < x.scale → fractionSize * 2 ^ x.scale ≤ units / den := fun hscale =>
      le_div_of_le hden (Nat.le_of_not_lt fun hlt => hpower ⟨hscale, hlt⟩)
    rw [log2_sub_eq hlow hhigh, divRoundEven_eq (hpos x.scale) h.isNearest, ← htoBits]

/-! ## Rounding intervals -/

theorem five_pow_pos (n : Nat) : 0 < Nat.pow 5 n :=
  Nat.pow_pos (by decide)

theorem ten_pow_eq (n : Nat) : Nat.pow 10 n = Nat.pow 2 n * Nat.pow 5 n :=
  Nat.mul_pow 2 5 n

namespace Magnitude

/-- The scale, in units of `10 ^ -1074`. -/
def unit (x : Magnitude) : Nat :=
  Nat.pow 2 x.scale * Nat.pow 5 unitPlaces

theorem unit_pos (x : Magnitude) : 0 < x.unit := by
  have hfive := five_pow_pos unitPlaces
  unfold unit
  exact Nat.mul_pos (Nat.two_pow_pos x.scale) hfive

theorem interval_eq (x : Magnitude) : x.interval =
    ⟨(4 * x.significand - x.below) * x.unit, 4 * x.significand * x.unit,
      (4 * x.significand + 2) * x.unit, x.significand % 2 = 0⟩ := rfl

/-- The ends of the interval belong to it if the significand is even. -/
theorem holds_iff (x : Magnitude) (n : Nat) : x.interval.holds n = true ↔
    4 * (x.significand * x.unit) ≤ n + x.below * x.unit ∧
      n ≤ 4 * (x.significand * x.unit) + 2 * x.unit ∧
      (4 * (x.significand * x.unit) = n + x.below * x.unit ∨
        n = 4 * (x.significand * x.unit) + 2 * x.unit → x.significand % 2 = 0) := by
  have hbelow := Nat.mul_le_mul_right x.unit x.below_le
  have hunit := x.unit_pos
  have hvalue : x.significand = 0 ∨ x.unit ≤ x.significand * x.unit :=
    (Nat.eq_zero_or_pos x.significand).imp_right fun h => Nat.le_mul_of_pos_left _ h
  rw [interval_eq]
  simp only [RoundingInterval.holds, Bool.or_eq_true, Bool.and_eq_true, decide_eq_true_eq,
    beq_iff_eq, Nat.sub_mul, Nat.add_mul, Nat.mul_assoc]
  omega

theorem holds_value (x : Magnitude) : x.interval.holds x.interval.value = true := by
  have hunit := x.unit_pos
  have hbelow : 0 < x.below * x.unit := by
    refine Nat.mul_pos ?_ hunit
    unfold below
    split <;> decide
  rw [holds_iff, interval_eq]
  dsimp only
  rw [Nat.mul_assoc]
  omega

/-- A number of the interval as a quotient, counted in smallest units. -/
theorem covers_of_holds {x : Magnitude} {num den n : Nat} (hden : 0 < den)
    (hn : 4 * num * Nat.pow 10 unitPlaces = n * den) (h : x.interval.holds n = true) :
    x.Covers (num * Nat.pow 2 unitPlaces) den := by
  obtain ⟨hlow, hhigh, htie⟩ := (holds_iff x n).mp h
  -- units of `10 ^ -places` on both sides
  have hscale (k : Nat) : k * (den * 2 ^ x.scale) * Nat.pow 5 unitPlaces = k * x.unit * den := by
    show _ = k * (2 ^ x.scale * Nat.pow 5 unitPlaces) * den
    ring
  have hnum : 4 * (num * Nat.pow 2 unitPlaces) * Nat.pow 5 unitPlaces = n * den := by
    rw [← hn, ten_pow_eq]
    ring
  have hfive : 0 < Nat.pow 5 unitPlaces := five_pow_pos unitPlaces
  generalize Nat.pow 5 unitPlaces = five at hscale hnum hfive
  generalize num * Nat.pow 2 unitPlaces = units at hnum ⊢
  have hlow' := Nat.mul_le_mul_right den hlow
  have hhigh' := Nat.mul_le_mul_right den hhigh
  have hvalue := hscale x.significand
  have hbelow := hscale x.below
  have htwo := hscale 2
  refine ⟨Nat.le_of_mul_le_mul_right ?_ hfive, Nat.le_of_mul_le_mul_right ?_ hfive,
    fun hend => htie (hend.imp (fun hlow => ?_) fun hhigh => ?_)⟩
  · linarith
  · linarith
  · have := congrArg (· * five) hlow
    exact Nat.eq_of_mul_eq_mul_right hden (by linarith)
  · have := congrArg (· * five) hhigh
    exact Nat.eq_of_mul_eq_mul_right hden (by linarith)

end Magnitude

/-! ## The shortest decimal -/

theorem RoundingInterval.holds_of_multiple {i : RoundingInterval} {step count : Nat}
    (h : i.multiple? step = some count) : i.holds (count * step) = true := by
  unfold multiple? at h
  dsimp only at h
  split at h
  · next hbelow habove =>
    split at h
    all_goals cases h
    all_goals assumption
  · next hbelow _ =>
    cases h
    exact hbelow
  · next _ habove =>
    cases h
    exact habove
  · cases h

namespace Magnitude

/-- The last grid has the value itself. -/
theorem holds_firstMultiple (x : Magnitude) (power : Nat) :
    x.interval.holds ((x.interval.firstMultiple power).1 *
      (4 * Nat.pow 10 (x.interval.firstMultiple power).2)) = true := by
  have hvalue := x.holds_value
  have hquarter : x.interval.value / 4 * 4 = x.interval.value := by
    rw [interval_eq]
    dsimp only
    rw [Nat.mul_assoc, Nat.mul_div_cancel_left _ (by decide), Nat.mul_comm]
  generalize x.interval = i at hvalue hquarter ⊢
  induction power with
  | zero =>
    rw [← hquarter] at hvalue
    exact hvalue
  | succ power ih =>
    rw [RoundingInterval.firstMultiple]
    split
    · next count hcount => exact RoundingInterval.holds_of_multiple hcount
    · exact ih

end Magnitude

/-- The decimal is so many quarters of `10 ^ -1074`. -/
def Scientific.Denotes (y : Scientific) (n : Nat) : Prop :=
  ∃ power zeros : Nat, y.exponent = power - unitPlaces - zeros ∧
    4 * y.digits * 10 ^ power = n * 10 ^ zeros

/-- The decimal lies in the rounding interval of the magnitude. -/
def Magnitude.Holds (x : Magnitude) (y : Scientific) : Prop :=
  ∃ n, y.Denotes n ∧ x.interval.holds n = true

theorem Magnitude.Holds.of_found {x : Magnitude} (found : Nat × Nat)
    (h : x.interval.holds (found.1 * (4 * Nat.pow 10 found.2)) = true) :
    x.Holds ⟨found.1, found.2 - unitPlaces⟩ := by
  refine ⟨_, ⟨found.2, 0, by simp, ?_⟩, h⟩
  show 4 * found.1 * 10 ^ found.2 = found.1 * (4 * 10 ^ found.2) * 10 ^ 0
  ring

/-- The shortest decimal of a magnitude lies in its rounding interval. -/
theorem Magnitude.holds_shortest (x : Magnitude) : x.Holds x.shortest := by
  rw [shortest]
  exact .of_found _ (x.holds_firstMultiple _)

end LineScript.Decimal
