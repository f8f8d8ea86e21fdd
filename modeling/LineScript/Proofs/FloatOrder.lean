import Mathlib
import LineScript.Proofs.NumberRoundTrip

/-!
How floats compare.

A float that is no NaN is unpacked as its sign and what the bits of its magnitude stand for
(`unpacks`), and two of them compare as their signed magnitude bits do (`lt_iff`, `beq_iff`): the
fields of the exponent and the fraction are in the order of the bits.  A NaN compares with nothing.
The bits tell all floats apart but the two zeros (`eq_of_signedBits_eq`), and those of the infinities
are the first and the last ones (`signedBits_le`).
-/

namespace LineScript.Decimal

open Float.Model

/-- The bits of the magnitude, with the sign of the float.  The two zeros have the same. -/
def signedBits (x : Float) : Int :=
  if isNegative x then -(magnitudeBits x : Int) else magnitudeBits x

/-! ## Unpacked floats -/

/-- The sign of the float, as the unpacked float has it. -/
def signOf (x : Float) : UnpackedFloat.Sign :=
  if isNegative x then .negative else .positive

/-- What a sign and the bits of a magnitude are unpacked to. -/
inductive Unpacks (sign : UnpackedFloat.Sign) : Nat → UnpackedFloat → Prop
  | zero : Unpacks sign 0 (.zero sign)
  | finite {bits mantissa : Nat} {exponent : Int} (hpos : 0 < mantissa) (hlow : 0 < bits)
      (hhigh : bits < infinityBits) (hmantissa : mantissa = (Magnitude.ofBits bits).significand)
      (hexponent : exponent = (Magnitude.ofBits bits).scale - unitPlaces) :
      Unpacks sign bits (.finite sign mantissa exponent hpos)
  | infinity : Unpacks sign infinityBits (.infinity sign)

theorem ofBitVec_unpackSign (x : Float) :
    UnpackedFloat.Sign.ofBitVec (@UnpackedFloat.unpackSign Format.binary64 x.toBits.toBitVec) =
      signOf x := by
  have hlt : x.toBits.toNat < 2 ^ 64 := x.toBits.toNat_lt
  have hfield : (@UnpackedFloat.unpackSign Format.binary64 x.toBits.toBitVec).toNat =
      x.toBits.toNat / signBit := by
    rw [UnpackedFloat.unpackSign]
    simp [Nat.shiftRight_eq_div_pow, signBit, Format.binary64]
    omega
  have hpositive : @UnpackedFloat.unpackSign Format.binary64 x.toBits.toBitVec = 0#1 ↔
      ¬ signBit ≤ x.toBits.toNat := by
    rw [← BitVec.toNat_inj, hfield]
    show x.toBits.toNat / signBit = 0 ↔ _
    simp only [signBit]
    omega
  unfold UnpackedFloat.Sign.ofBitVec signOf isNegative
  by_cases hsign : signBit ≤ x.toBits.toNat
  · rw [if_neg (not_not.mpr hsign ∘ hpositive.mp), if_pos (decide_eq_true hsign)]
  · rw [if_pos (hpositive.mpr hsign), if_neg (by simpa using hsign)]

/-- The fields of the exponent and the fraction are those of the magnitude. -/
theorem fields_eq (x : Float) :
    (@UnpackedFloat.unpackExponent Format.binary64 x.toBits.toBitVec).toNat =
      magnitudeBits x / fractionSize ∧
    (@UnpackedFloat.unpackMantissa Format.binary64 x.toBits.toBitVec).toNat =
      magnitudeBits x % fractionSize := by
  rw [toNat_unpackExponent, toNat_unpackMantissa]
  show x.toBits.toNat / fractionSize % 2048 = x.toBits.toNat % signBit / fractionSize ∧
    x.toBits.toNat % fractionSize = x.toBits.toNat % signBit % fractionSize
  simp only [fractionSize, signBit]
  omega

section

open UnpackedFloat

variable {word : BitVec 64} {bits : Nat}
  (hexponent : (@unpackExponent Format.binary64 word).toNat = bits / fractionSize)
  (hmantissa : (@unpackMantissa Format.binary64 word).toNat = bits % fractionSize)

include hexponent hmantissa

theorem unpacks_of_eq_infinityBits (hbits : bits = infinityBits) :
    Unpacks (.ofBitVec (@unpackSign Format.binary64 word)) bits (unpack Format.binary64 word) := by
  have hfull : @unpackExponent Format.binary64 word = -1#_ := by
    rw [← BitVec.toNat_inj, hexponent, hbits]
    rfl
  have hempty : @unpackMantissa Format.binary64 word = 0#_ := by
    rw [← BitVec.toNat_inj, hmantissa, hbits]
    rfl
  unfold UnpackedFloat.unpack
  dsimp only
  rw [if_pos hfull, if_pos hempty, hbits]
  exact .infinity

/-- The lowest exponent, without the hidden bit. -/
theorem unpacks_of_lt_fractionSize (hsmall : bits < fractionSize) :
    Unpacks (.ofBitVec (@unpackSign Format.binary64 word)) bits (unpack Format.binary64 word) := by
  have hlowest : @unpackExponent Format.binary64 word = 0#_ := by
    rw [← BitVec.toNat_inj, hexponent, Nat.div_eq_of_lt hsmall]
    rfl
  have hfull : ¬ @unpackExponent Format.binary64 word = -1#_ := by
    rw [hlowest]
    decide
  rw [Nat.mod_eq_of_lt hsmall] at hmantissa
  unfold UnpackedFloat.unpack
  dsimp only
  rw [if_neg hfull, if_pos hlowest]
  by_cases hempty : @unpackMantissa Format.binary64 word = 0#_
  · have hzero : bits = 0 := by
      rw [← hmantissa, hempty]
      rfl
    rw [dif_pos hempty, hzero]
    exact .zero
  · have hpos : 0 < bits := by
      rw [← hmantissa, BitVec.toNat_pos, BitVec.pos_iff_ne_zero]
      exact hempty
    have hhigh : bits < infinityBits := Nat.lt_trans hsmall (by decide)
    rw [dif_neg hempty]
    apply Unpacks.finite _ hpos hhigh
    · rw [Magnitude.ofBits, if_pos hsmall, hmantissa]
    · rw [Magnitude.ofBits, if_pos hsmall, hlowest]
      rfl

/-- The other exponents, with the hidden bit. -/
theorem unpacks_of_fractionSize_le (hlarge : fractionSize ≤ bits) (hhigh : bits < infinityBits) :
    Unpacks (.ofBitVec (@unpackSign Format.binary64 word)) bits (unpack Format.binary64 word) := by
  have hfull : ¬ @unpackExponent Format.binary64 word = -1#_ := by
    intro hfull
    rw [hfull] at hexponent
    have hfield : 2047 = bits / fractionSize := hexponent
    simp only [fractionSize, infinityBits] at hfield hhigh
    omega
  have hlowest : ¬ @unpackExponent Format.binary64 word = 0#_ := by
    intro hlowest
    rw [hlowest] at hexponent
    have hfield : 0 = bits / fractionSize := hexponent
    simp only [fractionSize] at hfield hlarge
    omega
  have hpos : 0 < bits := Nat.lt_of_lt_of_le (by decide) hlarge
  unfold UnpackedFloat.unpack
  dsimp only
  rw [if_neg hfull, if_neg hlowest]
  apply Unpacks.finite _ hpos hhigh
  · have hfraction := (@unpackMantissa Format.binary64 word).isLt
    rw [Magnitude.ofBits, if_neg (Nat.not_lt.mpr hlarge), BitVec.toNat_append, Nat.shiftLeft_eq,
      Nat.or_comm, show (1#1).toNat = 1 from rfl, Nat.one_mul,
      Nat.or_two_pow_eq_add_of_lt hfraction, hmantissa, Nat.add_comm]
    rfl
  · rw [Magnitude.ofBits, if_neg (Nat.not_lt.mpr hlarge), hexponent]
    simp only [fractionSize] at hlarge
    show ((bits / 0x10000000000000 : Nat) : Int) - (1023 + 52) =
      ((bits / 0x10000000000000 - 1 : Nat) : Int) - 1074
    omega

end

theorem magnitudeBits_le {x : Float} (h : x.isNaN = false) : magnitudeBits x ≤ infinityBits := by
  rw [← Nat.not_lt, ← isNaN_iff, h]
  simp

/-- A float that is no NaN is unpacked as its sign and its magnitude. -/
theorem unpacks {x : Float} (h : x.isNaN = false) :
    Unpacks (signOf x) (magnitudeBits x) x.toModel.unpack := by
  obtain ⟨hexponent, hmantissa⟩ := fields_eq x
  rw [← ofBitVec_unpackSign]
  show Unpacks _ _ (UnpackedFloat.unpack Format.binary64 x.toBits.toBitVec)
  rcases Nat.lt_or_eq_of_le (magnitudeBits_le h) with hhigh | hbits
  · rcases Nat.lt_or_ge (magnitudeBits x) fractionSize with hsmall | hlarge
    · exact unpacks_of_lt_fractionSize hexponent hmantissa hsmall
    · exact unpacks_of_fractionSize_le hexponent hmantissa hlarge hhigh
  · exact unpacks_of_eq_infinityBits hexponent hmantissa hbits

/-! ## Comparing magnitudes -/

/-- A magnitude with smaller bits has a smaller scale, or the same one and a smaller significand. -/
theorem ofBits_lt {a b : Nat} (h : a < b) :
    (Magnitude.ofBits a).scale < (Magnitude.ofBits b).scale ∨
    (Magnitude.ofBits a).scale = (Magnitude.ofBits b).scale ∧
      (Magnitude.ofBits a).significand < (Magnitude.ofBits b).significand := by
  unfold Magnitude.ofBits
  by_cases hb : b < fractionSize
  · rw [if_pos hb, if_pos (Nat.lt_trans h hb)]
    exact .inr ⟨rfl, h⟩
  · rw [if_neg hb]
    by_cases ha : a < fractionSize
    · rw [if_pos ha]
      simp only [fractionSize] at ha hb ⊢
      omega
    · rw [if_neg ha]
      simp only [fractionSize] at ha hb ⊢
      omega

/-- The fields of magnitudes compare as their bits do. -/
theorem compare_ofBits (a b : Nat) :
    (compare ((Magnitude.ofBits a).scale - unitPlaces : Int)
      ((Magnitude.ofBits b).scale - unitPlaces)).then
      (compare (Magnitude.ofBits a).significand (Magnitude.ofBits b).significand) =
    compare a b := by
  rcases Nat.lt_trichotomy a b with h | rfl | h
  · rw [compare_lt_iff_lt.mpr h]
    rcases ofBits_lt h with hscale | ⟨hscale, hsignificand⟩
    · rw [compare_lt_iff_lt.mpr (by omega)]
      rfl
    · rw [hscale, compare_eq_iff_eq.mpr rfl, compare_lt_iff_lt.mpr hsignificand]
      rfl
  · rw [compare_eq_iff_eq.mpr rfl, compare_eq_iff_eq.mpr rfl, compare_eq_iff_eq.mpr rfl]
    rfl
  · rw [compare_gt_iff_gt.mpr h]
    rcases ofBits_lt h with hscale | ⟨hscale, hsignificand⟩
    · rw [compare_gt_iff_gt.mpr (by omega)]
      rfl
    · rw [hscale, compare_eq_iff_eq.mpr rfl, compare_gt_iff_gt.mpr hsignificand]
      rfl

section

open UnpackedFloat

/-- The sign of the larger magnitude decides. -/
theorem apply_lt_positive {a b : Nat} (h : a < b) (s : Sign) :
    s.apply a < Sign.positive.apply b := by
  cases s with
  | negative => show (-a : Int) < b; omega
  | positive => show (a : Int) < b; omega

theorem negative_lt_apply {a b : Nat} (h : a < b) (s : Sign) :
    Sign.negative.apply b < s.apply a := by
  cases s with
  | negative => show (-b : Int) < -a; omega
  | positive => show (-b : Int) < a; omega

theorem compare_positive (a b : Nat) :
    compare (Sign.positive.apply a) (Sign.positive.apply b) = compare a b := by
  rcases Nat.lt_trichotomy a b with h | rfl | h
  · rw [compare_lt_iff_lt.mpr h, compare_lt_iff_lt.mpr (apply_lt_positive h .positive)]
  · rw [compare_eq_iff_eq.mpr rfl, compare_eq_iff_eq.mpr rfl]
  · rw [compare_gt_iff_gt.mpr h, compare_gt_iff_gt.mpr (apply_lt_positive h .positive)]

theorem compare_negative (a b : Nat) :
    compare (Sign.negative.apply a) (Sign.negative.apply b) = (compare a b).swap := by
  rw [Nat.compare_swap]
  rcases Nat.lt_trichotomy a b with h | rfl | h
  · rw [compare_gt_iff_gt.mpr h, compare_gt_iff_gt.mpr (negative_lt_apply h .negative)]
  · rw [compare_eq_iff_eq.mpr rfl, compare_eq_iff_eq.mpr rfl]
  · rw [compare_lt_iff_lt.mpr h, compare_lt_iff_lt.mpr (negative_lt_apply h .negative)]

/-- Unpacked floats compare as the signed bits of their magnitudes. -/
theorem compare_of_unpacks {s t : Sign} {a b : Nat} {x y : UnpackedFloat} (hx : Unpacks s a x)
    (hy : Unpacks t b y) : x.compare y = some (compare (s.apply a) (t.apply b)) := by
  have hpos : 0 < infinityBits := by decide
  have hless {i j : Int} (h : i < j) : some Ordering.lt = some (compare i j) := by
    rw [compare_lt_iff_lt.mpr h]
  have hgreater {i j : Int} (h : j < i) : some Ordering.gt = some (compare i j) := by
    rw [compare_gt_iff_gt.mpr h]
  cases hx with
  | zero =>
    cases hy with
    | zero => cases s <;> cases t <;> rfl
    | finite _ hlow =>
      cases t with
      | negative => exact hgreater (negative_lt_apply hlow s)
      | positive => exact hless (apply_lt_positive hlow s)
    | infinity =>
      cases t with
      | negative => exact hgreater (negative_lt_apply hpos s)
      | positive => exact hless (apply_lt_positive hpos s)
  | finite _ hlow hhigh hmantissa hexponent =>
    cases hy with
    | zero =>
      cases s with
      | negative => exact hless (negative_lt_apply hlow t)
      | positive => exact hgreater (apply_lt_positive hlow t)
    | finite _ hlow' _ hmantissa' hexponent' =>
      have hfields := compare_ofBits a b
      rw [← hmantissa, ← hmantissa', ← hexponent, ← hexponent'] at hfields
      -- magnitudes count only under one sign
      cases s with
      | negative =>
        cases t with
        | negative => rw [compare_negative, ← hfields]; rfl
        | positive => exact hless (by show (-a : Int) < b; omega)
      | positive =>
        cases t with
        | negative => exact hgreater (by show (-b : Int) < a; omega)
        | positive => rw [compare_positive, ← hfields]; rfl
    | infinity =>
      cases t with
      | negative => exact hgreater (negative_lt_apply hhigh s)
      | positive => exact hless (apply_lt_positive hhigh s)
  | infinity =>
    cases hy with
    | zero =>
      cases s with
      | negative => exact hless (negative_lt_apply hpos t)
      | positive => exact hgreater (apply_lt_positive hpos t)
    | finite _ _ hhigh =>
      cases s with
      | negative => exact hless (negative_lt_apply hhigh t)
      | positive => exact hgreater (apply_lt_positive hhigh t)
    | infinity => cases s <;> cases t <;> rfl

end

/-! ## Comparing floats -/

theorem apply_signOf (x : Float) : (signOf x).apply (magnitudeBits x) = signedBits x := by
  unfold signOf signedBits
  split <;> rfl

variable {x y : Float}

theorem compare_eq (hx : x.isNaN = false) (hy : y.isNaN = false) :
    x.toModel.unpack.compare y.toModel.unpack = some (compare (signedBits x) (signedBits y)) := by
  rw [compare_of_unpacks (unpacks hx) (unpacks hy), apply_signOf, apply_signOf]

/-- A float is smaller iff the unpacked one is. -/
theorem lt_iff_compare :
    x < y ↔ x.toModel.unpack.compare y.toModel.unpack = some .lt := by
  show decide (x.toModel.unpack.lt y.toModel.unpack = true) = true ↔ _
  rw [decide_eq_true_eq]
  exact beq_iff_eq

/-- Floats that are no NaN are in the order of their signed bits. -/
theorem lt_iff (hx : x.isNaN = false) (hy : y.isNaN = false) :
    x < y ↔ signedBits x < signedBits y := by
  rw [lt_iff_compare, compare_eq hx hy, Option.some_inj, compare_lt_iff_lt]

/-- They are equal as numbers iff their signed bits are. -/
theorem beq_iff (hx : x.isNaN = false) (hy : y.isNaN = false) :
    (x == y) = true ↔ signedBits x = signedBits y := by
  show (x.toModel.unpack.compare y.toModel.unpack == some .eq) = true ↔ _
  rw [compare_eq hx hy, beq_iff_eq, Option.some_inj, compare_eq_iff_eq]

/-- NaN is not smaller than anything, and nothing is smaller than NaN. -/
theorem not_lt_of_isNaN (h : x.isNaN = true) (y : Float) : ¬ x < y ∧ ¬ y < x := by
  have hunpacked : x.toModel.unpack = .notANumber := by
    have hnan : x.toModel.unpack.isNaN = true := h
    cases hx : x.toModel.unpack with
    | notANumber => rfl
    | infinity _ | zero _ | finite _ _ _ _ => rw [hx] at hnan; cases hnan
  rw [lt_iff_compare, lt_iff_compare, hunpacked]
  constructor
  · intro hless
    cases hless
  · intro hless
    cases hy : y.toModel.unpack <;> rw [hy] at hless <;> cases hless

theorem not_lt_of_lt (h : x < y) : ¬ y < x := by
  cases hx : x.isNaN with
  | true => exact fun _ => (not_lt_of_isNaN hx y).1 h
  | false =>
    cases hy : y.isNaN with
    | true => exact fun _ => (not_lt_of_isNaN hy x).2 h
    | false =>
      rw [lt_iff hx hy] at h
      rw [lt_iff hy hx]
      exact Int.not_lt.mpr h.le

/-- Of two numbers one is smaller, or they are equal. -/
theorem lt_or_beq (hx : x.isNaN = false) (hy : y.isNaN = false) (h : ¬ y < x) :
    x < y ∨ (x == y) = true := by
  rw [lt_iff hy hx] at h
  rw [lt_iff hx hy, beq_iff hx hy]
  exact (Int.not_lt.mp h).lt_or_eq

theorem isNaN_of_isFinite (h : x.isFinite = true) : x.isNaN = false := by
  have hfinite : x.toModel.unpack.isFinite = true := h
  show x.toModel.unpack.isNaN = false
  cases hx : x.toModel.unpack with
  | notANumber => rw [hx] at hfinite; cases hfinite
  | infinity _ | zero _ | finite _ _ _ _ => rfl

/-! ## The ends of the order -/

theorem signedBits_le (h : x.isNaN = false) :
    -(infinityBits : Int) ≤ signedBits x ∧ signedBits x ≤ infinityBits := by
  have hle := magnitudeBits_le h
  unfold signedBits
  split <;> omega

/-- Only the zeros share their signed bits. -/
theorem eq_of_signedBits_eq (hne : signedBits x ≠ 0) (h : signedBits x = signedBits y) : x = y := by
  have hsame : isNegative x = isNegative y ∧ magnitudeBits x = magnitudeBits y := by
    unfold signedBits at h hne
    cases hx : isNegative x <;> cases hy : isNegative y <;> simp [hx, hy] at h hne ⊢ <;> omega
  rw [← floatOf_magnitudeBits x, hsame.1, hsame.2, floatOf_magnitudeBits]

end LineScript.Decimal
