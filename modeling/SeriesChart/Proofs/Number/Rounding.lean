/-
This file says how near to a number the float is that is made of it, and the whole number that is
made of a float. A numeral with places behind its point becomes a float that is as near to what it
says as floats are, and one without a minus sign. A finite float becomes a whole number that is
less than one away, and at most a half when it is rounded to the nearest.
-/

import SeriesChart.Number.Numeral
import SeriesChart.Proofs.Number.Magnitude
import SeriesChart.Proofs.Number.Unsigned

namespace SeriesChart

open Float.Model UnpackedFloat

/-! ### Decimal fractions -/

/-- The powers of ten that are looked up are exact. -/
theorem exactlyRepresentablePowersOfTen_spec : ∀ place : Fin 23,
    Float.exactlyRepresentablePowersOfTen[place].isFinite = true ∧
      worth Float.exactlyRepresentablePowersOfTen[place] = 10 ^ place.val := by
  decide +kernel

/-- A number that is far below the least place of all is rounded to zero. -/
theorem isNearParts_of_vanishing {exact : ℚ} (nonnegative : 0 ≤ exact)
    (small : exact < 2 ^ leastExponent) :
    IsNearParts Format.binary64 (.zero .positive) exact := by
  refine ⟨.zero _, rfl, fun _ _ => trivial, fun bound _ => nonnegative.trans,
    fun bound known below => ?_, fun size least _ => ?_⟩
  · rw [partsWorth_zero]
    by_contra above
    obtain ⟨mantissa, exponent, -, least, magnitude⟩ := known
    rw [abs_of_pos (not_le.mp above)] at magnitude
    have positive : (1 : ℚ) ≤ mantissa := by
      have nonzero : mantissa ≠ 0 := by
        rintro rfl
        rw [magnitude] at above
        simp at above
      exact_mod_cast Nat.one_le_iff_ne_zero.mpr nonzero
    have place : (2 : ℚ) ^ leastExponent ≤ 2 ^ exponent := two_zpow_le least
    have far : (2 : ℚ) ^ exponent ≤ mantissa * 2 ^ exponent :=
      le_mul_of_one_le_left (two_zpow_pos exponent).le positive
    linarith
  · rw [partsWorth_zero, zero_sub, abs_neg, abs_of_nonneg nonnegative]
    have wide : (2 : ℚ) ^ leastExponent ≤ 2 ^ (size - fractionBits Format.binary64) :=
      two_zpow_le (sub_le_sub_right least _)
    exact small.trans_le wide

/-- A numeral with many more places than it has bits is below the least place of all. -/
theorem quotient_lt_of_far {digits places : ℕ} (far : 2 ^ 11 + digits.log2 < places) :
    (digits / 10 ^ places : ℚ) < 2 ^ leastExponent := by
  have few : (digits : ℚ) < 2 ^ (digits.log2 + 1 : ℤ) := by
    exact_mod_cast Nat.lt_log2_self
  have tens : (2 : ℚ) ^ (places : ℤ) ≤ 10 ^ places := by
    rw [zpow_natCast]
    exact pow_le_pow_left₀ (by norm_num) (by norm_num) _
  calc (digits / 10 ^ places : ℚ)
      ≤ digits / 2 ^ (places : ℤ) :=
        div_le_div_of_nonneg_left (Nat.cast_nonneg _) (two_zpow_pos _) tens
    _ < 2 ^ (digits.log2 + 1 : ℤ) / 2 ^ (places : ℤ) :=
        div_lt_div_of_pos_right few (two_zpow_pos _)
    _ = 2 ^ (digits.log2 + 1 - places : ℤ) := (zpow_sub₀ (by norm_num) _ _).symm
    _ ≤ 2 ^ leastExponent := two_zpow_le (by unfold leastExponent; omega)

theorem isNearParts_ofScientific (digits : ℕ) {places : ℕ} (positive : 0 < places) :
    IsNearParts Format.binary64 (UnpackedFloat.ofScientific Format.binary64 digits (-places))
      (digits / 10 ^ places) := by
  unfold UnpackedFloat.ofScientific
  split
  · rename_i none
    rw [none, Nat.cast_zero, zero_div]
    exact isNearParts_self (.zero _) trivial rfl
  · rename_i some
    have bits : (0 : ℤ) ≤ 2 ^ Format.binary64.exponentBits := by positivity
    rw [if_neg (by omega)]
    split
    · rename_i vanishing
      change -(places : ℤ) < -((2 ^ 11 : ℤ) + digits.log2) at vanishing
      exact isNearParts_of_vanishing (by positivity) (quotient_lt_of_far (by omega))
    · have tens : (-(-(places : ℤ))).toNat = places := by omega
      have near : IsNearParts Format.binary64 _ _ :=
        isNearParts_quotient .positive .positive (Nat.pos_of_ne_zero some)
          (Nat.pow_pos (n := (-(-(places : ℤ))).toNat) (by decide : 0 < 10)) 0 0
      have exact : signFactor .positive * (digits * 2 ^ (0 : ℤ)) /
          (signFactor .positive * ((10 ^ (-(-(places : ℤ))).toNat : ℕ) * 2 ^ (0 : ℤ))) =
            (digits / 10 ^ places : ℚ) := by
        rw [tens, zpow_zero, mul_one, mul_one, show signFactor .positive = 1 from rfl, one_mul,
          one_mul]
        push_cast
        rfl
      rw [if_neg (by omega), ← exact]
      exact near

/-- A numeral with places behind its point is read as a float near to what it says. -/
theorem isNear_nearestFloat (digits places : ℕ) :
    IsNear (Numeral.nearestFloat digits (-places)) (digits / 10 ^ places) := by
  rcases Nat.eq_zero_or_pos places with rfl | positive
  · rw [pow_zero, div_one]
    exact isNear_ofNat digits
  · unfold Numeral.nearestFloat Float.ofScientific
    rw [decide_eq_true (by omega : -(places : ℤ) < 0), Int.natAbs_neg, Int.natAbs_natCast]
    split
    · rename_i small
      obtain ⟨finite, exact⟩ := exactlyRepresentablePowersOfTen_spec ⟨places, by omega⟩
      have close := (isNear_toFloat small.1).isClose (abs_natCast_le small.1)
      have near := isNear_div close.finite finite (by rw [exact]; positivity)
      rw [close.worth_eq (isRepresentable_natCast (by decide) small.1), exact] at near
      exact near
    · have near := isNear_packed (isNearParts_ofScientific digits positive)
      rw [show -(places : ℤ) = Int.negOfNat places from Int.negOfNat_eq.symm] at near
      exact near

/-! ### Whole numbers of floats -/

/-- The sign of parts is the first bit of their word. -/
theorem partsWorth_unpack (word : BitVec Format.binary64.numBits) :
    partsWorth (UnpackedFloat.unpack Format.binary64 word) =
      signFactor (Sign.ofBitVec (unpackSign word)) *
        |partsWorth (UnpackedFloat.unpack Format.binary64 word)| := by
  have finite (sign : Sign) (mantissa : ℕ) (exponent : ℤ) (positive : 0 < mantissa) :
      partsWorth (.finite sign mantissa exponent positive) =
        signFactor sign * |partsWorth (.finite sign mantissa exponent positive)| := by
    rw [abs_worth_finite]
    rfl
  have zero : (0 : ℚ) = signFactor (Sign.ofBitVec (unpackSign word)) * |0| := by
    rw [abs_zero, mul_zero]
  unfold UnpackedFloat.unpack
  dsimp only
  split
  · split <;> exact zero
  · split
    · split
      · exact zero
      · exact finite _ _ _ _
    · exact finite _ _ _ _

theorem negative_of_ofBits {bits significand : ℕ} {negative : Bool} {exponent : ℤ}
    (parts : Binary.ofBits bits = .finite negative significand exponent) :
    negative = bits.testBit 63 := by
  unfold Binary.ofBits at parts
  dsimp only at parts
  split at parts
  · split at parts <;> cases parts
  · split at parts <;> exact (Binary.finite.inj parts).1.symm

theorem unpackSign_eq (word : BitVec Format.binary64.numBits) :
    unpackSign word = BitVec.ofBool (word.toNat.testBit 63) := by
  refine BitVec.eq_of_getElem_eq fun place inside => ?_
  obtain rfl : place = 0 := by omega
  unfold unpackSign
  unfold BitVec.extractLsb
  rw [BitVec.getElem_cast, BitVec.getElem_extractLsb', BitVec.getElem_ofBool]
  rfl

/-- A finite float is a whole number times a power of two. -/
theorem ofFloat_eq {number : Float} (finite : number.isFinite = true) :
    ∃ negative significand exponent,
      Binary.ofFloat number = .finite negative significand exponent ∧
        worth number = Binary.signed negative significand * 2 ^ exponent := by
  obtain ⟨negative, significand, exponent, parts, magnitude⟩ := ofFloat_of_isFinite finite
  refine ⟨negative, significand, exponent, parts, ?_⟩
  have signed := partsWorth_unpack number.toModel.toBits.toBitVec
  rw [unpackSign_eq] at signed
  change worth number =
    signFactor (Sign.ofBitVec (BitVec.ofBool (number.toBits.toNat.testBit 63))) * |worth number|
    at signed
  rw [signed, magnitude, ← negative_of_ofBits parts]
  cases negative with
  | false => exact one_mul _
  | true =>
    show -1 * _ = ((-significand : ℤ) : ℚ) * 2 ^ exponent
    push_cast
    ring

/-- A power of two as the quotient of two whole numbers, one of which is one. -/
theorem twoTo_div_twoTo (exponent : ℤ) :
    (twoTo exponent.toNat : ℚ) / twoTo (-exponent).toNat = 2 ^ exponent := by
  have power (places : ℕ) : (twoTo places : ℚ) = 2 ^ (places : ℤ) := by
    rw [zpow_natCast]
    exact Nat.cast_pow 2 places
  rw [power, power, ← zpow_sub₀ (by norm_num)]
  congr 1
  omega

/-- A finite float is the quotient that its whole numbers are rounded from. -/
theorem exists_quotient {number : Float} (finite : number.isFinite = true) :
    ∃ (numerator : ℤ) (denominator : ℕ), 0 < denominator ∧
      worth number * denominator = numerator ∧
      ∀ rounding,
        Binary.toWhole rounding number = .ok (rounding.quotient numerator denominator) := by
  obtain ⟨negative, significand, exponent, parts, exact⟩ := ofFloat_eq finite
  refine ⟨Binary.numerator negative significand exponent, Binary.denominator exponent, twoTo_pos _,
    ?_, fun rounding => ?_⟩
  · unfold Binary.numerator Binary.denominator
    rw [exact, ← twoTo_div_twoTo, mul_assoc,
      div_mul_cancel₀ _ (by exact_mod_cast (twoTo_pos _).ne')]
    push_cast
    rfl
  · unfold Binary.toWhole
    rw [parts]
    rfl

/-- Down is to the floor. -/
theorem quotient_down (numerator : ℤ) (denominator : ℕ) :
    Rounding.down.quotient numerator denominator = ⌊(numerator : ℚ) / denominator⌋ :=
  (Rat.floor_intCast_div_natCast numerator denominator).symm

/-- Up is to the ceiling. -/
theorem quotient_up (numerator : ℤ) {denominator : ℕ} (positive : 0 < denominator) :
    Rounding.up.quotient numerator denominator = ⌈(numerator : ℚ) / denominator⌉ := by
  have large : (0 : ℚ) < denominator := by exact_mod_cast positive
  have division : (denominator : ℚ) * (numerator / denominator : ℤ) +
      (numerator % denominator : ℤ) = numerator := by
    exact_mod_cast Int.mul_ediv_add_emod numerator denominator
  have below : ((numerator % denominator : ℤ) : ℚ) < denominator := by
    exact_mod_cast Int.emod_lt_of_pos numerator (by exact_mod_cast positive)
  have nonnegative : 0 ≤ numerator % denominator :=
    Int.emod_nonneg numerator (by exact_mod_cast positive.ne')
  symm
  rw [Int.ceil_eq_iff, lt_div_iff₀ large, div_le_iff₀ large]
  unfold Rounding.quotient
  dsimp only
  split
  · rename_i whole
    rw [whole, Int.cast_zero] at division
    constructor <;> linarith
  · rename_i rest
    have above : (1 : ℚ) ≤ (numerator % denominator : ℤ) := by exact_mod_cast (by omega)
    push_cast
    constructor <;> linarith

section Whole

variable {number : Float} (finite : number.isFinite = true)

include finite

theorem toWhole_down : Binary.toWhole .down number = .ok ⌊worth number⌋ := by
  obtain ⟨numerator, denominator, positive, exact, rounded⟩ := exists_quotient finite
  have large : (denominator : ℚ) ≠ 0 := by exact_mod_cast positive.ne'
  rw [rounded, quotient_down, ← (eq_div_iff large).mpr exact]

theorem toWhole_up : Binary.toWhole .up number = .ok ⌈worth number⌉ := by
  obtain ⟨numerator, denominator, positive, exact, rounded⟩ := exists_quotient finite
  have large : (denominator : ℚ) ≠ 0 := by exact_mod_cast positive.ne'
  rw [rounded, quotient_up numerator positive, ← (eq_div_iff large).mpr exact]

/-- To the whole number it is at most one, in every way of rounding. -/
theorem exists_whole (rounding : Rounding) :
    ∃ whole : ℤ, Binary.toWhole rounding number = .ok whole ∧
      |(whole : ℚ) - worth number| ≤ 1 := by
  obtain ⟨numerator, denominator, positive, exact, rounded⟩ := exists_quotient finite
  refine ⟨_, rounded rounding, ?_⟩
  have above := rounding.floor_le_quotient numerator denominator
  have below := rounding.quotient_le_floor_add_one numerator denominator
  generalize rounding.quotient numerator denominator = whole at above below ⊢
  have large : (denominator : ℚ) ≠ 0 := by exact_mod_cast positive.ne'
  have floored : ⌊worth number⌋ = numerator / (denominator : ℤ) := by
    rw [(eq_div_iff large).mpr exact]
    exact (quotient_down numerator denominator).symm
  rw [← floored] at above below
  rw [abs_le]
  have lower := Int.floor_le (worth number)
  have upper := Int.lt_floor_add_one (worth number)
  have aboveExact : (⌊worth number⌋ : ℚ) ≤ whole := by exact_mod_cast above
  have belowExact : (whole : ℚ) ≤ ⌊worth number⌋ + 1 := by exact_mod_cast below
  constructor <;> linarith

end Whole

/-- To the nearest whole number it is at most a half. -/
theorem exists_nearest {number : Float} (finite : number.isFinite = true) :
    ∃ whole : ℤ, Binary.toWhole .nearestEven number = .ok whole ∧
      |(whole : ℚ) - worth number| ≤ 1 / 2 := by
  obtain ⟨numerator, denominator, positive, exact, rounded⟩ := exists_quotient finite
  refine ⟨_, rounded .nearestEven, ?_⟩
  obtain ⟨above, below⟩ := Rounding.nearestEven_within numerator denominator positive
  generalize Rounding.nearestEven.quotient numerator denominator = whole at above below ⊢
  have large : (0 : ℚ) < denominator := by exact_mod_cast positive
  have aboveExact : (2 * (denominator * whole - numerator) : ℚ) ≤ denominator := by
    exact_mod_cast above
  have belowExact : -(denominator : ℚ) ≤ 2 * (denominator * whole - numerator) := by
    exact_mod_cast below
  rw [← exact] at aboveExact belowExact
  rw [abs_le]
  constructor <;> nlinarith

/-! ### Floats of whole numbers -/

theorem within_ofInt {whole : ℤ} {size : ℤ} (small : |(whole : ℚ)| ≤ 2 ^ size)
    (least : leastExponent ≤ size) (largest : size ≤ roomSize) :
    Within size (Float.ofInt whole) := by
  cases whole with
  | ofNat number => exact (isNear_ofNat number).within small least largest
  | negSucc number =>
    refine within_neg ((isNear_ofNat (number + 1)).within ?_ least largest)
    rw [Int.cast_negSucc, abs_neg] at small
    exact small

/-- A float becomes a whole number of about its size. -/
theorem exists_whole_within {number : Float} {size : ℤ} (within : Within size number)
    (least : 0 ≤ size) (largest : size ≤ 1000) (rounding : Rounding) :
    ∃ whole : ℤ, Binary.toWhole rounding number = .ok whole ∧
      Within (size + 1) (Float.ofInt whole) := by
  obtain ⟨whole, read, apart⟩ := exists_whole within.finite rounding
  refine ⟨whole, read, within_ofInt ?_ (by unfold leastExponent; omega)
    (by unfold roomSize; omega)⟩
  have one : (1 : ℚ) ≤ 2 ^ size := one_le_zpow₀ (by norm_num) least
  calc |(whole : ℚ)|
      ≤ |(whole : ℚ) - worth number| + |worth number| := by
        have triangle := abs_add_le ((whole : ℚ) - worth number) (worth number)
        rwa [sub_add_cancel] at triangle
    _ ≤ 2 ^ size + 2 ^ size := add_le_add (apart.trans one) within.le
    _ = 2 ^ (size + 1) := by
        rw [two_zpow_add, zpow_one]
        ring

end SeriesChart
