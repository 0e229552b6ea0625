/-
This file says what number a finite float is worth. The parts of a float are in lowest
form: the mantissa fills its bits unless the exponent is the least one. So comparing parts
is comparing numbers, and parts in this form come back unchanged from being packed. A
finite float has a whole number near it in every way of rounding, and no other float has.
-/

import Mathlib
import SeriesChart.Number.Scalar

namespace SeriesChart

open Float.Model UnpackedFloat

/-! ### What parts are worth -/

/-- The number with the magnitude one that has the sign. -/
def signFactor : Sign → ℚ
  | .negative => -1
  | .positive => 1

/-- The number that parts stand for. An infinity and what is no number count for nothing. -/
def partsWorth : UnpackedFloat → ℚ
  | .finite sign mantissa exponent _ => signFactor sign * (mantissa * 2 ^ exponent)
  | _ => 0

/-- The number that a float stands for. -/
def worth (number : Float) : ℚ := partsWorth number.toModel.unpack

theorem apply_eq (sign : Sign) (number : ℤ) :
    ((sign.apply number : ℤ) : ℚ) = signFactor sign * number := by
  cases sign <;> simp [signFactor, Sign.apply]

theorem signFactor_neg (sign : Sign) : signFactor (-sign) = -signFactor sign := by
  cases sign <;> decide +kernel

theorem signFactor_mul (first second : Sign) :
    signFactor (first * second) = signFactor first * signFactor second := by
  cases first <;> cases second <;> decide +kernel

theorem signFactor_div (first second : Sign) :
    signFactor (first / second) = signFactor first / signFactor second := by
  cases first <;> cases second <;> decide +kernel

theorem abs_signFactor (sign : Sign) : |signFactor sign| = 1 := by
  cases sign <;> simp [signFactor]

theorem two_zpow_pos (exponent : ℤ) : (0 : ℚ) < 2 ^ exponent := zpow_pos (by norm_num) exponent

theorem two_zpow_le {small large : ℤ} (ordered : small ≤ large) : (2 : ℚ) ^ small ≤ 2 ^ large :=
  zpow_le_zpow_right₀ (by norm_num) ordered

theorem two_zpow_add (first second : ℤ) : (2 : ℚ) ^ (first + second) = 2 ^ first * 2 ^ second :=
  zpow_add₀ (by norm_num) first second

section Formats

variable {format : Format}

/-- The bits of a mantissa after its first one. -/
def fractionBits (format : Format) : ℕ := format.mantissaBitsWithoutImplicit

/-- The largest exponent of a float. -/
def largestExponent (format : Format) : ℤ := format.exponentBias - fractionBits format

theorem fractionBits_spec (format : Format) :
    format.mantissaBitsWithoutImplicit = fractionBits format ∧
      2 ^ format.mantissaBitsWithoutImplicit = 2 ^ fractionBits format := ⟨rfl, rfl⟩

theorem fractionBits_pos (format : Format) : 0 < fractionBits format := format.hm

theorem two_pow_exponentBits (format : Format) :
    2 ^ format.exponentBits = 2 * format.exponentBias + 2 := by
  have positive : 0 < 2 ^ (format.exponentBits - 1) := Nat.two_pow_pos _
  have double : 2 ^ format.exponentBits = 2 * 2 ^ (format.exponentBits - 1) := by
    rw [← Nat.pow_succ', Nat.succ_eq_add_one, Nat.sub_add_cancel format.he]
  unfold Format.exponentBias
  omega

theorem minExponent_eq (format : Format) :
    format.minExponent = 1 - format.exponentBias - fractionBits format := by
  have positive : 1 ≤ 2 ^ (format.exponentBits - 1) := Nat.two_pow_pos _
  unfold Format.minExponent Format.mantissaBits Format.exponentBias fractionBits
  rw [Nat.cast_sub positive]
  push_cast
  ring

/-! ### Lowest form -/

/-- The parts are in lowest form: the mantissa fits its places and fills them, unless the exponent
is the least one. -/
inductive IsLowest (format : Format) : UnpackedFloat → Prop where
  | notANumber : IsLowest format .notANumber
  | infinity (sign : Sign) : IsLowest format (.infinity sign)
  | zero (sign : Sign) : IsLowest format (.zero sign)
  | finite (sign : Sign) (mantissa : ℕ) (exponent : ℤ) (positive : 0 < mantissa)
    (fits : mantissa < 2 ^ (fractionBits format + 1)) (least : format.minExponent ≤ exponent)
    (filled : 2 ^ fractionBits format ≤ mantissa ∨ exponent = format.minExponent) :
    IsLowest format (.finite sign mantissa exponent positive)

/-- The parts have room among the floats. -/
def HasRoom (format : Format) : UnpackedFloat → Prop
  | .finite _ _ exponent _ => exponent ≤ largestExponent format
  | _ => True

theorem toNat_one_append {bits : ℕ} (fraction : BitVec bits) :
    (BitVec.ofNat 1 1 ++ fraction).toNat = 2 ^ bits + fraction.toNat := by
  rw [BitVec.toNat_append, ← Nat.shiftLeft_add_eq_or_of_lt fraction.isLt, Nat.shiftLeft_eq]
  exact congrArg (· + _) (Nat.one_mul _)

theorem toNat_neg_one {bits : ℕ} : (-BitVec.ofNat bits 1).toNat = 2 ^ bits - 1 := by
  rw [BitVec.neg_one_eq_allOnes, BitVec.toNat_allOnes]

theorem lowest_unpack (word : BitVec format.numBits) :
    IsLowest format (UnpackedFloat.unpack format word) := by
  have least := minExponent_eq format
  obtain ⟨known, powers⟩ := fractionBits_spec format
  unfold UnpackedFloat.unpack
  dsimp only
  split
  · split
    · exact .infinity _
    · exact .notANumber
  · split
    · rename_i first
      have none : (unpackExponent word).toNat = 0 := by rw [first, BitVec.toNat_zero]
      have fraction := (unpackMantissa word).isLt
      split
      · exact .zero _
      · exact .finite _ _ _ _ (by omega) (by omega) (Or.inr (by omega))
    · rename_i notFirst
      have above : (unpackExponent word).toNat ≠ 0 := fun first =>
        notFirst (BitVec.eq_of_toNat_eq (first.trans BitVec.toNat_zero.symm))
      have whole := toNat_one_append (unpackMantissa word)
      have fraction := (unpackMantissa word).isLt
      refine .finite _ _ _ _ ?_ (by omega) (Or.inl ?_)
      · rw [whole]
        omega
      · rw [whole]
        omega

theorem hasRoom_unpack (wide : 0 < format.exponentBias) (word : BitVec format.numBits) :
    HasRoom format (UnpackedFloat.unpack format word) := by
  have field := (unpackExponent word).isLt
  have double := two_pow_exponentBits format
  obtain ⟨known, powers⟩ := fractionBits_spec format
  unfold UnpackedFloat.unpack
  dsimp only
  split
  · split <;> exact trivial
  · rename_i notLast
    have below : (unpackExponent word).toNat ≠ 2 ^ format.exponentBits - 1 := fun last =>
      notLast (BitVec.eq_of_toNat_eq (last.trans toNat_neg_one.symm))
    split
    · rename_i first
      have none : (unpackExponent word).toNat = 0 := by rw [first, BitVec.toNat_zero]
      split
      · exact trivial
      · show _ ≤ largestExponent format
        unfold largestExponent
        omega
    · show _ ≤ largestExponent format
      unfold largestExponent
      omega

/-- Parts are finite just when their exponent is not the last one. -/
theorem isFinite_unpack_iff {word : BitVec format.numBits} :
    (UnpackedFloat.unpack format word).isFinite = true ↔
      (unpackExponent word).toNat ≠ 2 ^ format.exponentBits - 1 := by
  unfold UnpackedFloat.unpack
  dsimp only
  split
  · rename_i last
    refine iff_of_false ?_ (not_not.mpr ((congrArg BitVec.toNat last).trans toNat_neg_one))
    split <;> exact Bool.false_ne_true
  · rename_i notLast
    refine iff_of_true ?_ fun last =>
      notLast (BitVec.eq_of_toNat_eq (last.trans toNat_neg_one.symm))
    split
    · split <;> rfl
    · rfl

/-! ### Packing -/

theorem finite_congr (sign : Sign) {mantissa other : ℕ} {exponent otherExponent : ℤ}
    (mantissas : mantissa = other) (exponents : exponent = otherExponent)
    (positive : 0 < mantissa) (otherPositive : 0 < other) :
    UnpackedFloat.finite sign mantissa exponent positive =
      .finite sign other otherExponent otherPositive := by
  subst mantissas exponents
  rfl

/-- The first bit of a mantissa is left out when the exponent is not the least one. -/
theorem unpack_packComponents_of_normal (sign : Sign) {field : BitVec format.exponentBits}
    (fraction : BitVec format.mantissaBitsWithoutImplicit)
    (notFirst : field ≠ BitVec.ofNat _ 0) (notLast : field ≠ -BitVec.ofNat _ 1) :
    UnpackedFloat.unpack format (packComponents format sign field fraction) =
      .finite sign (2 ^ format.mantissaBitsWithoutImplicit + fraction.toNat)
        (field.toNat - (format.exponentBias + format.mantissaBitsWithoutImplicit))
        (Nat.add_pos_left (Nat.two_pow_pos _) _) := by
  simp only [UnpackedFloat.unpack, unpackMantissa_packComponents, unpackExponent_packComponents,
    UnpackedFloat.unpackSign_packComponents, Sign.ofBitVec_toBitVec]
  rw [if_neg notLast, if_neg notFirst]
  exact finite_congr sign (toNat_one_append fraction) rfl _ _

theorem zero_ne_neg_one : BitVec.ofNat format.exponentBits 0 ≠ -BitVec.ofNat _ 1 := by
  intro same
  have values := congrArg BitVec.toNat same
  rw [toNat_neg_one, BitVec.toNat_zero] at values
  have double := two_pow_exponentBits format
  omega

theorem unpack_packComponents_of_least (sign : Sign)
    {fraction : BitVec format.mantissaBitsWithoutImplicit} (positive : 0 < fraction.toNat) :
    UnpackedFloat.unpack format (packComponents format sign (BitVec.ofNat _ 0) fraction) =
      .finite sign fraction.toNat format.minExponent positive := by
  have nonzero : fraction ≠ BitVec.ofNat _ 0 := by
    rintro rfl
    rw [BitVec.toNat_zero] at positive
    exact absurd positive (Nat.lt_irrefl 0)
  have least := minExponent_eq format
  obtain ⟨known, powers⟩ := fractionBits_spec format
  simp only [UnpackedFloat.unpack, unpackMantissa_packComponents, unpackExponent_packComponents,
    UnpackedFloat.unpackSign_packComponents, Sign.ofBitVec_toBitVec]
  rw [if_neg zero_ne_neg_one, if_pos trivial, dif_neg nonzero]
  refine finite_congr sign rfl ?_ _ _
  rw [BitVec.toNat_zero]
  omega

/-- Parts in lowest form that have room come back from being packed. -/
theorem unpack_pack {parts : UnpackedFloat} (lowest : IsLowest format parts)
    (room : HasRoom format parts) :
    UnpackedFloat.unpack format (UnpackedFloat.pack format parts) = parts := by
  cases lowest with
  | notANumber => exact UnpackedFloat.unpack_packedNaN
  | infinity sign => simp [UnpackedFloat.pack, packedInfinity, UnpackedFloat.unpack]
  | zero sign => exact UnpackedFloat.unpack_packedZero
  | finite sign mantissa exponent positive fits least filled =>
    change exponent ≤ largestExponent format at room
    unfold largestExponent at room
    have first := minExponent_eq format
    obtain ⟨known, powers⟩ := fractionBits_spec format
    have count := two_pow_exponentBits format
    have inRange : ¬2 ^ format.exponentBits ≤ (exponent + format.exponentBias +
        format.mantissaBitsWithoutImplicit).toNat + 1 := by omega
    have bits : mantissa.log2 + 1 = format.mantissaBits ↔ 2 ^ fractionBits format ≤ mantissa := by
      rw [← Nat.le_log2 (by omega)]
      have := (Nat.log2_lt (by omega : mantissa ≠ 0)).mpr fits
      unfold Format.mantissaBits
      omega
    have rest : (BitVec.ofNat format.mantissaBitsWithoutImplicit mantissa).toNat =
        mantissa % 2 ^ fractionBits format := BitVec.toNat_ofNat _ _
    simp only [UnpackedFloat.pack]
    rw [if_neg inRange]
    by_cases full : 2 ^ fractionBits format ≤ mantissa
    · have code : (BitVec.ofNat format.exponentBits (exponent + format.exponentBias +
          format.mantissaBitsWithoutImplicit).toNat).toNat =
            (exponent + format.exponentBias + format.mantissaBitsWithoutImplicit).toNat := by
        rw [BitVec.toNat_ofNat, Nat.mod_eq_of_lt (by omega)]
      rw [if_pos (bits.mpr full)]
      refine (unpack_packComponents_of_normal sign _ ?_ ?_).trans (finite_congr sign ?_ ?_ _ _)
      · intro none
        rw [none, BitVec.toNat_zero] at code
        omega
      · intro last
        rw [last, toNat_neg_one] at code
        omega
      · rw [rest, Nat.mod_eq_sub_mod full, Nat.mod_eq_of_lt (by omega)]
        omega
      · rw [code]
        omega
    · rw [if_neg (fun all => full (bits.mp all))]
      have small : mantissa % 2 ^ fractionBits format = mantissa := Nat.mod_eq_of_lt (by omega)
      refine (unpack_packComponents_of_least sign ?_).trans (finite_congr sign ?_ ?_ _ _)
      · rw [rest, small]
        exact positive
      · rw [rest, small]
      · omega

/-- Parts without room become an infinity. -/
theorem isInf_pack {parts : UnpackedFloat} (cramped : ¬HasRoom format parts) :
    (UnpackedFloat.unpack format (UnpackedFloat.pack format parts)).isInf = true := by
  cases parts with
  | notANumber | infinity | zero => exact absurd trivial cramped
  | finite sign mantissa exponent positive =>
    change ¬exponent ≤ largestExponent format at cramped
    unfold largestExponent at cramped
    obtain ⟨known, powers⟩ := fractionBits_spec format
    have count := two_pow_exponentBits format
    have outOfRange : 2 ^ format.exponentBits ≤ (exponent + format.exponentBias +
        format.mantissaBitsWithoutImplicit).toNat + 1 := by omega
    simp only [UnpackedFloat.pack]
    rw [if_pos outOfRange]
    simp [packedInfinity, UnpackedFloat.unpack, UnpackedFloat.isInf]

/-! ### Comparing -/

/-- Of two magnitudes in lowest form the one with the larger exponent is larger. -/
theorem magnitude_lt_of_exponents {bits mantissa other : ℕ} {exponent otherExponent least : ℤ}
    (fits : mantissa < 2 ^ (bits + 1)) (above : least ≤ exponent)
    (filled : 2 ^ bits ≤ other ∨ otherExponent = least) (below : exponent < otherExponent) :
    (mantissa * 2 ^ exponent : ℚ) < other * 2 ^ otherExponent := by
  have full : 2 ^ bits ≤ other := filled.resolve_right (by omega)
  calc (mantissa * 2 ^ exponent : ℚ)
      < 2 ^ (bits + 1) * 2 ^ exponent := by
        refine mul_lt_mul_of_pos_right ?_ (two_zpow_pos exponent)
        exact_mod_cast fits
    _ = 2 ^ bits * 2 ^ (exponent + 1) := by
        rw [two_zpow_add, pow_succ]
        ring
    _ ≤ other * 2 ^ otherExponent := by
        refine mul_le_mul ?_ (two_zpow_le below) (two_zpow_pos _).le (Nat.cast_nonneg other)
        exact_mod_cast full

/-- Magnitudes in lowest form are compared by their exponents, and then by their mantissas. -/
theorem compare_magnitudes {bits mantissa other : ℕ} {exponent otherExponent least : ℤ}
    (fits : mantissa < 2 ^ (bits + 1)) (above : least ≤ exponent)
    (filled : 2 ^ bits ≤ mantissa ∨ exponent = least)
    (otherFits : other < 2 ^ (bits + 1)) (otherAbove : least ≤ otherExponent)
    (otherFilled : 2 ^ bits ≤ other ∨ otherExponent = least) :
    (compare exponent otherExponent).then (compare mantissa other) =
      compare (mantissa * 2 ^ exponent : ℚ) (other * 2 ^ otherExponent) := by
  rcases lt_trichotomy exponent otherExponent with below | rfl | beyond
  · rw [compare_lt_iff_lt.mpr below, compare_lt_iff_lt.mpr
      (magnitude_lt_of_exponents fits above otherFilled below)]
    rfl
  · rw [compare_eq_iff_eq.mpr rfl]
    have positive := two_zpow_pos exponent
    rcases lt_trichotomy mantissa other with below | rfl | beyond
    · rw [compare_lt_iff_lt.mpr below, compare_lt_iff_lt.mpr
        (mul_lt_mul_of_pos_right (by exact_mod_cast below) positive)]
      rfl
    · rw [compare_eq_iff_eq.mpr rfl, compare_eq_iff_eq.mpr rfl]
      rfl
    · rw [compare_gt_iff_gt.mpr beyond, compare_gt_iff_gt.mpr
        (mul_lt_mul_of_pos_right (by exact_mod_cast beyond) positive)]
      rfl
  · rw [compare_gt_iff_gt.mpr beyond, compare_gt_iff_gt.mpr
      (magnitude_lt_of_exponents otherFits otherAbove filled beyond)]
    rfl

theorem magnitude_pos {mantissa : ℕ} (positive : 0 < mantissa) (exponent : ℤ) :
    (0 : ℚ) < mantissa * 2 ^ exponent :=
  mul_pos (by exact_mod_cast positive) (two_zpow_pos exponent)

theorem partsWorth_positive (mantissa : ℕ) (exponent : ℤ) (positive : 0 < mantissa) :
    partsWorth (.finite .positive mantissa exponent positive) = mantissa * 2 ^ exponent :=
  one_mul _

theorem partsWorth_negative (mantissa : ℕ) (exponent : ℤ) (positive : 0 < mantissa) :
    partsWorth (.finite .negative mantissa exponent positive) = -(mantissa * 2 ^ exponent) :=
  neg_one_mul _

theorem partsWorth_zero (sign : Sign) : partsWorth (.zero sign) = 0 := rfl

theorem abs_worth_finite (sign : Sign) (mantissa : ℕ) (exponent : ℤ) (positive : 0 < mantissa) :
    |partsWorth (.finite sign mantissa exponent positive)| = mantissa * 2 ^ exponent := by
  show |signFactor sign * (mantissa * 2 ^ exponent)| = _
  rw [abs_mul, abs_signFactor, one_mul, abs_of_pos (magnitude_pos positive exponent)]

/-- The magnitude of a finite number is told by its mantissa and its exponent. -/
theorem abs_worth_unpack {word : BitVec format.numBits}
    (finite : (UnpackedFloat.unpack format word).isFinite = true) :
    |partsWorth (UnpackedFloat.unpack format word)| =
      if (unpackExponent word).toNat = 0 then
        ((unpackMantissa word).toNat * 2 ^ format.minExponent : ℚ)
      else ((unpackMantissa word).toNat + 2 ^ fractionBits format : ℕ) *
        2 ^ ((unpackExponent word).toNat - (format.exponentBias + fractionBits format) : ℤ) := by
  have notLast := isFinite_unpack_iff.mp finite
  have least := minExponent_eq format
  unfold UnpackedFloat.unpack
  dsimp only
  rw [if_neg fun last => notLast ((congrArg BitVec.toNat last).trans toNat_neg_one)]
  split
  · rename_i first
    have none : (unpackExponent word).toNat = 0 := by rw [first, BitVec.toNat_zero]
    rw [if_pos none]
    split
    · rename_i clear
      rw [partsWorth_zero, clear, BitVec.toNat_zero, abs_zero, Nat.cast_zero, zero_mul]
    · rw [abs_worth_finite, none, least]
      congr 2
      unfold fractionBits
      push_cast
      ring
  · rename_i notFirst
    have above : (unpackExponent word).toNat ≠ 0 := fun first =>
      notFirst (BitVec.eq_of_toNat_eq (first.trans BitVec.toNat_zero.symm))
    rw [if_neg above, abs_worth_finite, toNat_one_append, Nat.add_comm]
    rfl

theorem compare_neg_neg (first second : ℚ) :
    compare (-first) (-second) = (compare first second).swap := by
  rcases lt_trichotomy first second with below | rfl | above
  · rw [compare_lt_iff_lt.mpr below, compare_gt_iff_gt.mpr (neg_lt_neg below)]
    rfl
  · rw [compare_eq_iff_eq.mpr rfl, compare_eq_iff_eq.mpr rfl]
    rfl
  · rw [compare_gt_iff_gt.mpr above, compare_lt_iff_lt.mpr (neg_lt_neg above)]
    rfl

/-- Comparing finite parts is comparing what they are worth. -/
theorem compare_parts {first second : UnpackedFloat} (lowest : IsLowest format first)
    (otherLowest : IsLowest format second) (finite : first.isFinite = true)
    (otherFinite : second.isFinite = true) :
    first.compare second = some (compare (partsWorth first) (partsWorth second)) := by
  cases lowest with
  | notANumber | infinity => cases finite
  | zero =>
    cases otherLowest with
    | notANumber | infinity => cases otherFinite
    | zero => simp [UnpackedFloat.compare, partsWorth]
    | finite sign mantissa exponent positive =>
      have above := magnitude_pos positive exponent
      cases sign
      · rw [partsWorth_negative, partsWorth_zero, compare_gt_iff_gt.mpr (neg_neg_of_pos above)]
        rfl
      · rw [partsWorth_positive, partsWorth_zero, compare_lt_iff_lt.mpr above]
        rfl
  | finite sign mantissa exponent positive fits least filled =>
    have above := magnitude_pos positive exponent
    cases otherLowest with
    | notANumber | infinity => cases otherFinite
    | zero =>
      cases sign
      · rw [partsWorth_negative, partsWorth_zero, compare_lt_iff_lt.mpr (neg_neg_of_pos above)]
        rfl
      · rw [partsWorth_positive, partsWorth_zero, compare_gt_iff_gt.mpr above]
        rfl
    | finite otherSign other otherExponent otherPositive otherFits otherLeast otherFilled =>
      have otherAbove := magnitude_pos otherPositive otherExponent
      have ordered := compare_magnitudes fits least filled otherFits otherLeast otherFilled
      cases sign <;> cases otherSign
      · rw [partsWorth_negative, partsWorth_negative, compare_neg_neg, ← ordered]
        rfl
      · rw [partsWorth_negative, partsWorth_positive, compare_lt_iff_lt.mpr (by linarith)]
        rfl
      · rw [partsWorth_negative, partsWorth_positive, compare_gt_iff_gt.mpr (by linarith)]
        rfl
      · rw [partsWorth_positive, partsWorth_positive, ← ordered]
        rfl

section Orders

variable {first second : UnpackedFloat} (lowest : IsLowest format first)
  (otherLowest : IsLowest format second) (finite : first.isFinite = true)
  (otherFinite : second.isFinite = true)

include lowest otherLowest finite otherFinite

theorem lt_parts_iff : first.lt second = true ↔ partsWorth first < partsWorth second := by
  rw [← compare_lt_iff_lt, UnpackedFloat.lt, compare_parts lowest otherLowest finite otherFinite]
  cases compare (partsWorth first) (partsWorth second) <;> decide

theorem le_parts_iff : first.le second = true ↔ partsWorth first ≤ partsWorth second := by
  rw [← compare_le_iff_le, UnpackedFloat.le, compare_parts lowest otherLowest finite otherFinite]
  cases compare (partsWorth first) (partsWorth second) <;> decide

theorem beq_parts_iff : first.beq second = true ↔ partsWorth first = partsWorth second := by
  rw [← compare_eq_iff_eq (a := partsWorth first), UnpackedFloat.beq,
    compare_parts lowest otherLowest finite otherFinite]
  cases compare (partsWorth first) (partsWorth second) <;> decide

end Orders

end Formats

/-! ### Floats -/

theorem isLowest (number : Float) : IsLowest Format.binary64 number.toModel.unpack :=
  lowest_unpack _

theorem hasRoom (number : Float) : HasRoom Format.binary64 number.toModel.unpack :=
  hasRoom_unpack (by decide) _

section Order

variable {first second : Float}

theorem lt_iff_parts : first < second ↔ first.toModel.unpack.lt second.toModel.unpack = true :=
  decide_eq_true_iff

theorem le_iff_parts : first ≤ second ↔ first.toModel.unpack.le second.toModel.unpack = true :=
  decide_eq_true_iff

/-- Finite floats are ordered as what they are worth. -/
theorem lt_iff_worth (finite : first.isFinite = true) (otherFinite : second.isFinite = true) :
    first < second ↔ worth first < worth second :=
  lt_iff_parts.trans (lt_parts_iff (isLowest first) (isLowest second) finite otherFinite)

theorem le_iff_worth (finite : first.isFinite = true) (otherFinite : second.isFinite = true) :
    first ≤ second ↔ worth first ≤ worth second :=
  le_iff_parts.trans (le_parts_iff (isLowest first) (isLowest second) finite otherFinite)

theorem same_iff_worth (finite : first.isFinite = true) (otherFinite : second.isFinite = true) :
    Scalar.same first second = true ↔ worth first = worth second :=
  beq_parts_iff (isLowest first) (isLowest second) finite otherFinite

/-- What lies between finite floats is finite. -/
theorem isFinite_of_between {between : Float} (finite : first.isFinite = true)
    (otherFinite : second.isFinite = true) (above : first ≤ between) (below : between < second) :
    between.isFinite = true := by
  change first.toModel.unpack.isFinite = true at finite
  change second.toModel.unpack.isFinite = true at otherFinite
  rw [le_iff_parts] at above
  rw [lt_iff_parts] at below
  show between.toModel.unpack.isFinite = true
  generalize between.toModel.unpack = parts at above below
  generalize first.toModel.unpack = lower at finite above
  generalize second.toModel.unpack = upper at otherFinite below
  cases parts with
  | zero | finite => rfl
  | notANumber => cases upper <;> cases below
  | infinity sign =>
    cases sign with
    | negative =>
      cases lower <;>
        simp [UnpackedFloat.isFinite, UnpackedFloat.le, UnpackedFloat.compare] at finite above
    | positive =>
      cases upper <;>
        simp [UnpackedFloat.isFinite, UnpackedFloat.lt, UnpackedFloat.compare] at otherFinite below

end Order

/-! ### Whole numbers -/

theorem toNat_unpackExponent (number : Float) :
    (@unpackExponent Format.binary64 number.toModel.toBits.toBitVec).toNat =
      number.toBits.toNat / twoTo 52 % 2048 := by
  rw [UnpackedFloat.unpackExponent_def, BitVec.extractLsb'_toNat, Nat.shiftRight_eq_div_pow]
  rfl

/-- The number that a finite float is, is what it is worth. -/
theorem ofFloat_of_isFinite {number : Float} (finite : number.isFinite = true) :
    ∃ negative significand exponent,
      Binary.ofFloat number = .finite negative significand exponent ∧
        |worth number| = significand * 2 ^ exponent := by
  have fraction : (@unpackMantissa Format.binary64 number.toModel.toBits.toBitVec).toNat =
      number.toBits.toNat % twoTo 52 := by
    rw [UnpackedFloat.unpackMantissa_def, BitVec.extractLsb'_toNat, Nat.shiftRight_zero]
    rfl
  have notLast : (@unpackExponent Format.binary64 number.toModel.toBits.toBitVec).toNat ≠ 2047 :=
    isFinite_unpack_iff.mp finite
  have equal := @abs_worth_unpack Format.binary64 _ finite
  change |worth number| = _ at equal
  rw [equal]
  unfold Binary.ofFloat Binary.ofBits
  dsimp only
  rw [← toNat_unpackExponent, ← fraction, if_neg notLast]
  split
  · exact ⟨_, _, _, rfl, rfl⟩
  · exact ⟨_, _, _, rfl, rfl⟩

theorem isInf_of_isFinite {number : Float} (finite : number.isFinite = true) :
    number.isInf = false := by
  change number.toModel.unpack.isFinite = true at finite
  show number.toModel.unpack.isInf = false
  cases parts : number.toModel.unpack with
  | infinity sign =>
    rw [parts] at finite
    cases finite
  | _ => rfl

theorem isNaN_of_isFinite {number : Float} (finite : number.isFinite = true) :
    number.isNaN = false := by
  change number.toModel.unpack.isFinite = true at finite
  show number.toModel.unpack.isNaN = false
  cases parts : number.toModel.unpack with
  | notANumber =>
    rw [parts] at finite
    cases finite
  | _ => rfl

/-- A whole number whose nearest float is finite is read as that. -/
theorem ofInt_of_isFinite {whole : Int} (finite : (Float.ofInt whole).isFinite = true) :
    Binary.ofInt whole = .ok (Float.ofInt whole) := by
  unfold Binary.ofInt
  dsimp only
  rw [isInf_of_isFinite finite]
  rfl

/-- A finite float has a whole number near it, whatever the way of rounding. -/
theorem toWhole_of_isFinite {number : Float} (finite : number.isFinite = true)
    (rounding : Rounding) : ∃ whole, Binary.toWhole rounding number = .ok whole := by
  obtain ⟨negative, significand, exponent, parts, -⟩ := ofFloat_of_isFinite finite
  unfold Binary.toWhole
  rw [parts]
  exact ⟨_, rfl⟩

/-- No other float has a whole number. -/
theorem isFinite_of_toWhole {number : Float} {rounding : Rounding} {whole : Int}
    (read : Binary.toWhole rounding number = .ok whole) : number.isFinite = true := by
  by_contra infinite
  have last : number.toBits.toNat / twoTo 52 % 2048 = 2047 := by
    rw [← toNat_unpackExponent]
    exact not_not.mp (mt isFinite_unpack_iff.mpr infinite)
  unfold Binary.toWhole Binary.ofFloat Binary.ofBits at read
  dsimp only at read
  rw [if_pos last] at read
  split at read <;> cases read

end SeriesChart
