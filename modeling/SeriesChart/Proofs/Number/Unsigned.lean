/-
This file tells when two floats that are worth the same are the same float. Zero has two
forms, and what is no number is worth nothing; apart from that a float is determined by
what it is worth. So floats without a minus sign that compare as equal are equal. Whole
numbers from zero on, and all that compares as above zero, have no minus sign.
-/

import Mathlib
import SeriesChart.Number.Scalar

namespace SeriesChart

open Float.Model UnpackedFloat

/-! ### The parts of a float -/

/-- There is no minus sign. What is no number has no sign at all. -/
inductive IsUnsigned : UnpackedFloat → Prop where
  | notANumber : IsUnsigned .notANumber
  | infinity : IsUnsigned (.infinity .positive)
  | zero : IsUnsigned (.zero .positive)
  | finite (mantissa : Nat) (exponent : Int) (positive : 0 < mantissa) :
    IsUnsigned (.finite .positive mantissa exponent positive)

/-- The sixty-four bits of a float. -/
abbrev Word := BitVec Format.binary64.numBits

/-! ### Computing without a minus sign -/

theorem isUnsigned_unpack {word : Word} (clear : unpackSign word = 0#1) :
    IsUnsigned (UnpackedFloat.unpack Format.binary64 word) := by
  have positive : Sign.ofBitVec (unpackSign word) = .positive := by rw [clear]; rfl
  simp only [UnpackedFloat.unpack, positive]
  (repeat' split) <;> constructor

theorem unpackSign_pack {parts : UnpackedFloat} (unsigned : IsUnsigned parts) :
    unpackSign (parts.pack Format.binary64) = 0#1 := by
  cases unsigned with
  | notANumber | infinity | zero => exact unpackSign_packComponents _ _ _
  | finite mantissa exponent positive =>
    simp only [UnpackedFloat.pack]
    (repeat' split) <;> exact unpackSign_packComponents _ _ _

theorem isUnsigned_packed {parts : UnpackedFloat} (unsigned : IsUnsigned parts) :
    IsUnsigned (Float.Model.pack parts).unpack :=
  isUnsigned_unpack (unpackSign_pack unsigned)

theorem isUnsigned_roundWithAccuracy (format : Format) (mantissa : Nat) (exponent : Int)
    (accuracy : Accuracy) :
    IsUnsigned (roundWithAccuracy format .positive mantissa exponent accuracy) := by
  simp only [roundWithAccuracy]
  split <;> constructor

theorem isUnsigned_mul {format : Format} {first second : UnpackedFloat}
    (firstUnsigned : IsUnsigned first) (secondUnsigned : IsUnsigned second) :
    IsUnsigned (first.mul format second) := by
  cases firstUnsigned <;> cases secondUnsigned <;>
    first
    | exact isUnsigned_roundWithAccuracy _ _ _ _
    | constructor

theorem isUnsigned_div {format : Format} {first second : UnpackedFloat}
    (firstUnsigned : IsUnsigned first) (secondUnsigned : IsUnsigned second) :
    IsUnsigned (first.div format second) := by
  cases firstUnsigned <;> cases secondUnsigned <;>
    first
    | exact isUnsigned_roundWithAccuracy _ _ _ _
    | constructor

theorem isUnsigned_ofInt (format : Format) {number : Int} (nonnegative : 0 ≤ number) :
    IsUnsigned (UnpackedFloat.ofInt format number) := by
  unfold UnpackedFloat.ofInt UnpackedFloat.normalize
  split
  · rename_i below
    exact absurd nonnegative (Int.not_le.mpr (Int.compare_eq_lt.mp below))
  · exact .zero
  · exact isUnsigned_roundWithAccuracy _ _ _ _

theorem isUnsigned_ofScientific (number : Nat) (exponent : Int) :
    IsUnsigned (UnpackedFloat.ofScientific Format.binary64 number exponent) := by
  unfold UnpackedFloat.ofScientific
  split_ifs
  · exact .zero
  · exact .infinity
  · exact .zero
  · exact isUnsigned_mul (.finite _ _ _) (.finite _ _ _)
  · exact isUnsigned_div (.finite _ _ _) (.finite _ _ _)

/-! ### Floats -/

/-- The float has no minus sign. -/
def HasNoMinus (number : Float) : Prop := IsUnsigned number.toModel.unpack

/-- The other form of zero has a minus sign. -/
theorem not_hasNoMinus_negative_zero : ¬HasNoMinus (-0) := by
  have parts : (-0 : Float).toModel.unpack = .zero .negative := by rfl
  intro unsigned
  unfold HasNoMinus at unsigned
  rw [parts] at unsigned
  cases unsigned

/-- Floats without a minus sign that are worth the same are the same. -/
theorem eq_of_worth_same {first second : Float} (firstUnsigned : HasNoMinus first)
    (secondUnsigned : HasNoMinus second) (same : (first == second) = true) : first = second := by
  obtain ⟨_, _, equal | ⟨_, rfl⟩ | ⟨rfl, _⟩⟩ := Float.beq_iff_ne_nan_and_eq.mp same
  · exact equal
  · exact absurd secondUnsigned not_hasNoMinus_negative_zero
  · exact absurd firstUnsigned not_hasNoMinus_negative_zero

theorem le_of_worth_same {first second : Float} (same : (first == second) = true) :
    first ≤ second := by
  have compared : first.toModel.unpack.compare second.toModel.unpack = some .eq :=
    eq_of_beq same
  refine decide_eq_true ?_
  show (first.toModel.unpack.compare second.toModel.unpack).any (·.isLE) = true
  rw [compared]
  rfl

theorem le_of_below {first second : Float} (below : first < second) : first ≤ second := by
  have compared : first.toModel.unpack.compare second.toModel.unpack = some .lt :=
    eq_of_beq (of_decide_eq_true below)
  refine decide_eq_true ?_
  show (first.toModel.unpack.compare second.toModel.unpack).any (·.isLE) = true
  rw [compared]
  rfl

theorem unpack_zero : (0.0 : Float).toModel.unpack = .zero .positive := by rfl

theorem hasNoMinus_zero : HasNoMinus 0.0 := by
  unfold HasNoMinus
  rw [unpack_zero]
  exact .zero

/-- What is above zero has no minus sign. -/
theorem hasNoMinus_of_pos {number : Float} (positive : 0.0 < number) : HasNoMinus number := by
  have above : (0.0 : Float).toModel.unpack.compare number.toModel.unpack = some .lt :=
    eq_of_beq (of_decide_eq_true positive)
  rw [unpack_zero] at above
  unfold HasNoMinus
  generalize number.toModel.unpack = parts at above
  cases parts with
  | notANumber => exact .notANumber
  | zero sign => simp [UnpackedFloat.compare] at above
  | infinity sign | finite sign mantissa exponent nonzero =>
    cases sign <;> simp [UnpackedFloat.compare] at above
    constructor

/-- What is neither below zero nor zero has no minus sign. -/
theorem hasNoMinus_of_not_le {number : Float} (above : ¬number ≤ 0.0) : HasNoMinus number := by
  have notBelow : ¬(number.toModel.unpack.compare (.zero .positive)).any (·.isLE) := by
    rw [← unpack_zero]
    exact fun below => above (decide_eq_true below)
  unfold HasNoMinus
  generalize number.toModel.unpack = parts at notBelow
  cases parts with
  | notANumber => exact .notANumber
  | zero sign => simp [UnpackedFloat.compare] at notBelow
  | infinity sign | finite sign mantissa exponent nonzero =>
    cases sign <;> simp [UnpackedFloat.compare] at notBelow
    constructor

theorem hasNoMinus_mul {first second : Float} (firstUnsigned : HasNoMinus first)
    (secondUnsigned : HasNoMinus second) : HasNoMinus (first * second) :=
  isUnsigned_packed (isUnsigned_mul firstUnsigned secondUnsigned)

theorem hasNoMinus_div {first second : Float} (firstUnsigned : HasNoMinus first)
    (secondUnsigned : HasNoMinus second) : HasNoMinus (first / second) :=
  isUnsigned_packed (isUnsigned_div firstUnsigned secondUnsigned)

theorem hasNoMinus_ofScientific (number : Nat) (isNegative : Bool) (exponent : Nat) :
    HasNoMinus (Float.ofScientific number isNegative exponent) := by
  have whole : HasNoMinus number.toUInt64.toFloat :=
    isUnsigned_packed (isUnsigned_ofInt _ (Int.natCast_nonneg _))
  have clear : ∀ place : Fin 23, @unpackSign Format.binary64
      Float.exactlyRepresentablePowersOfTen[place].toModel.toBits.toBitVec = 0#1 := by
    decide +kernel
  unfold Float.ofScientific
  split
  · rename_i small
    have power := isUnsigned_unpack (clear ⟨exponent, Nat.lt_succ_of_le small.2⟩)
    dsimp only
    split
    · exact hasNoMinus_div whole power
    · exact hasNoMinus_mul whole power
  · exact isUnsigned_packed (isUnsigned_ofScientific number _)

theorem hasNoMinus_ofNat (number : Nat) : HasNoMinus (Float.ofNat number) :=
  hasNoMinus_ofScientific number false 0

theorem hasNoMinus_ofInt {number : Int} (nonnegative : 0 ≤ number) :
    HasNoMinus (Float.ofInt number) := by
  obtain ⟨count, rfl⟩ := Int.eq_ofNat_of_zero_le nonnegative
  exact hasNoMinus_ofNat count

end SeriesChart
