/-
This file proves what computing with small numbers in single precision gives. Results are
as near to the exact ones as their size allows, so a number that can be represented is met,
and finite numbers are ordered as what they are worth. A byte becomes the number that it
counts, and the byte of a number is its whole part.
-/

import SeriesChart.Proofs.Number.Nearness

namespace SeriesChart

open Float.Model UnpackedFloat

/-! ### What a number is -/

/-- The single precision number is finite and worth so much. -/
structure IsSingle (number : Float32) (value : ℚ) : Prop where
  finite : number.isFinite = true
  worth : partsWorth number.toModel.unpack = value

/-- The single precision number is as near to a number as its size allows. -/
def IsNearSingle (number : Float32) (exact : ℚ) : Prop :=
  IsNearParts Format.binary32 number.toModel.unpack exact

theorem exists_isSingle {number : Float32} (finite : number.isFinite = true) :
    ∃ value, IsSingle number value := ⟨_, finite, rfl⟩

theorem lowest_single (number : Float32) : IsLowest Format.binary32 number.toModel.unpack :=
  lowest_unpack _

theorem hasRoom_single (number : Float32) : HasRoom Format.binary32 number.toModel.unpack :=
  hasRoom_unpack (by decide) _

/-- What can be represented is met. -/
theorem IsNearSingle.isSingle {number : Float32} {exact : ℚ} (near : IsNearSingle number exact)
    (representable : IsRepresentable Format.binary32 exact) : IsSingle number exact :=
  ⟨near.finite, le_antisymm (near.le exact representable (le_refl _))
    (near.ge exact representable (le_refl _))⟩

theorem IsSingle.isRepresentable {number : Float32} {value : ℚ} (single : IsSingle number value) :
    IsRepresentable Format.binary32 value :=
  single.worth ▸ isRepresentable_parts (lowest_single number)

theorem hasRoom_of_le {exact : ℚ} (small : |exact| ≤ 256) :
    |exact| ≤ 2 ^ roomOf Format.binary32 :=
  (small.trans_eq (by norm_num)).trans (two_zpow_le (by decide : (8 : ℤ) ≤ roomOf Format.binary32))

/-- Parts that are near to a small number stay so when they are packed. -/
theorem isNearSingle_packed {parts : UnpackedFloat} {exact : ℚ}
    (near : IsNearParts Format.binary32 parts exact)
    (small : |exact| ≤ 2 ^ roomOf Format.binary32) :
    IsNearSingle (.ofModel (.pack parts)) exact := by
  have same : (Float32.Model.pack parts).unpack = parts :=
    unpack_pack near.lowest (near.room (by decide) small)
  show IsNearParts _ (Float32.Model.pack parts).unpack exact
  rwa [same]

/-! ### The four operations -/

section Operations

variable {first second : Float32} {value other : ℚ} (single : IsSingle first value)
  (otherSingle : IsSingle second other)

include single otherSingle

theorem isNearSingle_add (small : |value + other| ≤ 2 ^ roomOf Format.binary32) :
    IsNearSingle (first + second) (value + other) := by
  have near := isNearParts_add (lowest_single first) (lowest_single second) (hasRoom_single first)
    (hasRoom_single second) single.finite otherSingle.finite
  rw [single.worth, otherSingle.worth] at near
  exact isNearSingle_packed near small

theorem isNearSingle_sub (small : |value - other| ≤ 2 ^ roomOf Format.binary32) :
    IsNearSingle (first - second) (value - other) := by
  have near := isNearParts_sub (lowest_single first) (lowest_single second) (hasRoom_single first)
    (hasRoom_single second) single.finite otherSingle.finite
  rw [single.worth, otherSingle.worth] at near
  exact isNearSingle_packed near small

theorem isNearSingle_mul (small : |value * other| ≤ 2 ^ roomOf Format.binary32) :
    IsNearSingle (first * second) (value * other) := by
  have near := isNearParts_mul (lowest_single first) (lowest_single second) single.finite
    otherSingle.finite
  rw [single.worth, otherSingle.worth] at near
  exact isNearSingle_packed near small

theorem isNearSingle_div (nonzero : other ≠ 0)
    (small : |value / other| ≤ 2 ^ roomOf Format.binary32) :
    IsNearSingle (first / second) (value / other) := by
  have near := isNearParts_div (lowest_single first) (lowest_single second) single.finite
    otherSingle.finite (otherSingle.worth.symm ▸ nonzero)
  rw [single.worth, otherSingle.worth] at near
  exact isNearSingle_packed near small

/-! ### Order -/

/-- Finite numbers are ordered as what they are worth. -/
theorem IsSingle.lt_iff : first < second ↔ value < other := by
  rw [← single.worth, ← otherSingle.worth]
  exact decide_eq_true_iff.trans (lt_parts_iff (lowest_single first) (lowest_single second)
    single.finite otherSingle.finite)

theorem IsSingle.le_iff : first ≤ second ↔ value ≤ other := by
  rw [← single.worth, ← otherSingle.worth]
  exact decide_eq_true_iff.trans (le_parts_iff (lowest_single first) (lowest_single second)
    single.finite otherSingle.finite)

theorem IsSingle.same_iff : (first == second) = true ↔ value = other := by
  rw [← single.worth, ← otherSingle.worth]
  exact beq_parts_iff (lowest_single first) (lowest_single second) single.finite otherSingle.finite

end Operations

/-- Zero times a number is never above zero, not even if that is an infinity. -/
theorem not_pos_zero_mul (number : Float32) : ¬(0.0 * number > 0.0) := by
  intro above
  have less : (0.0 : Float32).toModel.unpack.lt (0.0 * number).toModel.unpack = true :=
    decide_eq_true_iff.mp above
  have zero : (0.0 : Float32).toModel.unpack = .zero .positive := by rfl
  have product : (0.0 * number).toModel.unpack = (Float32.Model.pack
      ((UnpackedFloat.zero .positive).mul Format.binary32 number.toModel.unpack)).unpack := by
    rw [← zero]
    rfl
  rw [zero, product] at less
  generalize number.toModel.unpack = parts at less
  have lowest : IsLowest Format.binary32
      ((UnpackedFloat.zero .positive).mul Format.binary32 parts) := by
    cases parts with
    | notANumber | infinity => exact .notANumber
    | zero | finite => exact .zero _
  have room : HasRoom Format.binary32
      ((UnpackedFloat.zero .positive).mul Format.binary32 parts) := by
    cases parts <;> exact trivial
  have same : (Float32.Model.pack
      ((UnpackedFloat.zero .positive).mul Format.binary32 parts)).unpack = _ :=
    unpack_pack lowest room
  rw [same] at less
  cases parts <;> cases less

/-! ### Whole numbers -/

theorem isSingle_zero : IsSingle 0.0 0 := ⟨by rfl, by rfl⟩

theorem isSingle_one : IsSingle 1.0 1 := by
  have parts : (1.0 : Float32).toModel.unpack =
      .finite .positive (2 ^ 23) (-23) (by decide) := by rfl
  refine ⟨by rfl, ?_⟩
  rw [parts, partsWorth_positive]
  norm_num

theorem isSingle_half : IsSingle 0.5 (1 / 2) := by
  have parts : (0.5 : Float32).toModel.unpack =
      .finite .positive (2 ^ 23) (-24) (by decide) := by rfl
  refine ⟨by rfl, ?_⟩
  rw [parts, partsWorth_positive]
  norm_num

theorem isSingle_maxByte : IsSingle 255.0 255 := by
  have parts : (255.0 : Float32).toModel.unpack =
      .finite .positive (255 * 2 ^ 16) (-16) (by decide) := by rfl
  refine ⟨by rfl, ?_⟩
  rw [parts, partsWorth_positive]
  norm_num

/-- A byte becomes the number that it counts. -/
theorem isSingle_byte (byte : UInt8) : IsSingle byte.toFloat32 byte.toNat := by
  have bound := byte.toNat_lt
  have near := isNearParts_normalize Format.binary32 (byte.toNat : ℤ) 0 .positive
  rw [zpow_zero, mul_one, Int.cast_natCast] at near
  refine (isNearSingle_packed near (hasRoom_of_le ?_)).isSingle
    (isRepresentable_natCast (by decide) (bound.trans (by decide)))
  rw [Nat.abs_cast]
  exact_mod_cast bound.le

/-- The whole part of a magnitude is found by shifting its mantissa. -/
theorem roundToInt_spec (mantissa : ℕ) (exponent : ℤ) :
    ∃ whole : ℕ, roundToInt .positive mantissa exponent = whole ∧
      (whole : ℚ) ≤ mantissa * 2 ^ exponent ∧ (mantissa * 2 ^ exponent : ℚ) < whole + 1 := by
  set raised := exponent.toNat with known
  set places := (-(exponent - raised)).toNat with knownPlaces
  have stands := (isAccurate_exact (mantissa <<< raised)).standsFor.shiftRight places
  have powers : ((mantissa <<< raised : ℕ) : ℚ) / 2 ^ places = mantissa * 2 ^ exponent := by
    have exponents : exponent - raised = -(places : ℤ) := by omega
    rw [← shiftLeft_worth mantissa raised, exponents, zpow_neg, zpow_natCast, div_eq_mul_inv]
  rw [powers] at stands
  refine ⟨_, ?_, stands.least, stands.below⟩
  unfold roundToInt decreaseExponent shiftToExponent
  simp only [Int.sub_zero, Int.zero_sub, ← known, ← knownPlaces]
  rfl

/-- The byte of a number below 256 is its whole part. -/
theorem toUInt8_spec {number : Float32} {value : ℚ} (single : IsSingle number value)
    (nonnegative : 0 ≤ value) (small : value < 256) :
    (number.toUInt8.toNat : ℚ) ≤ value ∧ value < number.toUInt8.toNat + 1 := by
  obtain ⟨finite, rfl⟩ := single
  change number.toModel.unpack.isFinite = true at finite
  show (number.toModel.unpack.toUInt8.toNat : ℚ) ≤ _ ∧
    _ < (number.toModel.unpack.toUInt8.toNat : ℚ) + 1
  generalize number.toModel.unpack = parts at finite nonnegative small
  cases parts with
  | notANumber | infinity => cases finite
  | zero sign =>
    have none : (UnpackedFloat.zero sign).toUInt8.toNat = 0 := by rfl
    rw [none, partsWorth_zero]
    norm_num
  | finite sign mantissa exponent positive =>
    have above := magnitude_pos positive exponent
    cases sign with
    | negative =>
      rw [partsWorth_negative] at nonnegative
      linarith
    | positive =>
      rw [partsWorth_positive] at small ⊢
      obtain ⟨whole, rounded, least, below⟩ := roundToInt_spec mantissa exponent
      have fits : whole < 256 := by exact_mod_cast least.trans_lt small
      have byte : (UnpackedFloat.finite .positive mantissa exponent positive).toUInt8.toNat =
          whole := by
        show (UInt8.ofNatClamp (roundToInt .positive mantissa exponent).toNat).toNat = whole
        rw [rounded, Int.toNat_natCast, UInt8.toNat_ofNatClamp_of_lt fits]
      rw [byte]
      exact ⟨least, below⟩

/-! ### Floats in single precision -/

/-- Bits whose exponent is not the last one are those of a finite number. -/
theorem isFinite_ofBits {bits : UInt32} (notLast : bits.toNat / 2 ^ 23 % 2 ^ 8 ≠ 255) :
    (Float32.ofBits bits).isFinite = true := by
  have field : (@unpackExponent Format.binary32 bits.toBitVec).toNat =
      bits.toNat / 2 ^ 23 % 2 ^ 8 := by
    rw [UnpackedFloat.unpackExponent_def, BitVec.extractLsb'_toNat, Nat.shiftRight_eq_div_pow]
    rfl
  have same : (Float32.ofBits bits).toModel.unpack =
      UnpackedFloat.unpack Format.binary32 bits.toBitVec :=
    unpack_pack (lowest_unpack _) (hasRoom_unpack (by decide) _)
  show (Float32.ofBits bits).toModel.unpack.isFinite = true
  rw [same, isFinite_unpack_iff, field]
  exact notLast

/-- A significand keeps its first bit within its places when it is brought to its last place. -/
theorem shifted_lt {significand bits : ℕ} {exponent place : ℤ}
    (enough : significand.log2 + exponent + 1 ≤ place + bits) :
    significand * twoTo (exponent - place).toNat / twoTo (place - exponent).toNat < 2 ^ bits := by
  rw [Nat.div_lt_iff_lt_mul (twoTo_pos _)]
  calc significand * 2 ^ (exponent - place).toNat
      < 2 ^ (significand.log2 + 1) * 2 ^ (exponent - place).toNat :=
        Nat.mul_lt_mul_of_pos_right Nat.lt_log2_self (Nat.two_pow_pos _)
    _ = 2 ^ (significand.log2 + 1 + (exponent - place).toNat) := (Nat.pow_add ..).symm
    _ ≤ 2 ^ (bits + (place - exponent).toNat) := Nat.pow_le_pow_right (by decide) (by omega)
    _ = 2 ^ bits * 2 ^ (place - exponent).toNat := Nat.pow_add ..

/-- Small numbers are packed below the bits of infinity. -/
theorem pack_lt {significand : ℕ} {exponent : ℤ}
    (small : (significand * 2 ^ exponent : ℚ) ≤ 2 ^ roomOf Format.binary32) :
    Binary.single.pack significand exponent < 255 * 2 ^ 23 := by
  have room : roomOf Format.binary32 = 126 := rfl
  have leastPlace : Binary.single.leastExponent = -149 := rfl
  have bits : Binary.single.precision = 24 := rfl
  unfold Binary.Format.pack
  split
  · decide
  · rename_i nonzero
    have size := log_le nonzero (le_refl (significand : ℚ)) small
    obtain ⟨place, known⟩ : ∃ place, place = max
        (significand.log2 + exponent - (Binary.single.precision - 1))
        Binary.single.leastExponent := ⟨_, rfl⟩
    have raised := Rounding.quotient_le_floor_add_one .nearestEven
      (significand * twoTo (exponent - place).toNat) (twoTo (place - exponent).toNat)
    have shifted := @shifted_lt significand 24 exponent place (by omega)
    have floor : (significand : ℤ) * twoTo (exponent - place).toNat /
        twoTo (place - exponent).toNat < 2 ^ 24 := by exact_mod_cast shifted
    dsimp only
    push_cast
    rw [← known, bits]
    refine (Nat.min_le_right _ _).trans_lt ?_
    show (place - Binary.single.leastExponent).toNat * 2 ^ 23 + _ < _
    omega

/-- A float that is small enough is finite in single precision. -/
theorem isFinite_toSingle {number : Float} (finite : number.isFinite = true)
    (small : |worth number| ≤ 2 ^ roomOf Format.binary32) :
    (Binary.toSingle number).isFinite = true := by
  obtain ⟨negative, significand, exponent, parts, magnitude⟩ := ofFloat_of_isFinite finite
  rw [magnitude] at small
  have packed := pack_lt small
  unfold Binary.toSingle
  rw [parts]
  refine isFinite_ofBits ?_
  show (UInt32.ofNat ((if negative then 0x80000000 else 0) + _)).toNat / 2 ^ 23 % 2 ^ 8 ≠ 255
  rw [UInt32.toNat_ofNat']
  split <;> omega

end SeriesChart
