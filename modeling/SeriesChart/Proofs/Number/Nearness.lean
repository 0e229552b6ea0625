/-
This file proves how close the four operations on floats come to the numbers that they
stand in for. A result that has room among the floats is less than one last place away
from the exact one. The mantissa is followed through its shifts together with the exact
number: it stays the whole part, and its two bits tell whether anything is left over.
-/

import SeriesChart.Proofs.Number.Worth

namespace SeriesChart

open Float.Model UnpackedFloat

/-! ### Mantissas with two bits more -/

/-- The mantissa is the whole part of a number, and its bits are clear just when nothing is left
over. -/
structure StandsFor (extended : ExtendedMantissa) (exact : ℚ) : Prop where
  least : (extended.mantissa : ℚ) ≤ exact
  below : exact < extended.mantissa + 1
  clear : extended.roundBit = false ∧ extended.stickyBit = false ↔ exact = extended.mantissa

/-- A shift by one place halves the number. -/
theorem StandsFor.shiftRightOne {extended : ExtendedMantissa} {exact : ℚ}
    (stands : StandsFor extended exact) : StandsFor extended.shiftRightOne (exact / 2) := by
  obtain ⟨least, below, clear⟩ := stands
  have halves : (extended.mantissa : ℚ) = 2 * (extended.mantissa / 2 : ℕ) +
      (extended.mantissa % 2 : ℕ) := by
    exact_mod_cast (Nat.div_add_mod extended.mantissa 2).symm
  have parity : (extended.mantissa % 2 : ℕ) = 0 ∨ extended.mantissa % 2 = 1 := by omega
  refine ⟨?_, ?_, ?_⟩
  · show ((extended.mantissa / 2 : ℕ) : ℚ) ≤ exact / 2
    have nonnegative : (0 : ℚ) ≤ (extended.mantissa % 2 : ℕ) := Nat.cast_nonneg _
    linarith
  · show exact / 2 < ((extended.mantissa / 2 : ℕ) : ℚ) + 1
    have small : ((extended.mantissa % 2 : ℕ) : ℚ) ≤ 1 := by
      exact_mod_cast (by omega : extended.mantissa % 2 ≤ 1)
    linarith
  · show (extended.mantissa % 2 != 0) = false ∧ (extended.roundBit || extended.stickyBit) = false ↔
      exact / 2 = ((extended.mantissa / 2 : ℕ) : ℚ)
    rw [Bool.or_eq_false_iff, clear]
    rcases parity with even | odd
    · rw [even] at halves ⊢
      push_cast at halves
      constructor
      · rintro ⟨_, equal⟩
        linarith
      · intro equal
        exact ⟨rfl, by linarith⟩
    · rw [odd] at halves ⊢
      push_cast at halves
      constructor
      · rintro ⟨impossible, _⟩
        cases impossible
      · intro equal
        linarith

/-- A shift divides the number by a power of two. -/
theorem StandsFor.shiftRight {extended : ExtendedMantissa} {exact : ℚ}
    (stands : StandsFor extended exact) (places : ℕ) :
    StandsFor (extended >>> places) (exact / 2 ^ places) := by
  induction places with
  | zero =>
    rw [pow_zero, div_one]
    exact stands
  | succ places inductionHypothesis =>
    have next := inductionHypothesis.shiftRightOne
    rw [div_div, ← pow_succ] at next
    exact next

theorem mantissa_shiftRight (extended : ExtendedMantissa) (places : ℕ) :
    (extended >>> places).mantissa = extended.mantissa / 2 ^ places := by
  induction places with
  | zero => exact (Nat.div_one _).symm
  | succ places inductionHypothesis =>
    show (extended >>> places).mantissa / 2 = _
    rw [inductionHypothesis, Nat.div_div_eq_div_mul, ← Nat.pow_succ]

theorem StandsFor.rounded {extended : ExtendedMantissa} {exact : ℚ}
    (stands : StandsFor extended exact) :
    (extended.mantissa ≤ extended.roundedMantissa ∧
      extended.roundedMantissa ≤ extended.mantissa + 1) ∧
      |(extended.roundedMantissa : ℚ) - exact| < 1 := by
  obtain ⟨least, below, clear⟩ := stands
  obtain ⟨mantissa, roundBit, stickyBit⟩ := extended
  -- With clear bits the mantissa is the number; otherwise the number lies above the mantissa.
  have kept (rounded : ℕ) (same : rounded = mantissa) :
      (mantissa ≤ rounded ∧ rounded ≤ mantissa + 1) ∧ |(rounded : ℚ) - exact| < 1 := by
    subst same
    dsimp only at least below
    exact ⟨⟨le_refl _, Nat.le_succ _⟩, abs_lt.mpr ⟨by linarith, by linarith⟩⟩
  have raised (rounded : ℕ) (same : rounded = mantissa + 1)
      (notClear : ¬(roundBit = false ∧ stickyBit = false)) :
      (mantissa ≤ rounded ∧ rounded ≤ mantissa + 1) ∧ |(rounded : ℚ) - exact| < 1 := by
    subst same
    have above : (mantissa : ℚ) < exact := lt_of_le_of_ne least fun same =>
      notClear (clear.mpr same.symm)
    refine ⟨⟨Nat.le_succ _, le_refl _⟩, abs_lt.mpr ⟨?_, ?_⟩⟩ <;> push_cast <;>
      dsimp only at below <;> linarith
  cases roundBit <;> cases stickyBit
  · exact kept _ rfl
  · exact kept _ rfl
  · show (mantissa ≤ mantissa + mantissa % 2 ∧ mantissa + mantissa % 2 ≤ mantissa + 1) ∧
      |((mantissa + mantissa % 2 : ℕ) : ℚ) - exact| < 1
    rcases Nat.mod_two_eq_zero_or_one mantissa with even | odd
    · exact kept _ (by rw [even, Nat.add_zero])
    · exact raised _ (by rw [odd]) (by simp)
  · exact raised _ rfl (by simp)

/-- The accuracy tells where a number lies whose whole part is the mantissa. -/
structure IsAccurate (mantissa : ℕ) (accuracy : Accuracy) (exact : ℚ) : Prop where
  least : (mantissa : ℚ) ≤ exact
  below : exact < mantissa + 1
  clear : accuracy = .exact ↔ exact = mantissa

theorem isAccurate_exact (mantissa : ℕ) : IsAccurate mantissa .exact mantissa :=
  ⟨le_refl _, lt_add_one _, iff_of_true rfl rfl⟩

theorem IsAccurate.standsFor {mantissa : ℕ} {accuracy : Accuracy} {exact : ℚ}
    (accurate : IsAccurate mantissa accuracy exact) :
    StandsFor (ExtendedMantissa.ofMantissaAndAccuracy mantissa accuracy) exact := by
  obtain ⟨least, below, clear⟩ := accurate
  cases accuracy with
  | exact => exact ⟨least, below, iff_of_true ⟨rfl, rfl⟩ (clear.mp rfl)⟩
  | inexact order =>
    have apart : ¬exact = mantissa := fun same => by cases clear.mpr same
    cases order <;>
      exact ⟨least, below,
        iff_of_false (by simp [ExtendedMantissa.ofMantissaAndAccuracy]) apart⟩

/-! ### Near parts -/

section Formats

variable {format : Format}

/-- Numbers of this size have room among the floats. -/
def roomOf (format : Format) : ℤ := format.exponentBias - 1

/-- Numbers of this size and smaller ones have the least last place. -/
def smallOf (format : Format) : ℤ := 1 - format.exponentBias

/-- The magnitude of the number is a mantissa that fits its places times a power of two that is not
too small. Whether it is too large does not matter here. -/
def IsRepresentable (format : Format) (number : ℚ) : Prop :=
  ∃ (mantissa : ℕ) (exponent : ℤ), mantissa < 2 ^ (fractionBits format + 1) ∧
    format.minExponent ≤ exponent ∧ |number| = mantissa * 2 ^ exponent

theorem isRepresentable_zero : IsRepresentable format 0 :=
  ⟨0, format.minExponent, Nat.two_pow_pos _, le_refl _, by simp⟩

theorem isRepresentable_two_zpow {size : ℤ} (least : format.minExponent ≤ size) :
    IsRepresentable format (2 ^ size) :=
  ⟨1, size, Nat.one_lt_two_pow (Nat.succ_ne_zero _), least,
    by rw [abs_of_pos (two_zpow_pos size), Nat.cast_one, one_mul]⟩

theorem isRepresentable_natCast (whole : format.minExponent ≤ 0) {number : ℕ}
    (small : number < 2 ^ (fractionBits format + 1)) : IsRepresentable format number :=
  ⟨number, 0, small, whole, by rw [zpow_zero, mul_one, Nat.abs_cast]⟩

/-- What parts in lowest form are worth can be represented. -/
theorem isRepresentable_parts {parts : UnpackedFloat} (lowest : IsLowest format parts) :
    IsRepresentable format (partsWorth parts) := by
  cases lowest with
  | notANumber | infinity | zero => exact isRepresentable_zero
  | finite sign mantissa exponent positive fits least filled =>
    exact ⟨mantissa, exponent, fits, least, abs_worth_finite sign mantissa exponent positive⟩

/-- The parts are as near to a number as their size allows. Nothing that can be represented lies
between the number and the parts, and if the number is at most a power of two, they are less than a
last place of that size apart. The parts have room unless the number is too large. -/
structure IsNearParts (format : Format) (parts : UnpackedFloat) (exact : ℚ) : Prop where
  lowest : IsLowest format parts
  finite : parts.isFinite = true
  room : 0 < format.exponentBias → |exact| ≤ 2 ^ roomOf format → HasRoom format parts
  le : ∀ bound, IsRepresentable format bound → exact ≤ bound → partsWorth parts ≤ bound
  ge : ∀ bound, IsRepresentable format bound → bound ≤ exact → bound ≤ partsWorth parts
  near : ∀ size : ℤ, smallOf format ≤ size → |exact| ≤ 2 ^ size →
    |partsWorth parts - exact| < 2 ^ (size - fractionBits format)

/-- What is in lowest form is near to what it is worth. -/
theorem isNearParts_self {parts : UnpackedFloat} (lowest : IsLowest format parts)
    (room : HasRoom format parts) (finite : parts.isFinite = true) :
    IsNearParts format parts (partsWorth parts) := by
  refine ⟨lowest, finite, fun _ _ => room, fun _ _ => id, fun _ _ => id, fun size _ _ => ?_⟩
  rw [sub_self, abs_zero]
  exact two_zpow_pos _

theorem targetExponent_eq (format : Format) (mantissa : ℕ) (exponent : ℤ) :
    format.targetExponent (totalExponent mantissa exponent) =
      max (mantissa.log2 + exponent - fractionBits format) format.minExponent := by
  have bits : format.mantissaBits = 1 + fractionBits format := rfl
  show max (((mantissa.log2 : ℤ) + 1 + exponent) - format.mantissaBits) format.minExponent = _
  rw [bits]
  omega

/-! ### Rounding -/

/-- The parts of a mantissa, which may be zero. -/
def partsOf (sign : Sign) (mantissa : ℕ) (exponent : ℤ) : UnpackedFloat :=
  if nonzero : mantissa = 0 then .zero sign
  else .finite sign mantissa exponent (Nat.pos_of_ne_zero nonzero)

theorem partsOf_spec (sign : Sign) {mantissa : ℕ} {exponent : ℤ}
    (fits : mantissa < 2 ^ (fractionBits format + 1)) (least : format.minExponent ≤ exponent)
    (filled : 2 ^ fractionBits format ≤ mantissa ∨ exponent = format.minExponent) :
    IsLowest format (partsOf sign mantissa exponent) ∧
      (partsOf sign mantissa exponent).isFinite = true ∧
      (exponent ≤ largestExponent format → HasRoom format (partsOf sign mantissa exponent)) ∧
      partsWorth (partsOf sign mantissa exponent) =
        signFactor sign * (mantissa * 2 ^ exponent) := by
  unfold partsOf
  split
  · rename_i zero
    rw [partsWorth_zero, zero]
    exact ⟨.zero sign, rfl, fun _ => trivial, by simp⟩
  · exact ⟨.finite sign mantissa exponent _ fits least filled, rfl, id, rfl⟩

/-- The parts of a mantissa that was rounded. It may have been carried into one more place. -/
def carried (format : Format) (sign : Sign) (mantissa : ℕ) (exponent : ℤ) : UnpackedFloat :=
  let shifted := shiftToTargetExponent format mantissa exponent .exact
  partsOf sign shifted.1.mantissa shifted.2

/-- A mantissa that fits its places stays. -/
theorem carried_of_lt (sign : Sign) {mantissa : ℕ} {exponent : ℤ}
    (small : mantissa < 2 ^ (fractionBits format + 1)) (least : format.minExponent ≤ exponent) :
    carried format sign mantissa exponent = partsOf sign mantissa exponent := by
  have log : mantissa.log2 ≤ fractionBits format := by
    by_cases zero : mantissa = 0
    · rw [zero, Nat.log2_zero]
      exact Nat.zero_le _
    · have := (Nat.log2_lt zero).mpr small
      omega
  have none : (format.targetExponent (totalExponent mantissa exponent) -
      exponent).toNat = 0 := by
    rw [targetExponent_eq]
    omega
  have stays : shiftToTargetExponent format mantissa exponent .exact =
      (⟨mantissa, false, false⟩, exponent) := by
    simp only [shiftToTargetExponent, shiftToExponent, none]
    exact Prod.ext rfl (Int.add_zero exponent)
  unfold carried
  rw [stays]

/-- A mantissa that just does not fit its places is halved. -/
theorem carried_two_pow (sign : Sign) {exponent : ℤ} (least : format.minExponent ≤ exponent) :
    carried format sign (2 ^ (fractionBits format + 1)) exponent =
      partsOf sign (2 ^ fractionBits format) (exponent + 1) := by
  have one : (format.targetExponent (totalExponent (2 ^ (fractionBits format + 1)) exponent) -
      exponent).toNat = 1 := by
    rw [targetExponent_eq, Nat.log2_two_pow]
    omega
  have halved : shiftToTargetExponent format (2 ^ (fractionBits format + 1)) exponent .exact =
      (⟨2 ^ fractionBits format, false, false⟩, exponent + 1) := by
    have even : 2 ^ (fractionBits format + 1) % 2 = 0 := by omega
    have half : 2 ^ (fractionBits format + 1) / 2 = 2 ^ fractionBits format := by omega
    simp only [shiftToTargetExponent, shiftToExponent, one]
    show ((⟨2 ^ (fractionBits format + 1) / 2, 2 ^ (fractionBits format + 1) % 2 != 0, false⟩ :
      ExtendedMantissa), exponent + 1) = _
    rw [even, half]
    rfl
  unfold carried
  rw [halved]

/-- Carrying changes nothing of what the parts are worth. -/
theorem carried_spec (sign : Sign) {mantissa : ℕ} {exponent : ℤ}
    (fits : mantissa ≤ 2 ^ (fractionBits format + 1)) (least : format.minExponent ≤ exponent)
    (filled : 2 ^ fractionBits format ≤ mantissa ∨ exponent = format.minExponent) :
    IsLowest format (carried format sign mantissa exponent) ∧
      (carried format sign mantissa exponent).isFinite = true ∧
      (exponent < largestExponent format →
        HasRoom format (carried format sign mantissa exponent)) ∧
      partsWorth (carried format sign mantissa exponent) =
        signFactor sign * (mantissa * 2 ^ exponent) := by
  rcases Nat.lt_or_eq_of_le fits with small | rfl
  · obtain ⟨lowest, finite, room, equal⟩ := partsOf_spec sign small least filled
    rw [carried_of_lt sign small least]
    exact ⟨lowest, finite, fun below => room below.le, equal⟩
  · have same : (((2 ^ fractionBits format : ℕ) : ℚ) * 2 ^ (exponent + 1)) =
        ((2 ^ (fractionBits format + 1) : ℕ) : ℚ) * 2 ^ exponent := by
      rw [two_zpow_add]
      push_cast
      ring
    obtain ⟨lowest, finite, room, equal⟩ := partsOf_spec sign (Nat.pow_lt_pow_succ Nat.one_lt_two)
      (show format.minExponent ≤ exponent + 1 by omega) (Or.inl (le_refl _))
    rw [carried_two_pow sign least, ← same]
    exact ⟨lowest, finite, fun below => room below, equal⟩

section Places

variable {mantissa : ℕ} {exponent : ℤ} {accuracy : Accuracy} {exact : ℚ} {places : ℕ}
  {extended : ExtendedMantissa}

/-- A mantissa that is shifted far enough fits, also when it is rounded. -/
theorem rounded_le (format : Format) (stands : StandsFor extended (exact / 2 ^ places))
    (below : exact < mantissa + 1) (enough : mantissa.log2 ≤ fractionBits format + places) :
    extended.roundedMantissa ≤ 2 ^ (fractionBits format + 1) := by
  have bits : mantissa + 1 ≤ 2 ^ (fractionBits format + 1 + places) :=
    Nat.lt_log2_self.trans_le (Nat.pow_le_pow_right (by decide) (by omega))
  have quotient : exact / 2 ^ places < 2 ^ (fractionBits format + 1) := by
    rw [div_lt_iff₀ (by positivity), ← pow_add]
    exact below.trans_le (by exact_mod_cast bits)
  have floor : extended.mantissa < 2 ^ (fractionBits format + 1) := by
    exact_mod_cast stands.least.trans_lt quotient
  have rounded := stands.rounded.1
  omega

/-- A mantissa that is not shifted too far keeps its first bit. -/
theorem le_quotient (least : mantissa ≤ exact)
    (kept : mantissa.log2 = fractionBits format + places) :
    2 ^ fractionBits format ≤ exact / 2 ^ places := by
  have nonzero : mantissa ≠ 0 := by
    rintro rfl
    rw [Nat.log2_zero] at kept
    have := fractionBits_pos format
    omega
  have bits : 2 ^ (fractionBits format + places) ≤ mantissa := by
    rw [← kept]
    exact Nat.log2_self_le nonzero
  rw [le_div_iff₀ (by positivity), ← pow_add]
  exact le_trans (by exact_mod_cast bits) least

/-- The exponent of the first bit is at most that of the number. -/
theorem log_le (nonzero : mantissa ≠ 0) {size : ℤ} (least : mantissa ≤ exact)
    (sized : exact * 2 ^ exponent ≤ 2 ^ size) : mantissa.log2 + exponent ≤ size := by
  have bits : (2 ^ mantissa.log2 : ℚ) ≤ exact :=
    le_trans (by exact_mod_cast Nat.log2_self_le nonzero) least
  have powers : (2 : ℚ) ^ ((mantissa.log2 : ℤ) + exponent) ≤ 2 ^ size := by
    rw [two_zpow_add, zpow_natCast]
    exact (mul_le_mul_of_nonneg_right bits (two_zpow_pos exponent).le).trans sized
  exact (zpow_le_zpow_iff_right₀ (by norm_num)).mp powers

/-- A mantissa was rounded to a last place: it fits, it is less than that place away from the
number, and the place is as small as it can be. -/
structure IsRounded (format : Format) (rounded : ℕ) (place : ℤ) (magnitude : ℚ) : Prop where
  fits : rounded ≤ 2 ^ (fractionBits format + 1)
  least : format.minExponent ≤ place
  filled : 2 ^ fractionBits format * 2 ^ place ≤ magnitude ∨ place = format.minExponent
  near : |rounded * 2 ^ place - magnitude| < 2 ^ place
  sized : ∀ size : ℤ, smallOf format ≤ size → magnitude ≤ 2 ^ size →
    place ≤ size - fractionBits format

/-- A mantissa that does not lack places is brought to its last place and rounded there. -/
theorem roundWithAccuracy_eq (sign : Sign) (accurate : IsAccurate mantissa accuracy exact)
    (enough : fractionBits format ≤ mantissa.log2 ∨ exponent ≤ format.minExponent) :
    ∃ rounded place,
      roundWithAccuracy format sign mantissa exponent accuracy =
        carried format sign rounded place ∧
      IsRounded format rounded place (exact * 2 ^ exponent) := by
  obtain ⟨places, shifted⟩ : ∃ places : ℕ, (places : ℤ) =
      format.targetExponent (totalExponent mantissa exponent) - exponent := by
    refine Int.eq_ofNat_of_zero_le ?_ |>.imp fun _ => Eq.symm
    rw [targetExponent_eq]
    omega
  have place : exponent + places =
      max (mantissa.log2 + exponent - fractionBits format) format.minExponent := by
    rw [← targetExponent_eq]
    omega
  have stands := accurate.standsFor.shiftRight places
  set extended := ExtendedMantissa.ofMantissaAndAccuracy mantissa accuracy >>> places with known
  have magnitude : exact * 2 ^ exponent = exact / 2 ^ places * 2 ^ (exponent + places) := by
    rw [two_zpow_add, zpow_natCast]
    field_simp
  refine ⟨extended.roundedMantissa, exponent + places, ?_, ?_, ?_, ?_, ?_, ?_⟩
  · have first : shiftToTargetExponent format mantissa exponent accuracy =
        (extended, exponent + places) := by
      simp only [shiftToTargetExponent, shiftToExponent, ← shifted, Int.toNat_natCast, known]
    unfold roundWithAccuracy
    rw [first]
    rfl
  · exact rounded_le format stands accurate.below (by omega)
  · omega
  · by_cases last : exponent + places = format.minExponent
    · exact Or.inr last
    · rw [magnitude]
      exact Or.inl (mul_le_mul_of_nonneg_right (le_quotient accurate.least (by omega))
        (two_zpow_pos _).le)
  · rw [magnitude, ← sub_mul, abs_mul, abs_of_pos (two_zpow_pos _)]
    exact (mul_lt_mul_of_pos_right stands.rounded.2 (two_zpow_pos _)).trans_eq (one_mul _)
  · intro size least sized
    unfold smallOf at least
    have first := minExponent_eq format
    have bits := fractionBits_pos format
    by_cases zero : mantissa = 0
    · have none : mantissa.log2 = 0 := by rw [zero, Nat.log2_zero]
      omega
    · have := log_le zero accurate.least sized
      omega

end Places

namespace IsRounded

variable {rounded : ℕ} {place : ℤ} {magnitude : ℚ}
  (isRounded : IsRounded format rounded place magnitude)

include isRounded

/-- No multiple of the last place lies between the number and what it was rounded to. -/
theorem le_multiple (whole : ℤ) (above : magnitude ≤ whole * 2 ^ place) :
    (rounded : ℤ) ≤ whole := by
  have positive := two_zpow_pos place
  have apart := (abs_lt.mp isRounded.near).2
  have below : (rounded : ℚ) * 2 ^ place < (whole + 1) * 2 ^ place := by linarith
  have next : (rounded : ℚ) < whole + 1 := lt_of_mul_lt_mul_right below positive.le
  exact Int.lt_add_one_iff.mp (by exact_mod_cast next)

theorem multiple_le (whole : ℤ) (below : whole * 2 ^ place ≤ magnitude) : whole ≤ rounded := by
  have positive := two_zpow_pos place
  have apart := (abs_lt.mp isRounded.near).1
  have above : (whole - 1 : ℚ) * 2 ^ place < rounded * 2 ^ place := by linarith
  have next : (whole - 1 : ℚ) < rounded := lt_of_mul_lt_mul_right above positive.le
  have ordered : whole - 1 < rounded := by exact_mod_cast next
  omega

theorem filled_rounded : 2 ^ fractionBits format ≤ rounded ∨ place = format.minExponent := by
  refine isRounded.filled.imp_left fun filled => ?_
  have ordered := isRounded.multiple_le (2 ^ fractionBits format) (by exact_mod_cast filled)
  exact_mod_cast ordered

/-- What can be represented is a multiple of the last place, or lies below the number. -/
theorem multiple_or_below {mantissa : ℕ} {exponent : ℤ}
    (fits : mantissa < 2 ^ (fractionBits format + 1)) (least : format.minExponent ≤ exponent) :
    (∃ whole : ℤ, (mantissa * 2 ^ exponent : ℚ) = whole * 2 ^ place) ∨
      (mantissa * 2 ^ exponent : ℚ) < 2 ^ fractionBits format * 2 ^ place ∧
        2 ^ fractionBits format * 2 ^ place ≤ magnitude := by
  by_cases ordered : place ≤ exponent
  · refine Or.inl ⟨mantissa * 2 ^ (exponent - place).toNat, ?_⟩
    have power : (2 : ℚ) ^ exponent = 2 ^ (exponent - place).toNat * 2 ^ place := by
      rw [← zpow_natCast, ← two_zpow_add]
      congr 1
      omega
    rw [power]
    push_cast
    ring
  · refine Or.inr ⟨?_, isRounded.filled.resolve_right (by omega)⟩
    calc (mantissa * 2 ^ exponent : ℚ)
        < 2 ^ (fractionBits format + 1) * 2 ^ exponent := by
          refine mul_lt_mul_of_pos_right ?_ (two_zpow_pos exponent)
          exact_mod_cast fits
      _ = 2 ^ fractionBits format * 2 ^ (exponent + 1) := by
          rw [two_zpow_add]
          ring
      _ ≤ 2 ^ fractionBits format * 2 ^ place :=
          mul_le_mul_of_nonneg_left (two_zpow_le (by omega)) (by norm_num)

/-- Nothing that can be represented lies between the number and what it was rounded to. -/
theorem le_bound {bound : ℚ} (representable : IsRepresentable format bound)
    (nonnegative : 0 ≤ bound) (above : magnitude ≤ bound) : rounded * 2 ^ place ≤ bound := by
  obtain ⟨mantissa, exponent, fits, least, equal⟩ := representable
  rw [abs_of_nonneg nonnegative] at equal
  rw [equal] at above ⊢
  obtain ⟨whole, multiple⟩ | ⟨below, filled⟩ := isRounded.multiple_or_below fits least
  · rw [multiple] at above ⊢
    refine mul_le_mul_of_nonneg_right ?_ (two_zpow_pos place).le
    exact_mod_cast isRounded.le_multiple whole above
  · exact absurd (below.trans_le filled) (not_lt.mpr above)

theorem bound_le {bound : ℚ} (representable : IsRepresentable format bound)
    (nonnegative : 0 ≤ bound) (below : bound ≤ magnitude) : bound ≤ rounded * 2 ^ place := by
  obtain ⟨mantissa, exponent, fits, least, equal⟩ := representable
  rw [abs_of_nonneg nonnegative] at equal
  rw [equal] at below ⊢
  obtain ⟨whole, multiple⟩ | ⟨small, filled⟩ := isRounded.multiple_or_below fits least
  · rw [multiple] at below ⊢
    refine mul_le_mul_of_nonneg_right ?_ (two_zpow_pos place).le
    exact_mod_cast isRounded.multiple_le whole below
  · have full := isRounded.multiple_le (2 ^ fractionBits format) (by exact_mod_cast filled)
    refine small.le.trans (mul_le_mul_of_nonneg_right ?_ (two_zpow_pos place).le)
    exact_mod_cast full

end IsRounded

theorem isRepresentable_neg {bound : ℚ} (representable : IsRepresentable format bound) :
    IsRepresentable format (-bound) := by
  unfold IsRepresentable
  rwa [abs_neg]

/-- What was rounded stays near when it gets a sign. -/
theorem isNearParts_carried (sign : Sign) {rounded : ℕ} {place : ℤ} {magnitude : ℚ}
    (nonnegative : 0 ≤ magnitude) (isRounded : IsRounded format rounded place magnitude) :
    IsNearParts format (carried format sign rounded place) (signFactor sign * magnitude) := by
  obtain ⟨lowest, finite, room, worths⟩ :=
    carried_spec sign isRounded.fits isRounded.least isRounded.filled_rounded
  have same : |signFactor sign * magnitude| = magnitude := by
    rw [abs_mul, abs_signFactor, one_mul, abs_of_nonneg nonnegative]
  have roundedNonnegative : (0 : ℚ) ≤ rounded * 2 ^ place :=
    mul_nonneg (Nat.cast_nonneg rounded) (two_zpow_pos place).le
  refine ⟨lowest, finite, fun wide small => room ?_, ?_, ?_, fun size least small => ?_⟩
  · rw [same] at small
    have := isRounded.sized (roomOf format) (by unfold smallOf roomOf; omega) small
    unfold roomOf at this
    unfold largestExponent
    omega
  · intro bound representable above
    rw [worths]
    cases sign with
    | positive =>
      rw [signFactor, one_mul] at above ⊢
      exact isRounded.le_bound representable (nonnegative.trans above) above
    | negative =>
      rw [signFactor, neg_one_mul] at above ⊢
      by_cases positive : 0 ≤ bound
      · linarith
      · have := isRounded.bound_le (isRepresentable_neg representable) (by linarith) (by linarith)
        linarith
  · intro bound representable below
    rw [worths]
    cases sign with
    | positive =>
      rw [signFactor, one_mul] at below ⊢
      by_cases positive : 0 ≤ bound
      · exact isRounded.bound_le representable positive below
      · linarith
    | negative =>
      rw [signFactor, neg_one_mul] at below ⊢
      have := isRounded.le_bound (isRepresentable_neg representable) (by linarith) (by linarith)
      linarith
  · rw [same] at small
    rw [worths, ← mul_sub, abs_mul, abs_signFactor, one_mul]
    exact isRounded.near.trans_le (two_zpow_le (isRounded.sized size least small))

/-- A mantissa that does not lack places is rounded to a near float. -/
theorem isNearParts_roundWithAccuracy (sign : Sign) {mantissa : ℕ} {exponent : ℤ}
    {accuracy : Accuracy} {exact : ℚ} (accurate : IsAccurate mantissa accuracy exact)
    (enough : fractionBits format ≤ mantissa.log2 ∨ exponent ≤ format.minExponent) :
    IsNearParts format (roundWithAccuracy format sign mantissa exponent accuracy)
      (signFactor sign * (exact * 2 ^ exponent)) := by
  obtain ⟨rounded, place, equal, isRounded⟩ := roundWithAccuracy_eq sign accurate enough
  have nonnegative : 0 ≤ exact * 2 ^ exponent :=
    mul_nonneg (le_trans (Nat.cast_nonneg mantissa) accurate.least) (two_zpow_pos exponent).le
  rw [equal]
  exact isNearParts_carried sign nonnegative isRounded

/-! ### The four operations on parts -/

theorem log2_shiftLeft {mantissa : ℕ} (nonzero : mantissa ≠ 0) (places : ℕ) :
    (mantissa <<< places).log2 = mantissa.log2 + places := by
  have shifted : mantissa <<< places ≠ 0 := by
    rw [Nat.shiftLeft_eq]
    positivity
  rw [Nat.log2_eq_iff shifted, Nat.shiftLeft_eq, Nat.pow_add, Nat.add_right_comm, Nat.pow_add]
  exact ⟨Nat.mul_le_mul_right _ (Nat.log2_self_le nonzero),
    Nat.mul_lt_mul_of_pos_right Nat.lt_log2_self (Nat.two_pow_pos places)⟩

theorem shiftLeft_worth (mantissa places : ℕ) (exponent : ℤ) :
    ((mantissa <<< places : ℕ) : ℚ) * 2 ^ (exponent - places) = mantissa * 2 ^ exponent := by
  have powers : (2 : ℚ) ^ exponent = 2 ^ places * 2 ^ (exponent - places) := by
    rw [← zpow_natCast, ← two_zpow_add, add_sub_cancel]
  rw [Nat.shiftLeft_eq, powers]
  push_cast
  ring

/-- A magnitude is rounded to a near float, however many places it has. -/
theorem isNearParts_round (format : Format) (sign : Sign) {mantissa : ℕ} (nonzero : mantissa ≠ 0)
    (exponent : ℤ) :
    IsNearParts format (UnpackedFloat.round format sign mantissa exponent)
      (signFactor sign * (mantissa * 2 ^ exponent)) := by
  set places := (exponent - format.targetExponent
    (totalExponent mantissa exponent)).toNat with known
  rw [targetExponent_eq] at known
  rw [← shiftLeft_worth mantissa places]
  refine isNearParts_roundWithAccuracy sign (isAccurate_exact _) ?_
  rw [log2_shiftLeft nonzero]
  omega

theorem isNearParts_normalize (format : Format) (number exponent : ℤ) (zeroSign : Sign) :
    IsNearParts format (UnpackedFloat.normalize format number exponent zeroSign)
      (number * 2 ^ exponent) := by
  unfold UnpackedFloat.normalize
  split
  · rename_i negative
    have below : number < 0 := Int.compare_eq_lt.mp negative
    have magnitude : ((-number).toNat : ℚ) = -number := by
      exact_mod_cast (by omega : ((-number).toNat : ℤ) = -number)
    have near := isNearParts_round format .negative (by omega : (-number).toNat ≠ 0) exponent
    rw [magnitude] at near
    have same : signFactor .negative * (-number * 2 ^ exponent) = (number : ℚ) * 2 ^ exponent := by
      show -1 * (-(number : ℚ) * 2 ^ exponent) = _
      ring
    rwa [same] at near
  · rename_i zero
    have none : number = 0 := Int.compare_eq_eq.mp zero
    rw [none, Int.cast_zero, zero_mul, ← partsWorth_zero zeroSign]
    exact isNearParts_self (.zero zeroSign) trivial rfl
  · rename_i positive
    have above : 0 < number := Int.compare_eq_gt.mp positive
    have magnitude : (number.toNat : ℚ) = number := by
      exact_mod_cast (by omega : (number.toNat : ℤ) = number)
    have near := isNearParts_round format .positive (by omega : number.toNat ≠ 0) exponent
    rw [magnitude] at near
    have same : signFactor .positive * (number * 2 ^ exponent) = (number : ℚ) * 2 ^ exponent :=
      one_mul _
    rwa [same] at near

section Operations

variable {first second : UnpackedFloat}

theorem signed_worth (sign : Sign) (mantissa : ℕ) {exponent least : ℤ}
    (ordered : least ≤ exponent) :
    ((sign.apply (decreaseExponent mantissa exponent least).1 : ℤ) : ℚ) * 2 ^ least =
      signFactor sign * (mantissa * 2 ^ exponent) := by
  have places : exponent - (exponent - least).toNat = least := by omega
  have shifted := shiftLeft_worth mantissa (exponent - least).toNat exponent
  rw [places] at shifted
  rw [apply_eq, mul_assoc, Int.cast_natCast, ← shifted]
  rfl

theorem isNearParts_add (lowest : IsLowest format first) (otherLowest : IsLowest format second)
    (room : HasRoom format first) (otherRoom : HasRoom format second)
    (finite : first.isFinite = true) (otherFinite : second.isFinite = true) :
    IsNearParts format (first.add format second) (partsWorth first + partsWorth second) := by
  cases lowest with
  | notANumber | infinity => cases finite
  | zero sign =>
    rw [partsWorth_zero, zero_add]
    cases otherLowest with
    | notANumber | infinity => cases otherFinite
    | zero otherSign =>
      cases sign <;> cases otherSign <;> exact isNearParts_self (.zero _) trivial rfl
    | finite otherSign other otherExponent otherPositive otherFits otherLeast otherFilled =>
      exact isNearParts_self (.finite _ _ _ _ otherFits otherLeast otherFilled) otherRoom rfl
  | finite sign mantissa exponent positive fits least filled =>
    cases otherLowest with
    | notANumber | infinity => cases otherFinite
    | zero otherSign =>
      rw [partsWorth_zero, add_zero]
      exact isNearParts_self (.finite _ _ _ _ fits least filled) room rfl
    | finite otherSign other otherExponent otherPositive =>
      have near := isNearParts_normalize format
        (sign.apply (decreaseExponent mantissa exponent (min exponent otherExponent)).1 +
          otherSign.apply (decreaseExponent other otherExponent (min exponent otherExponent)).1)
        (min exponent otherExponent) .positive
      rw [Int.cast_add, add_mul, signed_worth sign mantissa (min_le_left _ _),
        signed_worth otherSign other (min_le_right _ _)] at near
      exact near

theorem isNearParts_sub (lowest : IsLowest format first) (otherLowest : IsLowest format second)
    (room : HasRoom format first) (otherRoom : HasRoom format second)
    (finite : first.isFinite = true) (otherFinite : second.isFinite = true) :
    IsNearParts format (first.sub format second) (partsWorth first - partsWorth second) := by
  cases lowest with
  | notANumber | infinity => cases finite
  | zero sign =>
    rw [partsWorth_zero, zero_sub]
    cases otherLowest with
    | notANumber | infinity => cases otherFinite
    | zero otherSign =>
      rw [partsWorth_zero, neg_zero]
      cases sign <;> cases otherSign <;> exact isNearParts_self (.zero _) trivial rfl
    | finite otherSign other otherExponent otherPositive otherFits otherLeast otherFilled =>
      have opposite : -partsWorth (.finite otherSign other otherExponent otherPositive) =
          partsWorth (.finite (-otherSign) other otherExponent otherPositive) := by
        show -(signFactor otherSign * _) = signFactor (-otherSign) * _
        rw [signFactor_neg, neg_mul]
      rw [opposite]
      exact isNearParts_self (.finite _ _ _ _ otherFits otherLeast otherFilled) otherRoom rfl
  | finite sign mantissa exponent positive fits least filled =>
    cases otherLowest with
    | notANumber | infinity => cases otherFinite
    | zero otherSign =>
      rw [partsWorth_zero, sub_zero]
      exact isNearParts_self (.finite _ _ _ _ fits least filled) room rfl
    | finite otherSign other otherExponent otherPositive =>
      have near := isNearParts_normalize format
        (sign.apply (decreaseExponent mantissa exponent (min exponent otherExponent)).1 -
          otherSign.apply (decreaseExponent other otherExponent (min exponent otherExponent)).1)
        (min exponent otherExponent) .positive
      rw [Int.cast_sub, sub_mul, signed_worth sign mantissa (min_le_left _ _),
        signed_worth otherSign other (min_le_right _ _)] at near
      exact near

/-- A product of magnitudes is rounded to a near float if it does not lack places. -/
theorem isNearParts_product (sign otherSign : Sign) {mantissa other : ℕ}
    (exponent otherExponent : ℤ)
    (enough : fractionBits format ≤ (mantissa * other).log2 ∨
      exponent + otherExponent ≤ format.minExponent) :
    IsNearParts format (roundWithAccuracy format (sign * otherSign) (mantissa * other)
        (exponent + otherExponent) .exact)
      (signFactor sign * (mantissa * 2 ^ exponent) *
        (signFactor otherSign * (other * 2 ^ otherExponent))) := by
  have near := isNearParts_roundWithAccuracy (sign * otherSign)
    (isAccurate_exact (mantissa * other)) enough
  have same : signFactor (sign * otherSign) *
      (((mantissa * other : ℕ) : ℚ) * 2 ^ (exponent + otherExponent)) =
        signFactor sign * (mantissa * 2 ^ exponent) *
          (signFactor otherSign * (other * 2 ^ otherExponent)) := by
    rw [signFactor_mul, two_zpow_add]
    push_cast
    ring
  rwa [same] at near

theorem le_log2_mul {mantissa other : ℕ} (filled : 2 ^ fractionBits format ≤ mantissa)
    (positive : 0 < other) :
    fractionBits format ≤ (mantissa * other).log2 := by
  have nonzero : mantissa ≠ 0 := ((Nat.two_pow_pos _).trans_le filled).ne'
  refine (Nat.le_log2 (Nat.mul_ne_zero nonzero positive.ne')).mpr (filled.trans ?_)
  exact Nat.le_mul_of_pos_right mantissa positive

theorem isNearParts_mul (lowest : IsLowest format first) (otherLowest : IsLowest format second)
    (finite : first.isFinite = true) (otherFinite : second.isFinite = true) :
    IsNearParts format (first.mul format second) (partsWorth first * partsWorth second) := by
  cases lowest with
  | notANumber | infinity => cases finite
  | zero sign =>
    rw [partsWorth_zero, zero_mul]
    cases otherLowest with
    | notANumber | infinity => cases otherFinite
    | zero | finite => exact isNearParts_self (.zero _) trivial rfl
  | finite sign mantissa exponent positive fits least filled =>
    cases otherLowest with
    | notANumber | infinity => cases otherFinite
    | zero otherSign =>
      rw [partsWorth_zero, mul_zero]
      exact isNearParts_self (.zero _) trivial rfl
    | finite otherSign other otherExponent otherPositive otherFits otherLeast otherFilled =>
      refine isNearParts_product sign otherSign exponent otherExponent ?_
      rcases filled with filled | last
      · exact Or.inl (le_log2_mul filled otherPositive)
      · rcases otherFilled with otherFilled | otherLast
        · rw [Nat.mul_comm]
          exact Or.inl (le_log2_mul otherFilled positive)
        · have least := minExponent_eq format
          have bits := fractionBits_pos format
          rw [last, otherLast]
          exact Or.inr (by omega)

/-- A division of whole numbers tells where the quotient lies. -/
theorem isAccurate_div (dividend : ℕ) {divisor : ℕ} (positive : 0 < divisor) :
    IsAccurate (dividend / divisor) (accuracyOfFraction (dividend % divisor) divisor)
      ((dividend : ℚ) / divisor) := by
  have divided :
      (divisor : ℚ) * (dividend / divisor : ℕ) + (dividend % divisor : ℕ) = dividend := by
    exact_mod_cast Nat.div_add_mod dividend divisor
  have small : ((dividend % divisor : ℕ) : ℚ) < divisor := by
    exact_mod_cast Nat.mod_lt dividend positive
  have above : (0 : ℚ) < divisor := by exact_mod_cast positive
  have rest : (0 : ℚ) ≤ (dividend % divisor : ℕ) := Nat.cast_nonneg _
  refine ⟨?_, ?_, ?_⟩
  · rw [le_div_iff₀ above]
    linarith
  · rw [div_lt_iff₀ above]
    linarith
  · have clear : accuracyOfFraction (dividend % divisor) divisor = .exact ↔
        dividend % divisor = 0 := by
      unfold accuracyOfFraction
      split <;> simp [*]
    rw [clear, div_eq_iff above.ne']
    constructor
    · intro none
      rw [none, Nat.cast_zero] at divided
      linarith
    · intro equal
      have none : ((dividend % divisor : ℕ) : ℚ) = 0 := by linarith
      exact_mod_cast none

/-- A dividend is shifted far enough for the quotient not to lack places. -/
theorem enough_of_divided {mantissa other places : ℕ} {exponent otherExponent target : ℤ}
    (positive : 0 < mantissa) (otherPositive : 0 < other)
    (known : target = min (exponent - otherExponent) (format.targetExponent
      (totalExponent mantissa exponent - totalExponent other otherExponent)))
    (shift : places = (exponent - otherExponent - target).toNat) :
    fractionBits format ≤ (mantissa <<< places / other).log2 ∨ target ≤ format.minExponent := by
  have aim : format.targetExponent
      (totalExponent mantissa exponent - totalExponent other otherExponent) =
        max (mantissa.log2 + exponent - (other.log2 + otherExponent) - (fractionBits format + 1))
          format.minExponent := by
    have bits : format.mantissaBits = 1 + fractionBits format := rfl
    show max ((((mantissa.log2 : ℤ) + 1 + exponent) - (other.log2 + 1 + otherExponent)) -
      format.mantissaBits) format.minExponent = _
    rw [bits]
    omega
  rw [aim] at known
  by_cases least : target ≤ format.minExponent
  · exact Or.inr least
  · have far : fractionBits format + 1 + other.log2 ≤ mantissa.log2 + places := by omega
    refine Or.inl ?_
    have quotient : 2 ^ fractionBits format ≤ mantissa <<< places / other := by
      rw [Nat.le_div_iff_mul_le otherPositive]
      calc 2 ^ fractionBits format * other
          ≤ 2 ^ fractionBits format * 2 ^ (other.log2 + 1) :=
            Nat.mul_le_mul_left _ Nat.lt_log2_self.le
        _ = 2 ^ (fractionBits format + 1 + other.log2) := by
            rw [← Nat.pow_add]
            congr 1
            omega
        _ ≤ 2 ^ (mantissa.log2 + places) := Nat.pow_le_pow_right (by decide) far
        _ ≤ mantissa <<< places := by
            rw [Nat.shiftLeft_eq, Nat.pow_add]
            exact Nat.mul_le_mul_right _ (Nat.log2_self_le positive.ne')
    exact (Nat.le_log2 ((Nat.two_pow_pos _).trans_le quotient).ne').mpr quotient

/-- A quotient of magnitudes is rounded to a near float. -/
theorem isNearParts_quotient (sign otherSign : Sign) {mantissa other : ℕ}
    (positive : 0 < mantissa) (otherPositive : 0 < other) (exponent otherExponent : ℤ) :
    IsNearParts format (UnpackedFloat.div format (.finite sign mantissa exponent positive)
        (.finite otherSign other otherExponent otherPositive))
      (signFactor sign * (mantissa * 2 ^ exponent) /
        (signFactor otherSign * (other * 2 ^ otherExponent))) := by
  obtain ⟨target, known⟩ : ∃ target, target = min (exponent - otherExponent)
      (format.targetExponent
        (totalExponent mantissa exponent - totalExponent other otherExponent)) := ⟨_, rfl⟩
  obtain ⟨places, shift⟩ : ∃ places, places = (exponent - otherExponent - target).toNat :=
    ⟨_, rfl⟩
  have near := isNearParts_roundWithAccuracy (sign / otherSign)
    (isAccurate_div (mantissa <<< places) otherPositive)
    (enough_of_divided positive otherPositive known shift)
  have shifted := shiftLeft_worth mantissa places (exponent - otherExponent)
  rw [show exponent - otherExponent - places = target by omega] at shifted
  have quotient : ((mantissa <<< places : ℕ) : ℚ) / other * 2 ^ target =
      mantissa * 2 ^ exponent / (other * 2 ^ otherExponent) := by
    rw [div_mul_eq_mul_div, shifted, zpow_sub₀ (by norm_num), ← mul_div_assoc, div_div,
      mul_comm (other : ℚ)]
  rw [quotient, signFactor_div, div_mul_div_comm, shift, known] at near
  exact near

theorem isNearParts_div (lowest : IsLowest format first) (otherLowest : IsLowest format second)
    (finite : first.isFinite = true) (otherFinite : second.isFinite = true)
    (nonzero : partsWorth second ≠ 0) :
    IsNearParts format (first.div format second) (partsWorth first / partsWorth second) := by
  cases otherLowest with
  | notANumber | infinity => cases otherFinite
  | zero otherSign => exact absurd rfl nonzero
  | finite otherSign other otherExponent otherPositive =>
    cases lowest with
    | notANumber | infinity => cases finite
    | zero sign =>
      rw [partsWorth_zero, zero_div]
      exact isNearParts_self (.zero _) trivial rfl
    | finite sign mantissa exponent positive =>
      exact isNearParts_quotient sign otherSign positive otherPositive exponent otherExponent

end Operations

end Formats

end SeriesChart
