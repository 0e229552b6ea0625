/-
This file tells where one half below a float lies. The difference may be rounded, but it keeps the
order of floats that are at least one half, and below one half it is negative. A whole number that
leaves room for a half is met by no other float than the one that lies one half above it.
-/

import SeriesChart.Proofs.Number.Rounding

namespace SeriesChart

open Float.Model UnpackedFloat

/-! ### Differences -/

/-- A difference with an infinity or with what is no number is such a thing itself. -/
theorem sub_parts_of_not_isFinite {parts others : UnpackedFloat}
    (infinite : ¬(parts.isFinite = true ∧ others.isFinite = true)) :
    UnpackedFloat.sub Format.binary64 parts others = .notANumber ∨
      ∃ sign, UnpackedFloat.sub Format.binary64 parts others = .infinity sign := by
  cases parts with
  | notANumber => exact Or.inl (by cases others <;> rfl)
  | infinity sign =>
    cases others with
    | notANumber => exact Or.inl rfl
    | zero | finite => exact Or.inr ⟨sign, rfl⟩
    | infinity otherSign =>
      cases sign <;> cases otherSign <;> first | exact Or.inl rfl | exact Or.inr ⟨_, rfl⟩
  | zero | finite =>
    cases others with
    | notANumber => exact Or.inl rfl
    | infinity sign => exact Or.inr ⟨-sign, rfl⟩
    | zero | finite => exact absurd ⟨rfl, rfl⟩ infinite

/-- Both sides of a finite difference are finite. -/
theorem finite_of_sub {first second : Float} (finite : (first - second).isFinite = true) :
    first.isFinite = true ∧ second.isFinite = true := by
  change (UnpackedFloat.unpack Format.binary64 (UnpackedFloat.pack Format.binary64
    (first.toModel.unpack.sub Format.binary64 second.toModel.unpack))).isFinite = true at finite
  by_contra infinite
  obtain same | ⟨sign, same⟩ := sub_parts_of_not_isFinite infinite
  · rw [same, unpack_pack .notANumber trivial] at finite
    cases finite
  · rw [same, unpack_pack (.infinity sign) trivial] at finite
    cases finite

/-- What is finite after something was taken away was so before. -/
theorem isFinite_of_sub {first second : Float} (finite : (first - second).isFinite = true) :
    first.isFinite = true := (finite_of_sub finite).1

/-- One half is met. -/
theorem worth_half :
    (Scalar.half : Float).isFinite = true ∧ worth (Scalar.half : Float) = 1 / 2 := by
  decide +kernel

/-- One half below a number lies another one that can be represented, unless the number is whole. -/
theorem isRepresentable_sub_half {number : ℚ}
    (representable : IsRepresentable Format.binary64 number) (large : 1 / 2 ≤ number) :
    IsRepresentable Format.binary64 (number - 1 / 2) ∨ ∃ whole : ℤ, number = whole := by
  obtain ⟨mantissa, exponent, fits, least, equal⟩ := representable
  rw [abs_of_nonneg (by linarith)] at equal
  by_cases fraction : exponent < 0
  · -- One half is a number of last places, which are taken from the mantissa.
    have half : (1 / 2 : ℚ) = 2 ^ (-1 - exponent).toNat * 2 ^ exponent := by
      rw [← zpow_natCast, Int.toNat_of_nonneg (by omega), ← two_zpow_add, sub_add_cancel]
      norm_num
    have enough : 2 ^ (-1 - exponent).toNat ≤ mantissa := by
      rw [half, equal] at large
      exact_mod_cast le_of_mul_le_mul_right large (two_zpow_pos exponent)
    refine Or.inl ⟨mantissa - 2 ^ (-1 - exponent).toNat, exponent,
      (Nat.sub_le _ _).trans_lt fits, least, ?_⟩
    rw [abs_of_nonneg (by linarith), equal, half, Nat.cast_sub enough]
    push_cast
    ring
  · refine Or.inr ⟨mantissa * 2 ^ exponent.toNat, ?_⟩
    rw [equal]
    push_cast
    rw [← zpow_natCast, Int.toNat_of_nonneg (by omega)]

theorem hasNoMinus_of_half_le {number : Float} (finite : number.isFinite = true)
    (large : 1 / 2 ≤ worth number) : HasNoMinus number := by
  refine hasNoMinus_of_pos ((lt_iff_worth (by decide) finite).mpr ?_)
  rw [worth_zero]
  linarith

section Below

variable {place : Float} (finite : (place - Scalar.half).isFinite = true)

include finite

theorem isClose_sub_half : IsClose (place - Scalar.half) (worth place - 1 / 2) := by
  have near := isNear_sub (isFinite_of_sub finite) worth_half.1
  rw [worth_half.2] at near
  refine near.resolve_right fun far => ?_
  rw [isInf_of_isFinite finite] at far
  exact Bool.false_ne_true far.1

/-- One half below what is less is below zero, however small the difference. -/
theorem worth_sub_half_neg (small : worth place < 1 / 2) : worth (place - Scalar.half) < 0 := by
  have multiple : IsMultiple leastExponent (worth place - 1 / 2) := by
    rw [← worth_half.2]
    exact (isMultiple_worth place).sub (isMultiple_worth _)
  have apart := multiple.place_le (sub_neg.mpr small).ne
  rw [abs_of_neg (sub_neg.mpr small)] at apart
  have below := (isClose_sub_half finite).le (-2 ^ leastExponent)
    (isRepresentable_neg (isRepresentable_two_zpow (le_refl _))) (by linarith)
  have positive := two_zpow_pos leastExponent
  linarith

theorem half_le_of_nonneg (nonneg : 0 ≤ worth (place - Scalar.half)) : 1 / 2 ≤ worth place :=
  not_lt.mp fun small => absurd nonneg (not_le.mpr (worth_sub_half_neg finite small))

/-- The order is kept from one half upward. -/
theorem worth_sub_half_mono {other : Float} (otherFinite : (other - Scalar.half).isFinite = true)
    (large : 1 / 2 ≤ worth place) (ordered : worth place ≤ worth other) :
    worth (place - Scalar.half) ≤ worth (other - Scalar.half) := by
  have close := isClose_sub_half finite
  have otherClose := isClose_sub_half otherFinite
  obtain exact | ⟨whole, isWhole⟩ := isRepresentable_sub_half (isRepresentable_worth place) large
  · rw [close.worth_eq exact]
    exact otherClose.ge _ exact (by linarith)
  obtain exact | ⟨otherWhole, isOtherWhole⟩ :=
    isRepresentable_sub_half (isRepresentable_worth other) (large.trans ordered)
  · rw [otherClose.worth_eq exact]
    exact close.le _ exact (by linarith)
  obtain same | below := ordered.eq_or_lt
  · have isSame := (same_iff_worth (isFinite_of_sub finite) (isFinite_of_sub otherFinite)).mpr same
    rw [eq_of_worth_same (hasNoMinus_of_half_le (isFinite_of_sub finite) large)
      (hasNoMinus_of_half_le (isFinite_of_sub otherFinite) (same ▸ large)) isSame]
  · -- Whole numbers that differ are one apart, and the smaller one lies between the differences.
    have next : worth place + 1 ≤ worth other := by
      rw [isWhole, isOtherWhole] at below ⊢
      exact_mod_cast below
    have between := isRepresentable_worth place
    exact (close.le _ between (by linarith)).trans (otherClose.ge _ between (by linarith))

/-- A bound that is no less than zero and holds for a float holds for all that are below it. -/
theorem worth_sub_half_le {other : Float} (otherFinite : (other - Scalar.half).isFinite = true)
    (ordered : worth place ≤ worth other) {whole : ℕ} (met : worth (other - Scalar.half) ≤ whole) :
    worth (place - Scalar.half) ≤ whole := by
  by_cases small : worth place < 1 / 2
  · exact (worth_sub_half_neg finite small).le.trans (Nat.cast_nonneg whole)
  · exact (worth_sub_half_mono finite otherFinite (not_lt.mp small) ordered).trans met

/-- What reaches a whole number is reached by all floats above it. -/
theorem le_worth_sub_half {other : Float} (otherFinite : (other - Scalar.half).isFinite = true)
    (ordered : worth place ≤ worth other) {whole : ℕ} (met : whole ≤ worth (place - Scalar.half)) :
    whole ≤ worth (other - Scalar.half) := by
  have large := half_le_of_nonneg finite ((Nat.cast_nonneg whole).trans met)
  exact met.trans (worth_sub_half_mono finite otherFinite large ordered)

/-- A whole number that leaves room for a half is met from one half above it only. -/
theorem worth_sub_half_eq_iff {whole : ℕ} (small : whole < 2 ^ 52) :
    worth (place - Scalar.half) = whole ↔ worth place = whole + 1 / 2 := by
  have close := isClose_sub_half finite
  constructor
  · intro met
    have large := half_le_of_nonneg finite (met ▸ Nat.cast_nonneg whole)
    have exact : IsRepresentable Format.binary64 (worth place - 1 / 2) := by
      obtain exact | ⟨number, isWhole⟩ :=
        isRepresentable_sub_half (isRepresentable_worth place) large
      · exact exact
      · have positive : 0 < number := by
          rw [isWhole] at large
          exact_mod_cast (by linarith : (0 : ℚ) < number)
        by_cases few : number ≤ 2 ^ 52
        · have odd : ((2 * number - 1).toNat : ℚ) = 2 * number - 1 := by
            exact_mod_cast Int.toNat_of_nonneg (by omega : 0 ≤ 2 * number - 1)
          refine ⟨(2 * number - 1).toNat, -1, ?_, by decide, ?_⟩
          · show _ < 2 ^ 53
            omega
          · rw [abs_of_nonneg (by linarith), odd, isWhole]
            ring
        · have beyond : (2 ^ 52 + 1 : ℚ) ≤ number := by
            exact_mod_cast (by omega : 2 ^ 52 + 1 ≤ number)
          have far := close.ge (2 ^ 52 : ℕ) (isRepresentable_natCast (by decide) (by decide)) (by
            rw [isWhole]
            push_cast
            linarith)
          rw [met] at far
          exact absurd small (not_lt.mpr (by exact_mod_cast far))
    rw [close.worth_eq exact] at met
    linarith
  · intro above
    have exact : IsRepresentable Format.binary64 (worth place - 1 / 2) := by
      rw [above, add_sub_cancel_right]
      exact isRepresentable_natCast (by decide) (small.trans (by decide))
    rw [close.worth_eq exact, above, add_sub_cancel_right]

end Below

end SeriesChart
