/-
This file follows whole seconds through the floats of the program. A count of seconds that belongs
to the calendar fits a float, also after it was multiplied by a million and divided again, so none
of the divisions and roundings on the way changes it.
-/

import SeriesChart.Labels
import SeriesChart.Proofs.Number.Rounding
import SeriesChart.Proofs.Number.Unsigned

namespace SeriesChart

open Calendar Float.Model

/-! ### Floats of whole numbers -/

/-- Only of zero there is more than one float. -/
theorem eq_of_worth_eq {first second : Float} (finite : first.isFinite = true)
    (otherFinite : second.isFinite = true) (same : worth first = worth second)
    (nonzero : worth second ≠ 0) : first = second := by
  have equal : (first == second) = true := (same_iff_worth finite otherFinite).mpr same
  obtain ⟨_, _, equal | ⟨_, rfl⟩ | ⟨_, rfl⟩⟩ := Float.beq_iff_ne_nan_and_eq.mp equal
  · exact equal
  · exact absurd (by decide +kernel) nonzero
  · exact absurd (by decide +kernel) nonzero

/-- A whole number that a float can be is met. -/
theorem worth_ofInt_of_isRepresentable {whole : ℤ}
    (representable : IsRepresentable Format.binary64 whole)
    (room : |(whole : ℚ)| ≤ 2 ^ roomSize) :
    (Float.ofInt whole).isFinite = true ∧ worth (Float.ofInt whole) = whole := by
  cases whole with
  | ofNat number =>
    have close := (isNear_ofNat number).isClose room
    exact ⟨close.finite, close.worth_eq representable⟩
  | negSucc number =>
    rw [Int.cast_negSucc, abs_neg] at room
    rw [Int.cast_negSucc] at representable ⊢
    have representable := isRepresentable_neg representable
    rw [neg_neg] at representable
    have close := (isNear_ofNat (number + 1)).isClose room
    show (-Float.ofNat (number + 1)).isFinite = true ∧ worth (-Float.ofNat (number + 1)) = _
    rw [isFinite_neg, worth_neg, close.worth_eq representable]
    exact ⟨close.finite, rfl⟩

/-- A float that is worth a whole number is rounded to it. -/
theorem toWhole_of_worth {number : Float} {whole : ℤ} (finite : number.isFinite = true)
    (exact : worth number = whole) (rounding : Rounding) :
    Binary.toWhole rounding number = .ok whole := by
  obtain ⟨numerator, denominator, positive, equal, rounded⟩ := exists_quotient finite
  rw [exact] at equal
  obtain rfl : whole * denominator = numerator := by exact_mod_cast equal
  have large : (denominator : ℤ) ≠ 0 := by omega
  have floor : whole * denominator / (denominator : ℤ) = whole := Int.mul_ediv_cancel _ large
  have remainder : whole * denominator % (denominator : ℤ) = 0 := Int.mul_emod_left _ _
  rw [rounded]
  unfold Rounding.quotient
  dsimp only
  rw [floor, remainder]
  cases rounding with
  | down => rfl
  | up => rfl
  | towardZero => exact congrArg Except.ok (if_neg fun both => both.2 rfl)
  | nearestEven => exact congrArg Except.ok (if_pos (by omega))

/-! ### Seconds of the calendar -/

section Seconds

variable {seconds : ℤ} (small : seconds.natAbs < 2 ^ 38)

include small

theorem abs_le_room : |(seconds : ℚ)| ≤ 2 ^ (38 : ℤ) := by
  rw [← Int.cast_abs, ← Nat.cast_natAbs]
  exact_mod_cast small.le

theorem worth_ofInt : (Float.ofInt seconds).isFinite = true ∧
    worth (Float.ofInt seconds) = seconds := by
  refine worth_ofInt_of_isRepresentable ⟨seconds.natAbs, 0, ?_, by decide, ?_⟩
    ((abs_le_room small).trans (two_zpow_le (by decide)))
  · show seconds.natAbs < 2 ^ 53
    omega
  · rw [zpow_zero, mul_one, Nat.cast_natAbs, Int.cast_abs]

/-- A million is sixty-four times a number of seven bits less, so there is room for its product. -/
theorem worth_ofInt_micros : (Float.ofInt (seconds * microsPerSecond)).isFinite = true ∧
    worth (Float.ofInt (seconds * microsPerSecond)) = seconds * 1000000 := by
  have size : |((seconds * microsPerSecond : ℤ) : ℚ)| = |(seconds : ℚ)| * 1000000 := by
    unfold microsPerSecond
    push_cast
    rw [abs_mul]
    norm_num
  have room : |(seconds : ℚ)| * 1000000 ≤ 2 ^ roomSize := by
    calc |(seconds : ℚ)| * 1000000 ≤ 2 ^ (38 : ℤ) * 1000000 :=
          mul_le_mul_of_nonneg_right (abs_le_room small) (by norm_num)
      _ ≤ 2 ^ (58 : ℤ) := by norm_num
      _ ≤ 2 ^ roomSize := two_zpow_le (by decide)
  have representable : IsRepresentable Format.binary64 (seconds * microsPerSecond : ℤ) := by
    refine ⟨seconds.natAbs * 15625, 6, ?_, by decide, ?_⟩
    · show seconds.natAbs * 15625 < 2 ^ 53
      omega
    · rw [size]
      push_cast
      rw [Nat.cast_natAbs, Int.cast_abs]
      ring
  obtain ⟨finite, exact⟩ := worth_ofInt_of_isRepresentable representable (size.trans_le room)
  refine ⟨finite, exact.trans ?_⟩
  unfold microsPerSecond
  push_cast
  rfl

/-- Microseconds that make up whole seconds become those. -/
theorem secondsOfMicros_whole :
    secondsOfMicros (seconds * microsPerSecond) = Float.ofInt seconds := by
  obtain ⟨finite, exact⟩ := worth_ofInt small
  by_cases none : seconds = 0
  · rw [none]
    decide +kernel
  · -- The magnitude is the float nearest to the microseconds with six places behind the point.
    obtain ⟨magnitude, isMagnitude⟩ :
        ∃ magnitude, Float.ofScientific (seconds * microsPerSecond).natAbs true 6 = magnitude :=
      ⟨_, rfl⟩
    have near : IsNear magnitude ((seconds * microsPerSecond).natAbs / 10 ^ 6 : ℚ) :=
      isMagnitude ▸ isNear_nearestFloat _ 6
    have divided : ((seconds * microsPerSecond).natAbs / 10 ^ 6 : ℚ) = |(seconds : ℚ)| := by
      rw [Nat.cast_natAbs, Int.cast_abs]
      unfold microsPerSecond
      push_cast
      rw [abs_mul]
      norm_num
    rw [divided] at near
    have close := near.isClose
      ((abs_abs (seconds : ℚ)).trans_le ((abs_le_room small).trans (two_zpow_le (by decide))))
    have representable : IsRepresentable Format.binary64 |(seconds : ℚ)| := by
      rw [← exact, ← worth_abs]
      exact isRepresentable_worth _
    have worthMagnitude := close.worth_eq representable
    have nonzero : worth (Float.ofInt seconds) ≠ 0 := by
      rw [exact]
      exact_mod_cast none
    unfold secondsOfMicros
    rw [isMagnitude]
    dsimp only
    split
    · rename_i negative
      unfold microsPerSecond at negative
      have below : (seconds : ℚ) < 0 := by exact_mod_cast (by omega : seconds < 0)
      refine eq_of_worth_eq ((isFinite_neg magnitude).trans close.finite) finite ?_ nonzero
      rw [worth_neg, worthMagnitude, exact, abs_of_neg below, neg_neg]
    · rename_i nonnegative
      unfold microsPerSecond at nonnegative
      have above : (0 : ℚ) ≤ seconds := by exact_mod_cast (by omega : 0 ≤ seconds)
      refine eq_of_worth_eq close.finite finite ?_ nonzero
      rw [worthMagnitude, exact, abs_of_nonneg above]

/-- The same by a division of two floats. -/
theorem div_micros_whole :
    Float.ofInt (seconds * microsPerSecond) / 1000000.0 = Float.ofInt seconds := by
  obtain ⟨finite, exact⟩ := worth_ofInt small
  obtain ⟨microsFinite, micros⟩ := worth_ofInt_micros small
  obtain ⟨millionFinite, million⟩ :
      (1000000.0 : Float).isFinite = true ∧ worth (1000000.0 : Float) = 1000000 := by
    decide +kernel
  by_cases none : seconds = 0
  · rw [none]
    decide +kernel
  · have near := isNear_div microsFinite millionFinite (by rw [million]; norm_num)
    rw [micros, million, mul_div_cancel_right₀ _ (by norm_num)] at near
    have close := near.isClose ((abs_le_room small).trans (two_zpow_le (by decide)))
    have representable : IsRepresentable Format.binary64 (seconds : ℚ) := by
      rw [← exact]
      exact isRepresentable_worth _
    refine eq_of_worth_eq close.finite finite ((close.worth_eq representable).trans exact.symm) ?_
    rw [exact]
    exact_mod_cast none

/-- Whole seconds are read back as their microseconds. -/
theorem microsOfSeconds_whole :
    microsOfSeconds (Float.ofInt seconds) = .ok (seconds * microsPerSecond) := by
  obtain ⟨finite, exact⟩ := worth_ofInt small
  have zeroFits : |(0 : ℚ)| ≤ 2 ^ roomSize := abs_zero.trans_le (two_zpow_pos _).le
  -- Nothing is left of the seconds, and a million times nothing is nothing.
  have rest := isNear_sub finite finite
  rw [sub_self] at rest
  have restClose := rest.isClose zeroFits
  have restZero := restClose.worth_eq isRepresentable_zero
  have product := isNear_mul restClose.finite
    (by decide +kernel : (1000000.0 : Float).isFinite = true)
  rw [restZero, zero_mul] at product
  have productClose := product.isClose zeroFits
  have productZero : worth ((Float.ofInt seconds - Float.ofInt seconds) * 1000000.0) = (0 : ℤ) :=
    (productClose.worth_eq isRepresentable_zero).trans Int.cast_zero.symm
  unfold microsOfSeconds
  rw [toWhole_of_worth finite exact]
  show (Binary.toWhole .nearestEven ((Float.ofInt seconds - Float.ofInt seconds) * 1000000.0) >>=
    fun micros => Except.ok (seconds * 1000000 + micros)) = _
  rw [toWhole_of_worth productClose.finite productZero]
  exact congrArg Except.ok (add_zero _)

end Seconds

end SeriesChart
