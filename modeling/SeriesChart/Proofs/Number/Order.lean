/-
This file orders the floats. A float that is a number lies at what it is worth, or at one of
the two ends if it is infinite, and comparing such floats is comparing where they lie. What is
no number is neither below nor above anything.
-/

import SeriesChart.Proofs.Number.Worth

namespace SeriesChart

open Float.Model UnpackedFloat

/-! ### Where a float lies -/

/-- Where parts lie among all numbers and the two ends. -/
def levelOfParts : UnpackedFloat → WithBot (WithTop ℚ)
  | .infinity .negative => ⊥
  | .infinity .positive => ⊤
  | parts => ((partsWorth parts : WithTop ℚ) : WithBot (WithTop ℚ))

/-- Where a float lies. What is no number lies nowhere, and what is said of it here does not
count. -/
def level (number : Float) : WithBot (WithTop ℚ) := levelOfParts number.toModel.unpack

theorem compare_coe (first second : ℚ) :
    compare ((first : WithTop ℚ) : WithBot (WithTop ℚ)) ((second : WithTop ℚ) : WithBot _) =
      compare first second := by
  rcases lt_trichotomy first second with below | rfl | above
  · rw [compare_lt_iff_lt.mpr below, compare_lt_iff_lt, WithBot.coe_lt_coe, WithTop.coe_lt_coe]
    exact below
  · rw [compare_eq_iff_eq.mpr rfl, compare_eq_iff_eq.mpr rfl]
  · rw [compare_gt_iff_gt.mpr above, compare_gt_iff_gt]
    exact WithBot.coe_lt_coe.mpr (WithTop.coe_lt_coe.mpr above)

theorem isFinite_or_isInf {parts : UnpackedFloat} (isNumber : parts.isNaN = false) :
    parts.isFinite = true ∨ ∃ sign, parts = .infinity sign := by
  cases parts with
  | notANumber => cases isNumber
  | infinity sign => exact Or.inr ⟨sign, rfl⟩
  | zero | finite => exact Or.inl rfl

theorem levelOfParts_of_isFinite {parts : UnpackedFloat} (finite : parts.isFinite = true) :
    levelOfParts parts = ((partsWorth parts : WithTop ℚ) : WithBot (WithTop ℚ)) := by
  cases parts with
  | notANumber | infinity => cases finite
  | zero | finite => rfl

/-- Comparing parts that are numbers is comparing where they lie. -/
theorem compare_levels {format : Format} {first second : UnpackedFloat}
    (lowest : IsLowest format first) (otherLowest : IsLowest format second)
    (isNumber : first.isNaN = false) (otherIsNumber : second.isNaN = false) :
    first.compare second = some (compare (levelOfParts first) (levelOfParts second)) := by
  have bottomBelow (number : ℚ) : (⊥ : WithBot (WithTop ℚ)) < ((number : WithTop ℚ) : WithBot _) :=
    WithBot.bot_lt_coe _
  have belowTop (number : ℚ) : ((number : WithTop ℚ) : WithBot (WithTop ℚ)) < ⊤ :=
    WithBot.coe_lt_coe.mpr (WithTop.coe_lt_top number)
  have bottomBelowTop : (⊥ : WithBot (WithTop ℚ)) < ⊤ := bot_lt_top
  obtain finite | ⟨sign, rfl⟩ := isFinite_or_isInf isNumber
  · obtain otherFinite | ⟨otherSign, rfl⟩ := isFinite_or_isInf otherIsNumber
    · rw [levelOfParts_of_isFinite finite, levelOfParts_of_isFinite otherFinite, compare_coe]
      exact compare_parts lowest otherLowest finite otherFinite
    · rw [levelOfParts_of_isFinite finite]
      cases otherSign
      · rw [levelOfParts, compare_gt_iff_gt.mpr (bottomBelow _)]
        cases first <;> first | rfl | cases finite
      · rw [levelOfParts, compare_lt_iff_lt.mpr (belowTop _)]
        cases first <;> first | rfl | cases finite
  · obtain otherFinite | ⟨otherSign, rfl⟩ := isFinite_or_isInf otherIsNumber
    · rw [levelOfParts_of_isFinite otherFinite]
      cases sign
      · rw [levelOfParts, compare_lt_iff_lt.mpr (bottomBelow _)]
        cases second <;> first | rfl | cases otherFinite
      · rw [levelOfParts, compare_gt_iff_gt.mpr (belowTop _)]
        cases second <;> first | rfl | cases otherFinite
    · cases sign <;> cases otherSign
      · rw [levelOfParts, compare_eq_iff_eq.mpr rfl]
        rfl
      · rw [levelOfParts, levelOfParts, compare_lt_iff_lt.mpr bottomBelowTop]
        rfl
      · rw [levelOfParts, levelOfParts, compare_gt_iff_gt.mpr bottomBelowTop]
        rfl
      · rw [levelOfParts, compare_eq_iff_eq.mpr rfl]
        rfl

section Order

variable {first second : Float}

/-- A finite float lies at what it is worth. -/
theorem level_of_isFinite (finite : first.isFinite = true) :
    level first = ((worth first : WithTop ℚ) : WithBot (WithTop ℚ)) :=
  levelOfParts_of_isFinite finite

/-- Floats that are numbers are ordered as where they lie. -/
theorem lt_iff_level (isNumber : first.isNaN = false) (otherIsNumber : second.isNaN = false) :
    first < second ↔ level first < level second := by
  rw [lt_iff_parts, UnpackedFloat.lt,
    compare_levels (isLowest first) (isLowest second) isNumber otherIsNumber,
    ← compare_lt_iff_lt (a := level first)]
  exact beq_iff_eq.trans (Option.some_inj)

theorem le_iff_level (isNumber : first.isNaN = false) (otherIsNumber : second.isNaN = false) :
    first ≤ second ↔ level first ≤ level second := by
  rw [le_iff_parts, UnpackedFloat.le,
    compare_levels (isLowest first) (isLowest second) isNumber otherIsNumber,
    ← compare_le_iff_le (a := level first)]
  show (compare (level first) (level second)).isLE = true ↔ _
  exact Ordering.isLE_iff_ne_gt

theorem compare_notANumber (parts : UnpackedFloat) : parts.compare .notANumber = none := by
  cases parts <;> rfl

/-- What is no number is neither below nor above anything. -/
theorem isNaN_of_compare {order : Ordering}
    (compared : first.toModel.unpack.compare second.toModel.unpack = some order) :
    first.isNaN = false ∧ second.isNaN = false := by
  constructor
  · show first.toModel.unpack.isNaN = false
    cases parts : first.toModel.unpack with
    | notANumber =>
      rw [parts] at compared
      cases compared
    | _ => rfl
  · show second.toModel.unpack.isNaN = false
    cases parts : second.toModel.unpack with
    | notANumber =>
      rw [parts, compare_notANumber] at compared
      cases compared
    | _ => rfl

theorem isNaN_of_lt (below : first < second) : first.isNaN = false ∧ second.isNaN = false :=
  isNaN_of_compare (eq_of_beq (lt_iff_parts.mp below))

theorem isNaN_of_le (atMost : first ≤ second) : first.isNaN = false ∧ second.isNaN = false := by
  obtain ⟨order, compared, -⟩ := (Option.any_eq_true _ _).mp (le_iff_parts.mp atMost)
  exact isNaN_of_compare compared

end Order

/-! ### Below -/

theorem not_lt_self (number : Float) : ¬number < number := fun below => by
  obtain ⟨isNumber, -⟩ := isNaN_of_lt below
  exact lt_irrefl _ ((lt_iff_level isNumber isNumber).mp below)

section Below

variable {first second third : Float}

theorem lt_of_below_of_below (below : first < second) (next : second < third) : first < third := by
  obtain ⟨isNumber, secondIsNumber⟩ := isNaN_of_lt below
  obtain ⟨-, thirdIsNumber⟩ := isNaN_of_lt next
  rw [lt_iff_level isNumber secondIsNumber] at below
  rw [lt_iff_level secondIsNumber thirdIsNumber] at next
  exact (lt_iff_level isNumber thirdIsNumber).mpr (below.trans next)

theorem lt_of_not_below (isNumber : first.isNaN = false) (notBelow : ¬second < first)
    (below : second < third) : first < third := by
  obtain ⟨secondIsNumber, thirdIsNumber⟩ := isNaN_of_lt below
  rw [lt_iff_level secondIsNumber isNumber, not_lt] at notBelow
  rw [lt_iff_level secondIsNumber thirdIsNumber] at below
  exact (lt_iff_level isNumber thirdIsNumber).mpr (notBelow.trans_lt below)

theorem lt_of_below (isNumber : third.isNaN = false) (below : first < second)
    (notBelow : ¬third < second) : first < third := by
  obtain ⟨firstIsNumber, secondIsNumber⟩ := isNaN_of_lt below
  rw [lt_iff_level isNumber secondIsNumber, not_lt] at notBelow
  rw [lt_iff_level firstIsNumber secondIsNumber] at below
  exact (lt_iff_level firstIsNumber isNumber).mpr (below.trans_le notBelow)

end Below

end SeriesChart
