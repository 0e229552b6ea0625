/-
This file proves that the numbers of a host may be taken to floats before they are read
or after. What counts as false and reads as a float reads as zero, and a ratio of zero is
taken for one either way; what is no more than zero is not below it when it is above.
-/

import SeriesChart.Display.Chart
import SeriesChart.Proofs.Computation
import SeriesChart.Proofs.Number.Unsigned

namespace SeriesChart

/-! ### Zero -/

theorem ofScientific_zero (negative : Bool) (exponent : Nat) :
    Float.ofScientific 0 negative exponent = 0.0 := by
  unfold Float.ofScientific
  split
  · rename_i small
    have each : ∀ (sign : Bool) (power : Fin 23),
        Float.ofScientific 0 sign power = 0.0 := by decide
    have known := each negative ⟨exponent, Nat.lt_succ_of_le small.2⟩
    unfold Float.ofScientific at known
    rw [dif_pos small] at known
    exact known
  · rfl

theorem nearestFloat_zero (exponent : Int) : Numeral.nearestFloat 0 exponent = 0.0 :=
  ofScientific_zero _ _

namespace Value

/-- The start of time is a date, a time or the number zero. -/
theorem ofMoment_zero {moment : Calendar.Moment} (zero : moment.count = some 0) :
    ofMoment moment = .int 0 ∨ (∃ date, ofMoment moment = .date date) ∨
      ∃ time, ofMoment moment = .dateTime time := by
  unfold ofMoment
  rw [zero]
  cases moment.unit <;> simp only <;> (try split) <;> simp

/-- What counts as false and reads as a float is no more than zero. -/
theorem toFloat_of_isTrue_false {value : Value} {number : Float} (isFalse : value.isTrue = .ok false)
    (read : value.toFloat = .ok number) : number ≤ 0.0 := by
  cases value with
  | absent => cases read
  | bool flag =>
    cases isFalse
    cases read
    decide
  | int whole | word whole =>
    have zero : whole = 0 := Decidable.of_not_not (of_decide_eq_false (Except.ok.inj isFalse))
    subst zero
    cases read
    decide
  | float given | cell given =>
    cases read
    refine le_of_worth_same ?_
    simpa using Except.ok.inj isFalse
  | decimal given =>
    cases given with
    | infinite | undefined => cases isFalse
    | finite negative digits exponent =>
      have zero : digits = 0 := by simpa [Value.isTrue, Decimal.isZero] using isFalse
      subst zero
      change Except.ok (if negative then -Numeral.nearestFloat 0 exponent
        else Numeral.nearestFloat 0 exponent) = _ at read
      rw [nearestFloat_zero] at read
      cases read
      cases negative <;> decide
  | moment counted =>
    have zero : counted.count = some 0 :=
      Decidable.of_not_not (of_decide_eq_false (Except.ok.inj isFalse))
    dsimp only [toFloat] at read
    obtain whole | ⟨date, shown⟩ | ⟨time, shown⟩ := ofMoment_zero zero
    · rw [whole] at read
      cases read
      decide
    · rw [shown] at read
      cases read
    · rw [shown] at read
      cases read
  | text written =>
    have empty : written = "" :=
      Decidable.of_not_not (of_decide_eq_false (Except.ok.inj isFalse))
    subst empty
    cases read
  | bytes raw =>
    have empty : raw = [] := Decidable.of_not_not (of_decide_eq_false (Except.ok.inj isFalse))
    subst empty
    cases read
  | array grid =>
    change grid.decideBy (fun cell => !(cell == 0.0)) = _ at isFalse
    change grid.toFloat = _ at read
    obtain ⟨cell, only, zero⟩ := Grid.exists_cell_of_decideBy isFalse
    rw [Grid.eq_of_toFloat only read]
    exact le_of_worth_same (by simpa using zero)
  | _ => cases read

/-- What is known to be above zero is known not to be below it. -/
theorem isNegative_of_isAtMostZero {value : Value} (above : value.isAtMostZero = .ok false) :
    value.isNegative = .ok false := by
  cases value with
  | bool flag => rfl
  | int whole | word whole =>
    have positive := of_decide_eq_false (Except.ok.inj above)
    exact congrArg Except.ok (decide_eq_false (by omega))
  | float given | cell given =>
    have notAtMost := of_decide_eq_false (Except.ok.inj above)
    exact congrArg Except.ok (decide_eq_false fun below => notAtMost (le_of_below below))
  | decimal given =>
    obtain ⟨negative, read, either⟩ := except_bind_eq_ok above
    have neither : (given.isZero || negative) = false := Except.ok.inj either
    rw [Bool.or_eq_false_iff] at neither
    rw [← neither.2]
    exact read
  | array grid =>
    change grid.decideBy (· ≤ 0.0) = _ at above
    obtain ⟨cell, only, notAtMost⟩ := Grid.exists_cell_of_decideBy above
    show grid.decideBy (· < 0.0) = _
    unfold Grid.decideBy
    rw [only]
    exact congrArg Except.ok
      (decide_eq_false fun below => of_decide_eq_false notAtMost (le_of_below below))
  | _ => cases above

end Value

/-! ### The ratio of a host -/

namespace Seat

/-- The ratio that is used for a number. -/
theorem usableRatio_of_number {host : Host ChartId} {number ratio : Float}
    (read : host.ratio.toFloat = .ok number) (usable : usableRatio host = .ok ratio) :
    ratio = if number ≤ 0.0 then 1.0 else number := by
  obtain ⟨isGiven, truth, usable⟩ := except_bind_eq_ok usable
  cases isGiven with
  | true =>
    obtain ⟨given, givenRead, usable⟩ :=
      except_bind_eq_ok (show (host.ratio.toFloat >>= _) = _ from usable)
    rw [read] at givenRead
    cases givenRead
    cases usable
    rfl
  | false =>
    cases usable
    rw [if_neg (by decide), if_pos (Value.toFloat_of_isTrue_false truth read)]

/-- Reading the ratio before it is given to a host changes nothing. -/
theorem usableRatio_float {host other : Host ChartId} {number ratio : Float}
    (read : host.ratio.toFloat = .ok number) (usable : usableRatio host = .ok ratio)
    (given : other.ratio = .float number) : usableRatio other = .ok ratio := by
  have otherUsable : ∃ otherRatio, usableRatio other = .ok otherRatio := by
    unfold usableRatio
    rw [given]
    show ∃ otherRatio, (if !(number == 0.0) then _ else _ : Except Fault Float) = _
    split
    · exact ⟨_, rfl⟩
    · exact ⟨_, rfl⟩
  obtain ⟨otherRatio, otherUsable⟩ := otherUsable
  have otherRead : other.ratio.toFloat = .ok number := by rw [given]; rfl
  rw [otherUsable, usableRatio_of_number read usable, usableRatio_of_number otherRead otherUsable]

end Seat

end SeriesChart
