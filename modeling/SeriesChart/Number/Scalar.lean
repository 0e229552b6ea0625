/-
This file says what is asked of the numbers that positions are computed with. A chart uses
floats. The same formulas over exact fractions are what the floats stand in for, so both
are instances, and every formula of the plot is written once for any instance.
-/

import SeriesChart.Number.Binary

namespace SeriesChart

/-- Numbers that positions are computed with. -/
class Scalar (Number : Type) extends Add Number, Sub Number, Mul Number, Div Number,
    LT Number, LE Number where
  /-- Comparisons can be decided. -/
  decideLT : DecidableRel (· < · : Number → Number → Prop)
  decideLE : DecidableRel (· ≤ · : Number → Number → Prop)
  /-- Two numbers are worth the same. -/
  same : Number → Number → Bool
  /-- What is no number; no fraction is, but a float may be. -/
  isUndefined : Number → Bool
  /-- The distance from zero. -/
  magnitude : Number → Number
  ofInt : Int → Number
  /-- A number as a whole number, if it has one. -/
  toInt : Rounding → Number → Except Fault Int

attribute [reducible, instance] Scalar.decideLT Scalar.decideLE

namespace Scalar

variable {Number : Type} [Scalar Number]

/-- Zero. -/
def zero : Number := ofInt 0

/-- One half. -/
def half : Number := (ofInt 1 : Number) / ofInt 2

/-- The smaller of two numbers; the first unless the second is below it. -/
def least (first second : Number) : Number := if second < first then second else first

/-- The larger of two numbers; the first unless the second is above it. -/
def greatest (first second : Number) : Number := if first < second then second else first

end Scalar

/-! ### Floats and fractions -/

instance : Scalar Float where
  decideLT first second := inferInstanceAs (Decidable (first < second))
  decideLE first second := inferInstanceAs (Decidable (first ≤ second))
  same first second := first == second
  isUndefined := Float.isNaN
  magnitude := Float.abs
  ofInt := Float.ofInt
  toInt := Binary.toWhole

instance : Scalar Rat where
  decideLT first second := inferInstanceAs (Decidable (first < second))
  decideLE first second := inferInstanceAs (Decidable (first ≤ second))
  same first second := first = second
  isUndefined _ := false
  magnitude value := if value < 0 then -value else value
  ofInt value := value
  toInt rounding value := .ok (rounding.quotient value.num value.den)

end SeriesChart
