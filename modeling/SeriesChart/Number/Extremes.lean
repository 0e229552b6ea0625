/-
This file finds the extremes of numbers. Of numbers that are worth the same the first one
is taken; as soon as one of them is no number at all, neither is the result.
-/

import SeriesChart.Number.Scalar

namespace SeriesChart

/-- The smallest of some numbers; if one of them is no number, neither is the result. -/
def smallest {Number : Type} [Scalar Number] (first : Number) (rest : List Number) : Number :=
  ((first :: rest).find? Scalar.isUndefined).getD (rest.foldl Scalar.least first)

/-- The largest of some numbers; if one of them is no number, neither is the result. -/
def largest {Number : Type} [Scalar Number] (first : Number) (rest : List Number) : Number :=
  ((first :: rest).find? Scalar.isUndefined).getD (rest.foldl Scalar.greatest first)

end SeriesChart
