/-
This file computes the length of a step given across and down. The two squares are added
exactly and the root is rounded once, so the length is the float nearest to the true one.
The whole root of a number of some hundred bits suffices, with one more bit that says
whether anything is left over.
-/

import SeriesChart.Number.Binary

namespace SeriesChart

/-! ### Whole roots -/

/-- The largest number whose square is at most the given one. The root of a quarter is half the
root, up to one. -/
def wholeRoot (value : Nat) : Nat :=
  if value = 0 then 0
  else
    let doubled := 2 * wholeRoot (value / 4)
    if (doubled + 1) * (doubled + 1) ≤ value then doubled + 1 else doubled
  termination_by value

/-! ### Lengths -/

/-- The length of a step with finite coordinates. Both are written over the smaller exponent; the
sum of the squares is widened until its root has more bits than a float. -/
def finiteHypotenuse (across down : Nat) (acrossExponent downExponent : Int) : Float :=
  let exponent := min acrossExponent downExponent
  let acrossScaled := across * twoTo (acrossExponent - exponent).toNat
  let downScaled := down * twoTo (downExponent - exponent).toNat
  let sum := acrossScaled * acrossScaled + downScaled * downScaled
  if sum = 0 then 0.0
  else
    let widening := 58 - sum.log2 / 2
    let widened := sum * twoTo (2 * widening)
    let root := wholeRoot widened
    let leftOver := if root * root = widened then 0 else 1
    Binary.toDouble (2 * root + leftOver) (exponent - widening - 1)

/-- The length of a step. An infinite coordinate wins over one that is no number. -/
def hypotenuse (across down : Float) : Float :=
  match Binary.ofFloat across, Binary.ofFloat down with
  | .infinite _, _ => 1.0 / 0.0
  | _, .infinite _ => 1.0 / 0.0
  | .undefined, _ => 0.0 / 0.0
  | _, .undefined => 0.0 / 0.0
  | .finite _ acrossSignificand acrossExponent, .finite _ downSignificand downExponent =>
    finiteHypotenuse acrossSignificand downSignificand acrossExponent downExponent

end SeriesChart
