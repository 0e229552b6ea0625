/-
This file places the ticks of the two axes. Ticks of values divide the extent evenly; the
last of them is the upper end itself. Ticks of times are points of the series, spread
evenly over their numbers and not over time, the first and the last among them.
-/

import SeriesChart.ArrayForm
import SeriesChart.Plot.Extent

namespace SeriesChart

/-! ### Values -/

/-- How many values the axis shows. -/
def standardTickCount : Nat := 5

/-- Evenly spaced numbers from one end to the other, at least two. The step is computed once; where
it vanishes although the ends differ, the fraction of the way is taken instead. -/
def evenlySpaced {Number : Type} [Scalar Number] (start stop : Number) (count : Nat) :
    List Number :=
  let extent := stop - start
  let gaps : Number := Scalar.ofInt (count - 1)
  let step := extent / gaps
  let inner (index : Nat) : Number :=
    let position : Number := Scalar.ofInt index
    (if Scalar.same step Scalar.zero then position / gaps * extent else position * step) + start
  (List.range (count - 1)).map inner ++ [stop]

/-- The values that the axis shows. An extent without length has one. -/
def Extent.ticks {Number : Type} [Scalar Number] (extent : Extent Number) (count : Nat) :
    List Number :=
  if extent.isFlatY || count = 1 then [extent.minY]
  else evenlySpaced extent.minY extent.maxY count

/-- The values of an axis that shows so many of them. There must be one at least, and the machine
must be able to hold them. -/
def valueTicks {Number : Type} [Scalar Number] (extent : Extent Number) (count : Int) :
    Except Fault (List Number) :=
  if count ≤ 0 then .error (.invalid .tickCount)
  else if extent.isFlatY then .ok (extent.ticks count.toNat)
  else if ArrayForm.sizeLimit ≤ count.toNat then .error (.invalid .tooManyTicks)
  else (ArrayForm.check ⟨.double, [count]⟩).map fun _ => extent.ticks count.toNat

/-! ### Times -/

/-- How many times the axis shows at most. -/
def standardTickLimit : Int := 7

/-- The numbers of the points whose times the axis shows. -/
def timeTicks (length : Int) (limit : Int := standardTickLimit) : List Int :=
  let count := min limit length
  if count ≤ 0 then []
  else if count = 1 then [0]
  else (List.range count.toNat).map fun (index : Nat) => (index * (length - 1)) / (count - 1)

end SeriesChart
