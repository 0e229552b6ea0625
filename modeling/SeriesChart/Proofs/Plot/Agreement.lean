/-
This file proves that the places of a whole series are the places of its points, computed one by
one. It also proves that no place divides by zero. Floats grow finer towards zero down to the least
of them, so two floats that are not the same never have a difference that is rounded to zero; an
infinity or what is no number leaves such a thing as the difference.
-/

import SeriesChart.Proofs.Number.HalfBelow
import SeriesChart.Proofs.Plot.Placement

namespace SeriesChart

open Float.Model UnpackedFloat

/-! ### Differences that are zero -/

/-- Only finite floats are the same as a finite one. -/
theorem isFinite_of_same {first second : Float} (finite : second.isFinite = true)
    (same : Scalar.same first second = true) : first.isFinite = true := by
  change second.toModel.unpack.isFinite = true at finite
  change first.toModel.unpack.beq second.toModel.unpack = true at same
  show first.toModel.unpack.isFinite = true
  generalize first.toModel.unpack = parts at same ⊢
  generalize second.toModel.unpack = others at finite same
  cases parts with
  | zero | finite => rfl
  | notANumber => cases same
  | infinity sign =>
    cases others with
    | notANumber | infinity => cases finite
    | zero | finite => cases sign <;> cases same

/-- A difference of finite floats that is worth nothing is one of floats that are worth the same. -/
theorem worth_eq_of_sub {first second : Float} (close : IsClose (first - second)
    (worth first - worth second)) (none : worth (first - second) = 0) :
    worth first = worth second := by
  have half := close.half_le ((isMultiple_worth first).sub (isMultiple_worth second))
  rw [none, abs_zero, mul_zero] at half
  exact sub_eq_zero.mp (abs_nonpos_iff.mp half)

/-- Floats that are not the same, infinities and what is no number included, have a difference that
is not zero. -/
theorem same_sub_zero {first second : Float} (apart : Scalar.same first second = false) :
    Scalar.same (first - second) Scalar.zero = false := by
  by_contra zero
  rw [Bool.not_eq_false] at zero
  have zeroFinite : (Scalar.zero : Float).isFinite = true := by rfl
  have zeroWorth : worth (Scalar.zero : Float) = 0 := worth_zero
  have finite := isFinite_of_same zeroFinite zero
  obtain ⟨firstFinite, secondFinite⟩ := finite_of_sub finite
  rw [same_iff_worth finite zeroFinite, zeroWorth] at zero
  obtain close | ⟨infinite, -⟩ := isNear_sub firstFinite secondFinite
  · rw [(same_iff_worth firstFinite secondFinite).mpr (worth_eq_of_sub close zero)] at apart
    cases apart
  · rw [isInf_of_isFinite finite] at infinite
    cases infinite

/-! ### Places -/

/-- A quotient, where a divisor of zero is refused. -/
def quotient? (dividend divisor : Float) : Option Float :=
  if Scalar.same divisor Scalar.zero then none else some (dividend / divisor)

theorem quotient?_sub {first second : Float} (apart : Scalar.same first second = false)
    (dividend : Float) :
    quotient? dividend (first - second) = some (dividend / (first - second)) := by
  unfold quotient?
  rw [same_sub_zero apart]
  rfl

namespace Plot

/-- The column of a time; no column at all if it takes a division by zero. -/
def columnOf? (plot : Plot Float) (timestamp : Float) : Option Float :=
  let extent := plot.extent
  if extent.isFlatX then some plot.area.centerX
  else do
    let part ← quotient? (plot.area.width * (timestamp - extent.minX)) (extent.maxX - extent.minX)
    return plot.area.left + part

/-- The row of a value; no row at all if it takes a division by zero. -/
def rowOf? (plot : Plot Float) (value : Float) : Option Float :=
  let extent := plot.extent
  if extent.isFlatY then some plot.area.centerY
  else do
    let part ← quotient? (plot.area.height * (value - extent.minY)) (extent.maxY - extent.minY)
    return plot.area.bottom - part

theorem columnOf?_eq (plot : Plot Float) (timestamp : Float) :
    plot.columnOf? timestamp = some (plot.columnOf timestamp) := by
  unfold columnOf? columnOf
  dsimp only
  cases flat : plot.extent.isFlatX with
  | true => rfl
  | false =>
    rw [if_neg Bool.false_ne_true, if_neg Bool.false_ne_true, quotient?_sub flat]
    rfl

theorem rowOf?_eq (plot : Plot Float) (value : Float) :
    plot.rowOf? value = some (plot.rowOf value) := by
  unfold rowOf? rowOf
  dsimp only
  cases flat : plot.extent.isFlatY with
  | true => rfl
  | false =>
    rw [if_neg Bool.false_ne_true, if_neg Bool.false_ne_true, quotient?_sub flat]
    rfl

/-- The places of a series are those of its points: as many, each one the very float that the point
has by itself, and none of them takes a division by zero. -/
structure PlacesEach (plot : Plot Float) (series : Series) : Prop where
  columns_length : (plot.columnsOf series.timestamps).length = series.length
  rows_length : (plot.rowsOf series.values).length = series.length
  place : ∀ (index : ℕ) (point : Point), series.points[index]? = some point →
    (plot.columnsOf series.timestamps)[index]? = some (plot.columnOf point.timestamp) ∧
      (plot.rowsOf series.values)[index]? = some (plot.rowOf point.value)
  column_exists : ∀ timestamp, plot.columnOf? timestamp = some (plot.columnOf timestamp)
  row_exists : ∀ value, plot.rowOf? value = some (plot.rowOf value)
  spanX : plot.extent.isFlatX = false → (plot.extent.maxX - plot.extent.minX == 0.0) = false
  spanY : plot.extent.isFlatY = false → (plot.extent.maxY - plot.extent.minY == 0.0) = false

/-- Every plot, whatever floats its extent and its area hold, places a series point by point and
never divides by zero. -/
theorem places_each (plot : Plot Float) (series : Series) : plot.PlacesEach series where
  columns_length := by rw [length_columnsOf, Series.length_timestamps]
  rows_length := by rw [length_rowsOf, Series.length_values]
  place index point known := by
    rw [columnsOf_eq_map, rowsOf_eq_map]
    unfold Series.timestamps Series.values
    simp only [List.getElem?_map, known, Option.map_some, and_self]
  column_exists := plot.columnOf?_eq
  row_exists := plot.rowOf?_eq
  spanX := same_sub_zero
  spanY := same_sub_zero

end Plot

end SeriesChart
