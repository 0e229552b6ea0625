/-
This file holds plots: a part of the data space and the area that shows it. Times run from
the left edge of the area to the right, values from the bottom edge to the top; an extent
of no length is shown in the middle. The point nearest to a position on the screen is
found by the place where it is shown.
-/

import SeriesChart.Number.Hypotenuse
import SeriesChart.Plot.Area
import SeriesChart.Plot.Extent

namespace SeriesChart

/-! ### Scales -/

/-- A part of the data space and the area that shows it. -/
structure Plot (Number : Type) where
  extent : Extent Number
  area : PlotArea Number

namespace Plot

section Scales

variable {Number : Type} [Scalar Number]

/-- The column of a time. -/
def columnOf (plot : Plot Number) (timestamp : Number) : Number :=
  let extent := plot.extent
  if extent.isFlatX then plot.area.centerX
  else plot.area.left +
    plot.area.width * (timestamp - extent.minX) / (extent.maxX - extent.minX)

/-- The row of a value. -/
def rowOf (plot : Plot Number) (value : Number) : Number :=
  let extent := plot.extent
  if extent.isFlatY then plot.area.centerY
  else plot.area.bottom -
    plot.area.height * (value - extent.minY) / (extent.maxY - extent.minY)

/-- The columns of times. Whether the extent has a length is settled once for all of them. -/
def columnsOf (plot : Plot Number) (timestamps : List Number) : List Number :=
  let extent := plot.extent
  if extent.isFlatX then List.replicate timestamps.length plot.area.centerX
  else timestamps.map fun timestamp => plot.area.left +
    plot.area.width * (timestamp - extent.minX) / (extent.maxX - extent.minX)

/-- The rows of values. -/
def rowsOf (plot : Plot Number) (values : List Number) : List Number :=
  let extent := plot.extent
  if extent.isFlatY then List.replicate values.length plot.area.centerY
  else values.map fun value => plot.area.bottom -
    plot.area.height * (value - extent.minY) / (extent.maxY - extent.minY)

@[simp] theorem length_columnsOf (plot : Plot Number) (timestamps : List Number) :
    (plot.columnsOf timestamps).length = timestamps.length := by
  simp only [columnsOf]; split <;> simp

@[simp] theorem length_rowsOf (plot : Plot Number) (values : List Number) :
    (plot.rowsOf values).length = values.length := by
  simp only [rowsOf]; split <;> simp

/-- The plot that shows points, given as pairs, in an area. -/
def ofPoints (points : List (Number × Number)) (area : PlotArea Number) (headroom : Number) :
    Option (Plot Number) :=
  (Extent.ofPoints points headroom).map fun extent => ⟨extent, area⟩

end Scales

/-! ### Series -/

/-- The plot that shows a series in an area; none without points. -/
def ofSeries? (series : Series) (area : PlotArea Float)
    (headroom : Float := Extent.standardHeadroom) : Option (Plot Float) :=
  ofPoints series.pairs area headroom

/-- The places of the points of a series, in order. -/
def places (plot : Plot Float) (series : Series) : List (Float × Float) :=
  (plot.columnsOf series.timestamps).zip (plot.rowsOf series.values)

@[simp] theorem length_places (plot : Plot Float) (series : Series) :
    (plot.places series).length = series.length := by
  simp [places, Series.timestamps, Series.values, Series.length]

/-! ### Scales of given values -/

/-- The column of a time that is given by any value that reads as a float. It is not looked at when
the times have no extent. -/
def columnAt (plot : Plot Float) (timestamp : Value) : Except Fault Float :=
  if plot.extent.isFlatX then .ok plot.area.centerX
  else timestamp.toFloat.map plot.columnOf

/-- The row of a value that is given by any value that reads as a float. It is not looked at when
the values have no extent. -/
def rowAt (plot : Plot Float) (value : Value) : Except Fault Float :=
  if plot.extent.isFlatY then .ok plot.area.centerY
  else value.toFloat.map plot.rowOf

/-! ### The nearest point -/

/-- The index of the first least number of a list, given the least one before it. What is no number
counts as least of all. -/
def leastFrom (least : Float) (leastIndex index : Nat) : List Float → Float × Nat
  | [] => (least, leastIndex)
  | distance :: rest =>
    if least.isNaN then (least, leastIndex)
    else if distance.isNaN || distance < least then leastFrom distance index (index + 1) rest
    else leastFrom least leastIndex (index + 1) rest

/-- The index of the nearest of some distances, if it is nearer than the limit. -/
def nearestOf (limit : Float) : List Float → Option Nat
  | [] => none
  | first :: rest =>
    let (distance, index) := leastFrom first 0 1 rest
    if distance < limit then some index else none

/-- The distances from a position to the places of a series. -/
def distances (plot : Plot Float) (series : Series) (x y : Float) : List Float :=
  (plot.places series).map fun place => hypotenuse (place.1 - x) (place.2 - y)

/-- The index of the point nearest to a position, if it is strictly nearer than the limit. Of points
at one distance the first counts. -/
def nearestIndex (plot : Plot Float) (series : Series) (x y limit : Float) : Option Nat :=
  nearestOf limit (plot.distances series x y)

/-- The same for a position and a limit that are given by any values that read as floats. They are
not looked at when there is no point. -/
def nearestIndexAt (plot : Plot Float) (series : Series) (x y limit : Value) :
    Except Fault (Option Nat) :=
  if series.isEmpty then .ok none
  else do
    let x ← x.toFloat
    let y ← y.toFloat
    return plot.nearestIndex series x y (← limit.toLimit)

end Plot

end SeriesChart
