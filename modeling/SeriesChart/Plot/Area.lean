/-
This file holds the rectangle that the points of a chart are drawn in: what is left of the
canvas inside its padding. A canvas smaller than its padding leaves a rectangle without
area, never one of negative size.
-/

import SeriesChart.Number.Scalar
import SeriesChart.Value.Number

namespace SeriesChart

/-! ### Padding -/

/-- The space around the plot, in logical pixels. -/
structure Padding (Number : Type) where
  top : Number
  right : Number
  bottom : Number
  left : Number

/-- The space that a chart leaves unless it is told otherwise: room for labels below and at the
left. -/
def Padding.standard {Number : Type} [Scalar Number] : Padding Number where
  top := Scalar.ofInt 20
  right := Scalar.ofInt 20
  bottom := Scalar.ofInt 30
  left := Scalar.ofInt 50

/-! ### Areas -/

/-- A rectangle of the canvas by its top left corner and its size. -/
structure PlotArea (Number : Type) where
  left : Number
  top : Number
  width : Number
  height : Number

namespace PlotArea

variable {Number : Type} [Scalar Number]

/-- The area inside the padding of a canvas. -/
def ofCanvas (width height : Number) (padding : Padding Number) : PlotArea Number where
  left := padding.left
  top := padding.top
  width := Scalar.greatest Scalar.zero (width - padding.left - padding.right)
  height := Scalar.greatest Scalar.zero (height - padding.top - padding.bottom)

/-- The right edge. -/
def right (area : PlotArea Number) : Number := area.left + area.width

/-- The bottom edge. -/
def bottom (area : PlotArea Number) : Number := area.top + area.height

/-- Nothing fits in: the width or the height is zero or below. -/
def isEmpty (area : PlotArea Number) : Bool :=
  decide (area.width ≤ Scalar.zero) || decide (area.height ≤ Scalar.zero)

/-- The column in the middle. -/
def centerX (area : PlotArea Number) : Number := area.left + area.width / Scalar.ofInt 2

/-- The row in the middle. -/
def centerY (area : PlotArea Number) : Number := area.top + area.height / Scalar.ofInt 2

end PlotArea

/-- The area of a canvas whose size is given by any values that read as floats. -/
def PlotArea.ofSize (width height : Value) (padding : Padding Float) :
    Except Fault (PlotArea Float) := do
  let width ← width.toFloat
  return .ofCanvas width (← height.toFloat) padding

end SeriesChart
