/-
This file plans a whole chart. A frame is what one drawing is made of: the points, the
options, and the plot that shows the points. It is built anew for every drawing. A
frame without points or without room for them only clears the canvas. A highlight is a
disc on top of all else.
-/

import SeriesChart.Scene.Guides
import SeriesChart.Scene.Marks

namespace SeriesChart

/-! ### Frames -/

/-- What one drawing is made of. -/
structure Frame where
  series : Series
  options : Options
  canvasWidth : Float
  area : PlotArea Float
  /-- Where points are shown; absent when there are none or no room for them. -/
  plot : Option (Plot Float)

namespace Frame

/-- The frame of a canvas of the given width. Its height is that of the options. -/
def ofWidth (series : Series) (options : Options) (width : Float) (padding : Padding Float) :
    Frame :=
  let area := PlotArea.ofCanvas width (Float.ofInt options.height) padding
  { series, options, area
    canvasWidth := width
    plot := if area.isEmpty then none else Plot.ofSeries? series area }

/-- The frame of a canvas whose width is any value that reads as a float. -/
def ofValue (series : Series) (options : Options) (width : Value) (padding : Padding Float) :
    Except Fault Frame :=
  return ofWidth series options (← width.toFloat) padding

/-- There is something to draw. -/
def isDrawable (frame : Frame) : Bool := frame.plot.isSome

end Frame

/-! ### Highlights -/

/-- A point that is pointed at: its number and its place. -/
structure Highlight where
  index : Int
  x : Float
  y : Float
  deriving DecidableEq, Repr

/-- The radius of the disc on a point that is pointed at. -/
def highlightRadius : Float := 5.0

/-- The calls that draw a highlight, if there is one. -/
def highlightCalls (highlight : Option Highlight) (theme : Theme) : List DrawCall :=
  highlight.toList.map fun highlight =>
    .fillCircle highlight.x highlight.y highlightRadius theme.highlightColor

/-! ### Drawings -/

/-- The plan of a chart: clear, ticks, points, axes, label and highlight, in this order. -/
def framePlan (frame : Frame) (theme : Theme) (formats : LabelFormats)
    (highlight : Option Highlight) : Plan :=
  .ok .clear ::
    match frame.plot with
    | none => []
    | some plot =>
      (if frame.options.showGrid then gridPlan frame.series plot theme formats else []) ++
        seriesPlan frame.series plot frame.options ++
        Plan.ofCalls (axisCalls frame.area theme) ++
        Plan.ofCalls (labelCalls frame.options.label frame.canvasWidth theme) ++
        Plan.ofCalls (highlightCalls highlight theme)

end SeriesChart
