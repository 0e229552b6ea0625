/-
This file plans how the points of a chart are marked. A line chart strokes a line through
all points, fills the area below it, and puts a disc on every point, so that the discs
stay on top. A bar chart stands a bar under every point.
-/

import SeriesChart.Plot.Scales
import SeriesChart.Options.Basic
import SeriesChart.Scene.DrawCall

namespace SeriesChart

/-! ### Measures -/

/-- How wide the line of a chart is. -/
def chartLineWidth : Float := 2.0

/-- The radius of the disc on a point. -/
def markerRadius : Float := 3.0

/-- The part of its share of the plot that a bar takes. -/
def barShare {Number : Type} [Scalar Number] : Number := (Scalar.ofInt 8 : Number) / Scalar.ofInt 10

/-- How wide each of so many bars is. -/
def barWidth {Number : Type} [Scalar Number] (area : PlotArea Number) (count : Int) : Number :=
  if count ≤ 0 then Scalar.zero else barShare * area.width / Scalar.ofInt count

/-! ### Lines -/

/-- The corners of the area between the places and the bottom of the plot. -/
def areaCorners (places : List (Float × Float)) (bottom : Float) : List (Float × Float) :=
  places ++ (places.getLast?.toList.map fun place => (place.1, bottom)) ++
    (places.head?.toList.map fun place => (place.1, bottom))

/-- The marks of a line chart. -/
def lineMarks (places : List (Float × Float)) (bottom : Float) (options : Options) :
    List DrawCall :=
  [.strokePolyline places options.strokeColor chartLineWidth,
    .fillPolygon (areaCorners places bottom) options.fillColor] ++
    places.map fun place => .fillCircle place.1 place.2 markerRadius options.strokeColor

/-! ### Bars -/

/-- The marks of a bar chart. -/
def barMarks (places : List (Float × Float)) (width bottom : Float) (options : Options) :
    List DrawCall :=
  places.map fun place =>
    .fillRect (place.1 - width / 2.0) place.2 width (bottom - place.2) options.strokeColor

/-! ### Charts -/

/-- The plan of the marks of a series. Without points nothing is marked, whatever the kind. -/
def seriesPlan (series : Series) (plot : Plot Float) (options : Options) : Plan :=
  if series.isEmpty then []
  else
    let places := plot.places series
    let bottom := plot.area.bottom
    match options.kind with
    | .line => .ofCalls (lineMarks places bottom options)
    | .bar => .ofCalls (barMarks places (barWidth plot.area series.length) bottom options)
    | .other shown => [.error (.config (.unsupportedKind shown))]

end SeriesChart
