/-
This file plans what surrounds the points of a chart: a line and a label for every tick,
the two axes, and the label of the whole chart. Amounts stand at the left of the plot,
each at the height of its line, and dates below it, each under its line.
-/

import SeriesChart.Plot.Scales
import SeriesChart.Plot.Ticks
import SeriesChart.Labels
import SeriesChart.Options.Theme
import SeriesChart.Scene.DrawCall

namespace SeriesChart

/-! ### Measures -/

/-- The space between the plot and the labels of its ticks. -/
def tickLabelGap : Float := 5.0

/-- How far below the top of the canvas the label of a chart stands. -/
def titleTop : Float := 5.0

/-! ### Ticks -/

/-- The line and the label of an amount. -/
def valueTickPlan (plot : Plot Float) (theme : Theme) (formats : LabelFormats)
    (value : Float) : Plan :=
  let area := plot.area
  let y := plot.rowOf value
  [.ok (.strokeLine area.left y area.right y theme.gridColor thinLine),
    (formats.amount value).map fun text =>
      .fillText (area.left - tickLabelGap) y text theme.tickLabelColor
        { fontSize := theme.tickFontSize, align := .right, baseline := .middle }]

/-- The line and the label of a time. -/
def timeTickPlan (plot : Plot Float) (theme : Theme) (formats : LabelFormats)
    (timestamp : Float) : Plan :=
  let area := plot.area
  let x := plot.columnOf timestamp
  [.ok (.strokeLine x area.top x area.bottom theme.gridColor thinLine),
    (formats.shortDate timestamp).map fun text =>
      .fillText x (area.bottom + tickLabelGap) text theme.tickLabelColor
        { fontSize := theme.tickFontSize, align := .center, baseline := .top }]

/-- The times of a series that have ticks. -/
def tickTimes (series : Series) : List Float :=
  (timeTicks series.length).filterMap fun index => series.timestamps[index.toNat]?

/-- The plan of all ticks: those of the values, and then those of the times. -/
def gridPlan (series : Series) (plot : Plot Float) (theme : Theme) (formats : LabelFormats) :
    Plan :=
  (plot.extent.ticks standardTickCount).flatMap (valueTickPlan plot theme formats) ++
    (tickTimes series).flatMap (timeTickPlan plot theme formats)

/-! ### Axes and label -/

/-- The calls that draw the two axes. -/
def axisCalls (area : PlotArea Float) (theme : Theme) : List DrawCall :=
  [.strokeLine area.left area.bottom area.right area.bottom theme.axisColor thinLine,
    .strokeLine area.left area.top area.left area.bottom theme.axisColor thinLine]

/-- The calls that write the label of a chart: none when it is empty. -/
def labelCalls (label : String) (canvasWidth : Float) (theme : Theme) : List DrawCall :=
  if label = "" then []
  else
    [.fillText (canvasWidth / 2.0) titleTop label theme.titleColor
      { fontSize := theme.titleFontSize, align := .center, baseline := .top, bold := true }]

end SeriesChart
