/-
This file holds the look of a chart: its colours, its font and the sizes of its texts. A
theme is taken as it is given; a colour out of range shows itself when it is painted.
-/

import SeriesChart.Color.Basic

namespace SeriesChart

/-- The family that texts are set in when none is named. -/
def defaultFontFamily : String := "Arial"

/-- The look of a chart. -/
structure Theme where
  background : Color := .transparent
  gridColor : Color := ⟨240, 240, 240, 255⟩
  tickLabelColor : Color := ⟨102, 102, 102, 255⟩
  axisColor : Color := ⟨204, 204, 204, 255⟩
  titleColor : Color := ⟨51, 51, 51, 255⟩
  highlightColor : Color := ⟨255, 107, 107, 255⟩
  fontFamily : String := defaultFontFamily
  tickFontSize : Float := 10.0
  titleFontSize : Float := 12.0

end SeriesChart
