/-
This file tells which calls the drawing of a chart makes. A context that paints nothing lists them:
first it is cleared; then come the ticks, if the grid is shown, the points, the two axes, the label
if there is one, and the highlight if there is one. Each of these blocks is told by itself, so a
change of the grid, of the label or of the highlight changes its own block and leaves the calls
before and after it as they are.
-/

import SeriesChart.Proofs.Plot.Ticks
import SeriesChart.Proofs.Scene.Frame

namespace SeriesChart

/-! ### Calls on record -/

/-- A context that paints nothing and lists the calls that are made on it. -/
def noteCall (call : DrawCall) : EStateM Fault (List DrawCall) Unit := modify (· ++ [call])

/-- The context is left with the calls of a plan up to its fault, with which it gives up. -/
theorem Plan.carryOut_noteCall (plan : Plan) (noted : List DrawCall) :
    plan.carryOut noteCall noted = match plan.fault? with
      | none => .ok () (noted ++ plan.calls)
      | some fault => .error fault (noted ++ plan.calls) := by
  induction plan generalizing noted with
  | nil => exact congrArg _ (List.append_nil noted).symm
  | cons step rest inductionHypothesis =>
    cases step with
    | ok call =>
      show carryOut noteCall rest (noted ++ [call]) = _
      rw [inductionHypothesis, List.append_assoc]
      rfl
    | error fault => exact congrArg _ (List.append_nil noted).symm

theorem Plan.carryOut_ofCalls (calls : List DrawCall) :
    (Plan.ofCalls calls).carryOut noteCall [] = .ok () calls := by
  rw [carryOut_noteCall, fault?_ofCalls, calls_ofCalls, List.nil_append]

/-- What drawing a frame leaves on a context that lists the calls. -/
def Frame.noted (frame : Frame) (theme : Theme) (formats : LabelFormats)
    (highlight : Option Highlight) : EStateM.Result Fault (List DrawCall) Unit :=
  (framePlan frame theme formats highlight).carryOut noteCall []

/-! ### Ticks -/

/-- Every amount and every date is written, as the two functions say. -/
structure LabelFormats.Writes (formats : LabelFormats) (amount date : Float → String) : Prop where
  amount_eq : ∀ value, formats.amount value = .ok (amount value)
  date_eq : ∀ time, formats.shortDate time = .ok (date time)

/-- A line and a label for every tick: those of the amounts, and then those of the times. -/
def gridCalls (series : Series) (plot : Plot Float) (theme : Theme)
    (amount date : Float → String) : List DrawCall :=
  ((plot.extent.ticks standardTickCount).flatMap fun value =>
      valueTickCalls plot theme (amount value) value) ++
    (tickTimes series).flatMap fun time => timeTickCalls plot theme (date time) time

theorem Plan.ofCalls_append (first second : List DrawCall) :
    Plan.ofCalls (first ++ second) = Plan.ofCalls first ++ Plan.ofCalls second := List.map_append

theorem Plan.ofCalls_flatMap {Item : Type} (calls : Item → List DrawCall) (items : List Item) :
    Plan.ofCalls (items.flatMap calls) = items.flatMap fun item => Plan.ofCalls (calls item) :=
  List.map_flatMap

section Ticks

variable {formats : LabelFormats} {amount date : Float → String}
  (written : formats.Writes amount date)

include written

theorem gridPlan_eq (series : Series) (plot : Plot Float) (theme : Theme) :
    gridPlan series plot theme formats = .ofCalls (gridCalls series plot theme amount date) := by
  unfold gridPlan gridCalls
  rw [Plan.ofCalls_append, Plan.ofCalls_flatMap, Plan.ofCalls_flatMap]
  exact congrArg₂ _
    (List.flatMap_congr fun value _ => valueTickPlan_of_written (written.amount_eq value))
    (List.flatMap_congr fun time _ => timeTickPlan_of_written (written.date_eq time))

end Ticks

/-- Every tick of a time has its point. -/
theorem map_some_tickTimes (series : Series) :
    (tickTimes series).map some =
      (timeTicks series.length).map fun index => series.timestamps[index.toNat]? := by
  unfold tickTimes
  rw [List.map_filterMap_some_eq_filter_map_isSome, List.filter_eq_self]
  intro time known
  obtain ⟨index, inTicks, rfl⟩ := List.mem_map.mp known
  obtain ⟨nonneg, inside⟩ := bounds_of_mem_timeTicks inTicks
  rw [List.getElem?_eq_getElem (by rw [Series.length_timestamps]; omega)]
  rfl

theorem length_tickTimes (series : Series) :
    (tickTimes series).length = min 7 series.length := by
  have lengths := congrArg List.length (map_some_tickTimes series)
  rw [List.length_map, List.length_map, length_timeTicks] at lengths
  unfold standardTickLimit at lengths
  omega

theorem length_ticks (extent : Extent Float) :
    (extent.ticks standardTickCount).length = if extent.isFlatY then 1 else 5 := by
  unfold Extent.ticks evenlySpaced standardTickCount
  cases extent.isFlatY with
  | true => rfl
  | false => simp

/-- The grid has a line and a label for every tick. -/
theorem length_gridCalls (series : Series) (plot : Plot Float) (theme : Theme)
    (amount date : Float → String) :
    (gridCalls series plot theme amount date).length =
      2 * ((if plot.extent.isFlatY then 1 else 5) + min 7 series.length) := by
  have pairs {Item : Type} (items : List Item) (calls : Item → List DrawCall)
      (pair : ∀ item, (calls item).length = 2) :
      (items.flatMap calls).length = 2 * items.length := by
    rw [List.length_flatMap, List.map_congr_left fun item _ => pair item, List.map_const',
      List.sum_replicate, smul_eq_mul, mul_comm]
  unfold gridCalls
  rw [List.length_append, pairs _ _ fun _ => rfl, pairs _ _ fun _ => rfl, length_ticks,
    length_tickTimes, mul_add]

/-! ### Points -/

/-- The places at which a plot shows the points of a series. -/
def shownPlaces (series : Series) (plot : Plot Float) : List (Float × Float) :=
  series.points.map fun point => (plot.columnOf point.timestamp, plot.rowOf point.value)

/-- The calls for the points of a line chart from its first place to its last: the line through
all places, the area between them and the bottom of the plot, and a disc on every place. -/
def lineChartCalls (options : Options) (bottom : Float) (places : List (Float × Float))
    (first last : Float × Float) : List DrawCall :=
  [.strokePolyline places options.strokeColor chartLineWidth,
    .fillPolygon (places ++ [(last.1, bottom), (first.1, bottom)]) options.fillColor] ++
    places.map fun place => .fillCircle place.1 place.2 markerRadius options.strokeColor

/-- The calls for the points of a bar chart: from every place a bar down to the bottom of the
plot. -/
def barChartCalls (options : Options) (area : PlotArea Float) (places : List (Float × Float)) :
    List DrawCall :=
  places.map fun place =>
    .fillRect (place.1 - barWidth area places.length / 2.0) place.2
      (barWidth area places.length) (area.bottom - place.2) options.strokeColor

/-- The calls for the points of a chart. -/
def pointCalls (options : Options) (area : PlotArea Float) (places : List (Float × Float)) :
    List DrawCall :=
  match places.head?, places.getLast?, options.kind with
  | some first, some last, .line => lineChartCalls options area.bottom places first last
  | some _, some _, .bar => barChartCalls options area places
  | _, _, _ => []

theorem areaCorners_eq {places : List (Float × Float)} {first last : Float × Float}
    (isFirst : places.head? = some first) (isLast : places.getLast? = some last) (bottom : Float) :
    areaCorners places bottom = places ++ [(last.1, bottom), (first.1, bottom)] := by
  unfold areaCorners
  rw [isFirst, isLast, List.append_assoc]
  rfl

theorem seriesPlan_eq (series : Series) (plot : Plot Float) {options : Options}
    (kind : options.kind = .line ∨ options.kind = .bar) :
    seriesPlan series plot options =
      .ofCalls (pointCalls options plot.area (shownPlaces series plot)) := by
  have places : plot.places series = shownPlaces series plot := plot.places_eq_map series
  have length : series.length = (shownPlaces series plot).length :=
    (List.length_map _).symm
  unfold seriesPlan pointCalls
  rw [places, length]
  by_cases empty : series.isEmpty = true
  · have none : shownPlaces series plot = [] :=
      List.map_eq_nil_iff.mpr (List.isEmpty_iff.mp empty)
    rw [if_pos empty, none]
    rfl
  · have some : shownPlaces series plot ≠ [] :=
      fun none => empty (List.isEmpty_iff.mpr (List.map_eq_nil_iff.mp none))
    have isFirst := List.head?_eq_some_head some
    have isLast := List.getLast?_eq_some_getLast some
    rw [if_neg empty, isFirst, isLast]
    obtain line | bar := kind
    · rw [line]
      show Plan.ofCalls (lineMarks _ _ _) = _
      unfold lineMarks
      rw [areaCorners_eq isFirst isLast]
      rfl
    · rw [bar]
      rfl

/-! ### Highlights -/

theorem highlightCalls_eq (highlight : Option Highlight) (theme : Theme) :
    highlightCalls highlight theme =
      match highlight with
      | none => []
      | some highlight =>
        [.fillCircle highlight.x highlight.y highlightRadius theme.highlightColor] := by
  cases highlight <;> rfl

/-! ### Whole charts -/

/-- The calls for a chart with a plot. -/
def chartCalls (frame : Frame) (plot : Plot Float) (theme : Theme) (amount date : Float → String)
    (highlight : Option Highlight) : List DrawCall :=
  [.clear] ++
    (if frame.options.showGrid then gridCalls frame.series plot theme amount date else []) ++
    pointCalls frame.options plot.area (shownPlaces frame.series plot) ++
    axisCalls frame.area theme ++
    labelCalls frame.options.label frame.canvasWidth theme ++
    highlightCalls highlight theme

namespace Frame

/-- The frame with its grid shown or not. -/
def withGrid (frame : Frame) (shown : Bool) : Frame :=
  { frame with options := { frame.options with showGrid := shown } }

/-- The frame with another label. -/
def withLabel (frame : Frame) (label : String) : Frame :=
  { frame with options := { frame.options with label := label } }

variable {formats : LabelFormats} {amount date : Float → String}

theorem noted_of_no_plot {frame : Frame} (theme : Theme) (highlight : Option Highlight)
    (none : frame.plot = none) : frame.noted theme formats highlight = .ok () [.clear] := by
  unfold noted framePlan
  rw [none]
  exact Plan.carryOut_ofCalls [.clear]

theorem noted_of_plot (written : formats.Writes amount date) (frame : Frame) {plot : Plot Float}
    (theme : Theme) (highlight : Option Highlight)
    (kind : frame.options.kind = .line ∨ frame.options.kind = .bar)
    (shown : frame.plot = some plot) :
    frame.noted theme formats highlight =
      .ok () (chartCalls frame plot theme amount date highlight) := by
  have ticks : (if frame.options.showGrid then gridPlan frame.series plot theme formats else []) =
      .ofCalls (if frame.options.showGrid then gridCalls frame.series plot theme amount date
        else []) := by
    rw [gridPlan_eq written]
    split <;> rfl
  have planned : framePlan frame theme formats highlight =
      .ofCalls (chartCalls frame plot theme amount date highlight) := by
    unfold framePlan chartCalls
    rw [shown]
    dsimp only
    rw [ticks, seriesPlan_eq frame.series plot kind]
    simp only [Plan.ofCalls_append]
    rfl
  unfold noted
  rw [planned, Plan.carryOut_ofCalls]

section Changes

variable (written : formats.Writes amount date) {frame : Frame} {plot : Plot Float} (theme : Theme)
  (highlight : Option Highlight) (kind : frame.options.kind = .line ∨ frame.options.kind = .bar)
  (shown : frame.plot = some plot)

include written kind shown

/-- The grid is a block of its own. -/
theorem exists_noted_withGrid : ∃ before after, ∀ visible,
    (frame.withGrid visible).noted theme formats highlight = .ok () (before ++
      (if visible then gridCalls frame.series plot theme amount date else []) ++ after) := by
  refine ⟨[.clear],
    pointCalls frame.options plot.area (shownPlaces frame.series plot) ++
      (axisCalls frame.area theme ++ (labelCalls frame.options.label frame.canvasWidth theme ++
        highlightCalls highlight theme)), fun visible => ?_⟩
  rw [noted_of_plot written (frame.withGrid visible) theme highlight kind shown]
  unfold chartCalls
  simp only [List.append_assoc]
  rfl

/-- The label is a block of its own. -/
theorem exists_noted_withLabel : ∃ before after, ∀ label,
    (frame.withLabel label).noted theme formats highlight =
      .ok () (before ++ labelCalls label frame.canvasWidth theme ++ after) :=
  ⟨[.clear] ++
      (if frame.options.showGrid then gridCalls frame.series plot theme amount date else []) ++
      pointCalls frame.options plot.area (shownPlaces frame.series plot) ++
      axisCalls frame.area theme,
    highlightCalls highlight theme, fun label =>
      noted_of_plot written (frame.withLabel label) theme highlight kind shown⟩

/-- The highlight comes after all else. -/
theorem exists_noted_highlight : ∃ before, ∀ highlight,
    frame.noted theme formats highlight = .ok () (before ++ highlightCalls highlight theme) :=
  ⟨[.clear] ++
      (if frame.options.showGrid then gridCalls frame.series plot theme amount date else []) ++
      pointCalls frame.options plot.area (shownPlaces frame.series plot) ++
      axisCalls frame.area theme ++ labelCalls frame.options.label frame.canvasWidth theme,
    fun highlight => noted_of_plot written frame theme highlight kind shown⟩

end Changes

/-- Without a plot the drawing only clears. With one, the calls stand in their blocks: the clearing,
the ticks of the amounts and of the times if the grid is shown, the points, the two axes, the label
unless it is empty, and a disc if there is a highlight. Every tick is a line and a text. The points
of a line chart are one line through all places in order, one area that goes on from the last place
along the bottom of the plot to the first, and a disc on every place; those of a bar chart are one
bar for every place. The grid, the label and the highlight each change their own block, and what
stands before and after it remains. -/
theorem noted_in_order (written : formats.Writes amount date) (frame : Frame) (theme : Theme)
    (highlight : Option Highlight)
    (kind : frame.options.kind = .line ∨ frame.options.kind = .bar) :
    (frame.plot = none → frame.noted theme formats highlight = .ok () [.clear]) ∧
    ∀ plot, frame.plot = some plot →
      let places := shownPlaces frame.series plot
      let grid := gridCalls frame.series plot theme amount date
      let points := pointCalls frame.options plot.area places
      let width := barWidth plot.area places.length
      let axes : List DrawCall :=
        [.strokeLine frame.area.left frame.area.bottom frame.area.right frame.area.bottom
            theme.axisColor thinLine,
          .strokeLine frame.area.left frame.area.top frame.area.left frame.area.bottom
            theme.axisColor thinLine]
      let title (label : String) : List DrawCall :=
        if label = "" then []
        else
          [.fillText (frame.canvasWidth / 2.0) titleTop label theme.titleColor
            { fontSize := theme.titleFontSize, align := .center, baseline := .top, bold := true }]
      let disc (highlight : Option Highlight) : List DrawCall :=
        match highlight with
        | none => []
        | some highlight =>
          [.fillCircle highlight.x highlight.y highlightRadius theme.highlightColor]
      frame.noted theme formats highlight =
        .ok () ([.clear] ++ (if frame.options.showGrid then grid else []) ++ points ++ axes ++
          title frame.options.label ++ disc highlight) ∧
      grid =
        ((plot.extent.ticks standardTickCount).flatMap fun value =>
          [.strokeLine plot.area.left (plot.rowOf value) plot.area.right (plot.rowOf value)
              theme.gridColor thinLine,
            .fillText (plot.area.left - tickLabelGap) (plot.rowOf value) (amount value)
              theme.tickLabelColor
              { fontSize := theme.tickFontSize, align := .right, baseline := .middle }]) ++
        ((tickTimes frame.series).flatMap fun time =>
          [.strokeLine (plot.columnOf time) plot.area.top (plot.columnOf time) plot.area.bottom
              theme.gridColor thinLine,
            .fillText (plot.columnOf time) (plot.area.bottom + tickLabelGap) (date time)
              theme.tickLabelColor
              { fontSize := theme.tickFontSize, align := .center, baseline := .top }]) ∧
      grid.length =
        2 * ((if plot.extent.isFlatY then 1 else 5) + min 7 frame.series.length) ∧
      (tickTimes frame.series).map some =
        (timeTicks frame.series.length).map (fun index => frame.series.timestamps[index.toNat]?) ∧
      (∀ first last, frame.options.kind = .line → places.head? = some first →
        places.getLast? = some last →
        points =
          [.strokePolyline places frame.options.strokeColor chartLineWidth,
            .fillPolygon (places ++ [(last.1, plot.area.bottom), (first.1, plot.area.bottom)])
              frame.options.fillColor] ++
          places.map fun place =>
            .fillCircle place.1 place.2 markerRadius frame.options.strokeColor) ∧
      (frame.options.kind = .bar →
        points = places.map fun place =>
          .fillRect (place.1 - width / 2.0) place.2 width (plot.area.bottom - place.2)
            frame.options.strokeColor) ∧
      (∃ before after, ∀ shown,
        (frame.withGrid shown).noted theme formats highlight =
          .ok () (before ++ (if shown then grid else []) ++ after)) ∧
      (∃ before after, ∀ label,
        (frame.withLabel label).noted theme formats highlight =
          .ok () (before ++ title label ++ after)) ∧
      ∃ before, ∀ other, frame.noted theme formats other = .ok () (before ++ disc other) := by
  refine ⟨noted_of_no_plot theme highlight, fun plot shown => ?_⟩
  dsimp only
  have drawn := noted_of_plot written frame theme highlight kind shown
  obtain ⟨before, ended⟩ := exists_noted_highlight written theme kind shown
  refine ⟨?_, rfl, length_gridCalls _ _ _ _ _, map_some_tickTimes _,
    fun first last line isFirst isLast => ?_, fun bar => ?_,
    exists_noted_withGrid written theme highlight kind shown,
    exists_noted_withLabel written theme highlight kind shown, before, fun other => ?_⟩
  · rw [drawn, chartCalls, highlightCalls_eq]
    rfl
  · unfold pointCalls
    rw [isFirst, isLast, line]
    rfl
  · unfold pointCalls
    rw [bar]
    cases shownPlaces frame.series plot <;> rfl
  · rw [ended, highlightCalls_eq]

/-- Two points, shown on 300 by 200 pixels. -/
def ofTwoPoints : Frame :=
  ofWidth ⟨[⟨0, 10⟩, ⟨86400, 20⟩]⟩ { Options.standard with label := "Sales" } 300 .standard

/-- Two points with a highlight are drawn by 23 calls: 14 for the ticks of five amounts and two
times, and the last one for the disc of the highlight. -/
theorem noted_in_order_twoPoints : ∃ calls,
    ofTwoPoints.noted {} { amount := fun _ => .ok "$", shortDate := fun _ => .ok "day" }
        (some ⟨1, 280.0, 40.0⟩) =
      .ok () (calls ++ [.fillCircle 280.0 40.0 5.0 ⟨255, 107, 107, 255⟩]) ∧ calls.length = 22 := by
  obtain ⟨plot, shown, steep⟩ :
      ∃ plot, ofTwoPoints.plot = some plot ∧ plot.extent.isFlatY = false := by
    have known : ofTwoPoints.plot.map (·.extent.isFlatY) = some false := by decide +kernel
    exact Option.map_eq_some_iff.mp known
  have written : LabelFormats.Writes
      { amount := fun _ => .ok "$", shortDate := fun _ => .ok "day" } (fun _ => "$")
      fun _ => "day" := ⟨fun _ => rfl, fun _ => rfl⟩
  obtain ⟨drawn, _, grid, _, line, _⟩ :=
    (noted_in_order written ofTwoPoints {} (some ⟨1, 280.0, 40.0⟩) (.inl rfl)).2 plot shown
  refine ⟨_, drawn, ?_⟩
  rw [steep] at grid
  have visible : ofTwoPoints.options.showGrid = true := rfl
  rw [line _ _ rfl rfl rfl, if_pos visible]
  simp only [List.length_append, grid]
  rfl

end Frame

end SeriesChart
