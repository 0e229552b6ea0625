/-
This file holds a chart on its host. The chart is made without a host; it is attached to
one, drawn there, changed, resized, and detached again. What a change needs is made sure
of before anything is changed, but the drawing after it may still give up, and then the
change stays. A host that a chart could not be attached to is left as it was.
-/

import SeriesChart.Display.Host
import SeriesChart.Display.Stage
import SeriesChart.Display.Tooltip

namespace SeriesChart

/-! ### Charts -/

/-- The number by which hosts know a chart. -/
abbrev ChartId := Nat

/-- The number of a host. -/
abbrev HostId := Nat

/-- A chart with all that belongs to it. -/
structure Chart where
  id : ChartId
  stage : Stage
  tooltip : Tooltip := .hidden
  host : Option HostId := none
  /-- What the chart listens to on its host, in the order in which it began. -/
  listens : List PointerKind := []

namespace Chart

/-- A chart of data and options that has no host yet. -/
def create (id : ChartId) (data : Value) (options : OptionsSource) (look : Look) :
    Except Fault Chart := do
  let options ← options.resolve
  let series ← Series.ofData options.recordKeys data
  return { id, stage := { look, series, options } }

/-- The chart has a host. -/
def isAttached (chart : Chart) : Bool := chart.host.isSome

/-- The picture of the chart, if it has a host. -/
def canvas? (chart : Chart) : Option Canvas := chart.stage.sheet.map Sheet.canvas

/-- How many pixels make a logical one; as many as logical ones without a host. -/
def ratio (chart : Chart) : Float :=
  (chart.stage.sheet.map fun sheet => sheet.device.ratio).getD 1.0

/-- Where the last drawing places a point of the chart. The numbers of the points go on around the
series without an end. -/
def placeOf? (chart : Chart) (index : Int) : Option (Float × Float) := do
  let plot ← (← chart.stage.frame).plot
  let points := chart.stage.series.points
  let point ← points[(index.emod points.length).toNat]?
  return (plot.columnOf point.timestamp, plot.rowOf point.value)

/-! ### Drawing -/

/-- Does something to the tooltip and the stage of a chart. -/
def onTooltip (action : Tooltip.Showing Stage Unit) : EStateM Fault Chart Unit :=
  fun chart =>
    match action (chart.tooltip, chart.stage) with
    | .ok _ (tooltip, stage) => .ok () { chart with tooltip, stage }
    | .error fault (tooltip, stage) => .error fault { chart with tooltip, stage }

/-- Redraws the chart. Without a highlight of its own the one of the tooltip stays. -/
def draw (highlight : Option Highlight) : EStateM Fault Chart Unit := do
  let shown := (← get).tooltip.highlight
  onTooltip (Tooltip.onTarget (Stage.render (highlight.orElse fun _ => shown)))

/-- Paints on the picture of the chart, if it has a host. -/
def paint (painting : Painting) : EStateM Fault Chart Unit :=
  onTooltip (Tooltip.onTarget (Stage.onCanvas painting))

/-- The chart without a tooltip. Nothing is redrawn. -/
def hideTooltip (chart : Chart) : Chart := { chart with tooltip := .hidden }

/-! ### The pointer -/

/-- What the pointer may be over, given what the last drawing was made of. -/
def fieldOf (frame : Frame) : HoverField := ⟨frame.series, frame.plot, frame.options.label⟩

/-- Follows an event of the pointer. Every event that does not say that the pointer left is taken
for a move; a move without a position, or before anything was drawn, is passed over. -/
def followPointer (event : PointerEvent) : EStateM Fault Chart Unit := do
  let chart ← get
  if chart.stage.options.showTooltip then
    if event.kind = PointerKind.leave.name then onTooltip (Tooltip.leave Stage.render)
    else
      match chart.stage.frame, event.x, event.y with
      | none, _, _ | _, .absent, _ | _, _, .absent => pure ()
      | some frame, x, y =>
        let rules := TooltipRules.standard chart.stage.look.formats
        onTooltip (Tooltip.moveTo rules Stage.render (fieldOf frame) x y)

/-! ### New data and options -/

/-- Puts new data and new options in the place of the old ones. Absent ones stay as they are; if one
of the two cannot be used, nothing changes. -/
def commit (data : Value) (options : OptionsSource) : EStateM Fault Chart Unit := do
  let stage := (← get).stage
  let options ← options.resolveOr stage.options
  let series ← Series.ofDataOr stage.series options.recordKeys data
  modify fun chart =>
    { chart.hideTooltip with stage := { chart.stage with series, options }.forgetBase }

end Chart

/-! ### A chart on its host -/

/-- A chart and the host it is attached to or is to be attached to. -/
structure Seat where
  chart : Chart
  host : Host ChartId

namespace Seat

/-- Does something to the chart. -/
def onChart (action : EStateM Fault Chart Unit) : EStateM Fault Seat Unit := fun seat =>
  match action seat.chart with
  | .ok _ chart => .ok () { seat with chart }
  | .error fault chart => .error fault { seat with chart }

/-! ### Listening -/

/-- The chart begins to listen to one kind of events. -/
def listenTo (seat : Seat) (kind : PointerKind) : Seat where
  chart := { seat.chart with listens := seat.chart.listens ++ [kind] }
  host := seat.host.addListener kind seat.chart.id

/-- The chart begins to listen to all kinds of events. -/
def listen (seat : Seat) : Seat := PointerKind.all.foldl listenTo seat

/-- The chart no longer listens to anything; what it began last it ends first. -/
def unlisten (seat : Seat) : Seat where
  chart := { seat.chart with listens := [] }
  host := seat.chart.listens.foldr (fun kind host => host.removeListener kind seat.chart.id)
    seat.host

/-- The chart listens as its options want it. -/
def fitListeners (seat : Seat) : Seat :=
  if seat.chart.stage.options.showTooltip then
    if seat.chart.listens.isEmpty then seat.listen else seat
  else seat.unlisten

/-! ### The size -/

/-- The width of a host in logical pixels, never below zero. -/
def usableWidth (host : Host ChartId) : Except Fault Float :=
  return Scalar.greatest 0.0 (← host.width.toFloat)

/-- The ratio of a host; one in the place of none and of one that is not above zero. -/
def usableRatio (host : Host ChartId) : Except Fault Float := do
  let ratio ← if ← host.ratio.isTrue then host.ratio.toFloat else pure 1.0
  return if ratio ≤ 0.0 then 1.0 else ratio

/-- The sheet has the wanted size and ratio. -/
def fits (sheet : Sheet) (width ratio : Float) (height : Int) : Bool :=
  sheet.device.width == width && sheet.device.height == Float.ofInt height &&
    sheet.device.ratio == ratio

/-- Gives the chart a clear sheet of the size of the host, unless it has one of this size. -/
def fitSheet : EStateM Fault Seat Unit := do
  let seat ← get
  let stage := seat.chart.stage
  let width ← usableWidth seat.host
  let ratio ← usableRatio seat.host
  unless stage.sheet.any (fits · width ratio stage.options.height) do
    let theme := stage.look.theme
    let sheet ← Sheet.create (.float width) (.int stage.options.height) (.float ratio)
      theme.background theme.fontFamily stage.look.fonts
    set { seat with chart := { seat.chart with
      stage := { stage with sheet := some sheet }.forgetBase } }

/-! ### From attaching to detaching -/

/-- The chart without its host. The host is without the chart as well. -/
def detach (seat : Seat) : Seat :=
  let seat := seat.unlisten
  let stage := seat.chart.stage
  { seat with chart := { seat.chart.hideTooltip with
    host := none
    stage := { stage.forgetBase with sheet := none, frame := none } } }

/-- Brings the chart into line with its host and draws it. -/
def refresh : EStateM Fault Seat Unit := do
  fitSheet
  modify fitListeners
  onChart (Chart.draw none)

/-- Attaches the chart to the host of the given number and draws it. If it cannot be drawn it is
detached again. -/
def attach (host : HostId) : EStateM Fault Seat Unit := do
  if (← get).chart.isAttached then throw .alreadyAttached
  modify fun seat => { seat with chart := { seat.chart with host := some host } }
  try refresh
  catch fault =>
    modify detach
    throw fault

/-- Gives the chart new data and options, and draws it if it is attached. -/
def update (data : Value) (options : OptionsSource) : EStateM Fault Seat Unit := do
  onChart (Chart.commit data options)
  if (← get).chart.isAttached then refresh

/-- Draws the chart anew in the size of its host. -/
def resize : EStateM Fault Seat Unit := do
  if (← get).chart.isAttached then
    modify fun seat => { seat with chart := seat.chart.hideTooltip }
    fitSheet
    onChart (Chart.draw none)

end Seat

end SeriesChart
