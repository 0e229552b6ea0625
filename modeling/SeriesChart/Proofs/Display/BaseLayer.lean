/-
This file proves that nobody can tell whether charts keep their pictures. Two stages are
twins when they differ in nothing but what they keep, and what they keep is coherent.
Everything that can be done to a chart, to a chart on its host and to a page takes twins
to twins and ends in the same way; so whatever the script, the two histories agree.
-/

import SeriesChart.Proofs.Display.Rendering
import SeriesChart.Proofs.Display.Script
import SeriesChart.Proofs.Display.Steps

namespace SeriesChart

open EStateM.Result

/-! ### Stages -/

namespace Stage

/-- The stage that keeps no picture, and never did. -/
def bare (stage : Stage) : Stage :=
  { stage with look := { stage.look with keepsBase := false }, cache := {} }

/-- The stages differ in nothing but what they keep, and what they keep can be relied on. -/
structure Twins (first second : Stage) : Prop where
  bare : first.bare = second.bare
  firstCoherent : first.Coherent
  secondCoherent : second.Coherent

namespace Twins

variable {first second : Stage} (twins : Twins first second)

include twins

theorem series : first.series = second.series := by
  show first.bare.series = second.bare.series
  rw [twins.bare]

theorem options : first.options = second.options := by
  show first.bare.options = second.bare.options
  rw [twins.bare]

theorem sheet : first.sheet = second.sheet := by
  show first.bare.sheet = second.bare.sheet
  rw [twins.bare]

theorem frame : first.frame = second.frame := by
  show first.bare.frame = second.bare.frame
  rw [twins.bare]

theorem theme : first.look.theme = second.look.theme := by
  show first.bare.look.theme = second.bare.look.theme
  rw [twins.bare]

theorem fonts : first.look.fonts = second.look.fonts := by
  show first.bare.look.fonts = second.bare.look.fonts
  rw [twins.bare]

theorem formats : first.look.formats = second.look.formats := by
  show first.bare.look.formats = second.bare.look.formats
  rw [twins.bare]

/-- Twins paint the same. -/
theorem painting (device : Device) (highlight : Option Highlight) :
    first.painting device highlight = second.painting device highlight := by
  show first.bare.painting device highlight = second.bare.painting device highlight
  rw [twins.bare]

omit twins in
/-- Stages without a picture that differ in nothing else are twins. -/
theorem ofForgotten (same : first.bare = second.bare) :
    Twins first.forgetBase second.forgetBase :=
  ⟨same, coherent_forgetBase _, coherent_forgetBase _⟩

end Twins

/-- A redrawing of twins ends in the same way, whatever each of them keeps. -/
theorem alike_render {first second : Stage} (twins : Twins first second)
    (highlight : Option Highlight) :
    Alike Twins (render highlight first) (render highlight second) := by
  have sheets := twins.sheet
  cases placed : first.sheet with
  | none =>
    rw [placed] at sheets
    rw [render_of_no_sheet highlight placed, render_of_no_sheet highlight sheets.symm]
    exact .ok () twins
  | some sheet =>
    rw [placed] at sheets
    obtain ⟨cache, drawn, coherent⟩ := render_eq highlight placed twins.firstCoherent
    obtain ⟨otherCache, otherDrawn, otherCoherent⟩ :=
      render_eq highlight sheets.symm twins.secondCoherent
    rw [drawn] at coherent
    rw [otherDrawn, ← twins.painting] at otherCoherent
    rw [drawn, otherDrawn, ← twins.painting]
    have shown (canvas : Canvas) : (first.showing sheet.device cache canvas).bare =
        (second.showing sheet.device otherCache canvas).bare := by
      show first.bare.showing sheet.device {} canvas = second.bare.showing sheet.device {} canvas
      rw [twins.bare]
    cases ended : first.painting sheet.device highlight sheet.canvas with
    | ok _ canvas =>
      rw [ended] at coherent otherCoherent
      exact .ok () ⟨shown canvas, coherent, otherCoherent⟩
    | error fault canvas =>
      rw [ended] at coherent otherCoherent
      exact .error fault ⟨shown canvas, coherent, otherCoherent⟩

end Stage

/-! ### Tooltips -/

namespace Tooltip

variable {Target Other : Type} {related : Target → Other → Prop}

/-- The same is shown on related things. -/
def ShownOn (related : Target → Other → Prop) (first : Tooltip × Target)
    (second : Tooltip × Other) : Prop := first.1 = second.1 ∧ related first.2 second.2

theorem alike_onTarget {action : EStateM Fault Target Unit} {otherAction : EStateM Fault Other Unit}
    (acted : ∀ first second, related first second → Alike related (action first) (otherAction second))
    {first : Tooltip × Target} {second : Tooltip × Other} (shown : ShownOn related first second) :
    Alike (ShownOn related) (onTarget action first) (onTarget otherAction second) := by
  rw [onTarget_eq, onTarget_eq]
  exact Alike.mapState ((acted _ _ shown.2).mono fun _ _ targets => ⟨shown.1, targets⟩)

theorem alike_change (update : Tooltip → Tooltip) {first : Tooltip × Target}
    {second : Tooltip × Other} (shown : ShownOn related first second) :
    Alike (ShownOn related) (change update first) (change update second) := by
  obtain ⟨tooltip, target⟩ := first
  obtain ⟨otherTooltip, other⟩ := second
  exact .ok () ⟨congrArg update shown.1, shown.2⟩

section Redraw

variable {redraw : Option Highlight → EStateM Fault Target Unit}
variable {otherRedraw : Option Highlight → EStateM Fault Other Unit}
variable (redrawn : ∀ highlight first second, related first second →
  Alike related (redraw highlight first) (otherRedraw highlight second))

include redrawn

theorem alike_leave {first : Tooltip × Target} {second : Tooltip × Other}
    (shown : ShownOn related first second) :
    Alike (ShownOn related) (leave redraw first) (leave otherRedraw second) := by
  obtain ⟨tooltip, target⟩ := first
  obtain ⟨otherTooltip, other⟩ := second
  obtain ⟨tooltips, targets⟩ := shown
  change tooltip = otherTooltip at tooltips
  subst tooltips
  show Alike (ShownOn related)
    ((if tooltip.isVisible then onTarget (redraw none) else pure ()) (hidden, target))
    ((if tooltip.isVisible then onTarget (otherRedraw none) else pure ()) (hidden, other))
  split
  · exact alike_onTarget (redrawn none) ⟨rfl, targets⟩
  · exact .ok () ⟨rfl, targets⟩

theorem alike_showPoint (rules : TooltipRules) (label : String) (hover : Hover)
    {first : Tooltip × Target} {second : Tooltip × Other} (shown : ShownOn related first second) :
    Alike (ShownOn related) (showPoint rules redraw label hover first)
      (showPoint rules otherRedraw label hover second) := by
  refine Alike.bind (alike_change _ shown) (fun _ _ => id) fun _ _ _ changed => ?_
  refine Alike.bind (alike_onTarget (redrawn _) changed) (fun _ _ => id) fun _ _ _ marked => ?_
  exact Alike.bindLift marked fun overlay _ => alike_change _ marked

theorem alike_moveTo (rules : TooltipRules) (field : HoverField) (x y : Value)
    {first : Tooltip × Target} {second : Tooltip × Other} (shown : ShownOn related first second) :
    Alike (ShownOn related) (moveTo rules redraw field x y first)
      (moveTo rules otherRedraw field x y second) := by
  refine Alike.bindLift shown fun found _ => ?_
  cases found with
  | none => exact alike_leave redrawn shown
  | some hover =>
    show Alike (ShownOn related)
      ((if first.1.hover.map Hover.index ≠ some hover.index then
        showPoint rules redraw field.label hover else pure ()) first)
      ((if second.1.hover.map Hover.index ≠ some hover.index then
        showPoint rules otherRedraw field.label hover else pure ()) second)
    rw [← shown.1]
    split
    · exact alike_showPoint redrawn rules field.label hover shown
    · exact .ok () shown

end Redraw

end Tooltip

/-! ### Charts -/

namespace Chart

/-- The charts differ in nothing but the pictures that they keep. -/
structure Twins (first second : Chart) : Prop where
  id : first.id = second.id
  tooltip : first.tooltip = second.tooltip
  host : first.host = second.host
  listens : first.listens = second.listens
  stage : first.stage.Twins second.stage

variable {first second : Chart}

/-- Nobody can tell twins apart. -/
theorem Twins.view (twins : Twins first second) : first.view = second.view := by
  have sheets := twins.stage.sheet
  unfold Chart.view Chart.canvas? Chart.ratio
  rw [twins.stage.series, twins.stage.options, twins.stage.frame, sheets, twins.host,
    twins.tooltip, twins.listens]

theorem Twins.hideTooltip (twins : Twins first second) :
    Twins first.hideTooltip second.hideTooltip :=
  { twins with tooltip := rfl }

theorem alike_onTooltip {action otherAction : Tooltip.Showing Stage Unit}
    (twins : Twins first second)
    (acted : ∀ firstShown secondShown, Tooltip.ShownOn Stage.Twins firstShown secondShown →
      Alike (Tooltip.ShownOn Stage.Twins) (action firstShown) (otherAction secondShown)) :
    Alike Twins (onTooltip action first) (onTooltip otherAction second) := by
  rw [onTooltip_eq, onTooltip_eq]
  refine Alike.mapState ((acted _ _ ⟨twins.tooltip, twins.stage⟩).mono fun _ _ shown => ?_)
  exact { twins with tooltip := shown.1, stage := shown.2 }

theorem alike_draw (twins : Twins first second) (highlight : Option Highlight) :
    Alike Twins (draw highlight first) (draw highlight second) := by
  have rendered : Alike Stage.Twins
      (Stage.render (highlight.orElse fun _ => first.tooltip.highlight) first.stage)
      (Stage.render (highlight.orElse fun _ => second.tooltip.highlight) second.stage) := by
    rw [twins.tooltip]
    exact Stage.alike_render twins.stage _
  rw [draw_eq, draw_eq]
  exact Alike.mapState (rendered.mono fun _ _ stages => { twins with stage := stages })

theorem alike_followPointer (twins : Twins first second) (event : PointerEvent) :
    Alike Twins (followPointer event first) (followPointer event second) := by
  have redrawn (highlight : Option Highlight) (firstStage secondStage : Stage)
      (stages : firstStage.Twins secondStage) := Stage.alike_render stages highlight
  have responses : response first.stage event = response second.stage event := by
    unfold response
    rw [twins.stage.options, twins.stage.frame, twins.stage.formats]
  rw [followPointer_eq, followPointer_eq, responses]
  refine alike_onTooltip twins fun _ _ shown => ?_
  obtain passed | hides | ⟨frame, _, moves⟩ := response_cases second.stage event
  · rw [passed]
    exact .ok () shown
  · rw [hides]
    exact Tooltip.alike_leave redrawn shown
  · rw [moves]
    exact Tooltip.alike_moveTo redrawn _ _ _ _ shown

theorem Twins.reading (twins : Twins first second) (data : Value) (options : OptionsSource) :
    first.reading data options = second.reading data options := by
  unfold Chart.reading
  rw [twins.stage.options, twins.stage.series]

theorem Twins.committed (twins : Twins first second) (series : Series) (options : Options) :
    Twins (first.committed series options) (second.committed series options) := by
  refine { twins.hideTooltip with stage := Stage.Twins.ofForgotten ?_ }
  show { first.stage.bare with series, options } = { second.stage.bare with series, options }
  rw [twins.stage.bare]

end Chart

/-! ### Charts on their hosts -/

namespace Seat

/-- Twins on hosts that are the same. -/
structure Twins (first second : Seat) : Prop where
  chart : first.chart.Twins second.chart
  host : first.host = second.host

variable {first second : Seat}

theorem alike_onChart {action otherAction : EStateM Fault Chart Unit} (twins : Twins first second)
    (acted : ∀ firstChart secondChart : Chart, firstChart.Twins secondChart →
      Alike Chart.Twins (action firstChart) (otherAction secondChart)) :
    Alike Twins (onChart action first) (onChart otherAction second) := by
  rw [onChart_eq, onChart_eq]
  exact Alike.mapState ((acted _ _ twins.chart).mono fun _ _ charts => ⟨charts, twins.host⟩)

theorem Twins.listenTo (twins : Twins first second) (kind : PointerKind) :
    Twins (first.listenTo kind) (second.listenTo kind) where
  chart := { twins.chart with listens := congrArg (· ++ [kind]) twins.chart.listens }
  host := by
    unfold Seat.listenTo
    rw [twins.host, twins.chart.id]

theorem Twins.unlisten (twins : Twins first second) : Twins first.unlisten second.unlisten where
  chart := { twins.chart with listens := rfl }
  host := by
    unfold Seat.unlisten
    rw [twins.host, twins.chart.id, twins.chart.listens]

theorem Twins.fitListeners (twins : Twins first second) :
    Twins first.fitListeners second.fitListeners := by
  unfold Seat.fitListeners
  rw [twins.chart.stage.options, twins.chart.listens]
  split
  · split
    · exact (twins.listenTo .move).listenTo .leave
    · exact twins
  · exact twins.unlisten

theorem Twins.detach (twins : Twins first second) : Twins first.detach second.detach where
  chart :=
    { twins.unlisten.chart.hideTooltip with
      host := rfl
      stage := by
        refine ⟨?_, Stage.coherent_of_no_sheet rfl, Stage.coherent_of_no_sheet rfl⟩
        show { first.chart.stage.bare with sheet := none, frame := none } =
          { second.chart.stage.bare with sheet := none, frame := none }
        rw [twins.chart.stage.bare] }
  host := twins.unlisten.host

theorem Twins.newSheet (twins : Twins first second) : first.newSheet = second.newSheet := by
  unfold Seat.newSheet Stage.blankSheet
  rw [twins.host, twins.chart.stage.sheet, twins.chart.stage.options, twins.chart.stage.theme,
    twins.chart.stage.fonts]

theorem Twins.withSheet (twins : Twins first second) (sheet : Sheet) :
    Twins (first.withSheet sheet) (second.withSheet sheet) := by
  refine ⟨{ twins.chart with stage := Stage.Twins.ofForgotten ?_ }, twins.host⟩
  show { first.chart.stage.bare with sheet := some sheet } =
    { second.chart.stage.bare with sheet := some sheet }
  rw [twins.chart.stage.bare]

theorem alike_fitSheet (twins : Twins first second) :
    Alike Twins (fitSheet first) (fitSheet second) := by
  rw [fitSheet_eq, fitSheet_eq, ← twins.newSheet]
  cases first.newSheet with
  | error fault => exact .error fault twins
  | ok new =>
    cases new with
    | none => exact .ok () twins
    | some sheet => exact .ok () (twins.withSheet sheet)

theorem alike_refresh (twins : Twins first second) : Alike Twins (refresh first) (refresh second) := by
  refine Alike.bind (alike_fitSheet twins) (fun _ _ => id) fun _ _ _ fitted => ?_
  refine Alike.bind (.ok () fitted.fitListeners) (fun _ _ => id) fun _ _ _ listening => ?_
  exact alike_onChart listening fun _ _ charts => Chart.alike_draw charts none

theorem alike_attach (twins : Twins first second) (host : HostId) :
    Alike Twins (attach host first) (attach host second) := by
  have refreshed : Alike Twins (refresh (first.placed host)) (refresh (second.placed host)) :=
    alike_refresh ⟨{ twins.chart with host := rfl }, twins.host⟩
  rw [attach_eq, attach_eq]
  unfold Chart.isAttached
  rw [twins.chart.host]
  split
  · exact .error _ twins
  · generalize refresh (first.placed host) = outcome at refreshed
    generalize refresh (second.placed host) = otherOutcome at refreshed
    cases refreshed with
    | ok _ seats => exact .ok () seats
    | error fault seats => exact .error fault seats.detach

theorem alike_update (twins : Twins first second) (data : Value) (options : OptionsSource) :
    Alike Twins (update data options first) (update data options second) := by
  rw [update_eq, update_eq, ← twins.chart.reading]
  cases first.chart.reading data options with
  | error fault => exact .error fault twins
  | ok read =>
    obtain ⟨series, options⟩ := read
    have committed : Twins { first with chart := first.chart.committed series options }
        { second with chart := second.chart.committed series options } :=
      ⟨twins.chart.committed series options, twins.host⟩
    unfold Chart.isAttached
    show Alike Twins (if first.chart.host.isSome then _ else _)
      (if second.chart.host.isSome then _ else _)
    rw [twins.chart.host]
    split
    · exact alike_refresh committed
    · exact .ok () committed

theorem alike_resize (twins : Twins first second) : Alike Twins (resize first) (resize second) := by
  have fitted : Alike Twins (fitSheet first.hidden) (fitSheet second.hidden) :=
    alike_fitSheet ⟨twins.chart.hideTooltip, twins.host⟩
  rw [resize_eq, resize_eq]
  unfold Chart.isAttached
  rw [twins.chart.host]
  split
  · generalize fitSheet first.hidden = outcome at fitted
    generalize fitSheet second.hidden = otherOutcome at fitted
    cases fitted with
    | ok _ seats => exact alike_onChart seats fun _ _ charts => Chart.alike_draw charts none
    | error fault seats => exact .error fault seats
  · exact .ok () twins

end Seat

/-! ### Pages -/

namespace Page

/-- Pages with the same hosts whose charts are twins, number by number. -/
structure Twins (first second : Page) : Prop where
  hosts : first.hosts = second.hosts
  hostNames : first.hostNames = second.hostNames
  chartNames : first.chartNames = second.chartNames
  size : first.charts.size = second.charts.size
  charts : ∀ id : Nat, Option.Rel Chart.Twins first.charts[id]? second.charts[id]?

variable {first second : Page}

theorem twins_self_of_no_charts {page : Page} (empty : page.charts = #[]) : Twins page page where
  hosts := rfl
  hostNames := rfl
  chartNames := rfl
  size := rfl
  charts id := by
    rw [empty]
    exact .none

/-- Nobody can tell twins apart. -/
theorem Twins.view (twins : Twins first second) : first.view = second.view := by
  unfold Page.view
  rw [twins.hosts]
  congr 1
  refine Array.ext_getElem? fun id => ?_
  rw [Array.getElem?_map, Array.getElem?_map]
  have charts := twins.charts id
  generalize first.charts[id]? = found at charts
  generalize second.charts[id]? = otherFound at charts
  cases charts with
  | none => rfl
  | some chartTwins => exact congrArg some chartTwins.view

theorem Twins.setChart (twins : Twins first second) (id : ChartId) {chart other : Chart}
    (charts : chart.Twins other) :
    Twins { first with charts := first.charts.setIfInBounds id chart }
      { second with charts := second.charts.setIfInBounds id other } :=
  { twins with
    size := by
      rw [Array.size_setIfInBounds, Array.size_setIfInBounds]
      exact twins.size
    charts := fun index => by
      rw [Array.getElem?_setIfInBounds, Array.getElem?_setIfInBounds, twins.size]
      split
      · split
        · exact .some charts
        · exact .none
      · exact twins.charts index }

/-- The charts of one number in two twins. -/
theorem Twins.chart_cases (twins : Twins first second) (id : ChartId) :
    (first.charts[id]? = none ∧ second.charts[id]? = none) ∨
      ∃ chart other, first.charts[id]? = some chart ∧ second.charts[id]? = some other ∧
        chart.Twins other := by
  have charts := twins.charts id
  generalize first.charts[id]? = found at charts
  generalize second.charts[id]? = otherFound at charts
  cases charts with
  | none => exact Or.inl ⟨rfl, rfl⟩
  | some chartTwins => exact Or.inr ⟨_, _, rfl, rfl, chartTwins⟩

theorem alike_onChart {action otherAction : EStateM Fault Chart Unit} (twins : Twins first second)
    (id : ChartId)
    (acted : ∀ firstChart secondChart : Chart, firstChart.Twins secondChart →
      Alike Chart.Twins (action firstChart) (otherAction secondChart)) :
    Alike Twins (onChart id action first) (onChart id otherAction second) := by
  obtain ⟨none, otherNone⟩ | ⟨chart, other, found, otherFound, chartTwins⟩ := twins.chart_cases id
  · rw [onChart_of_none _ none, onChart_of_none _ otherNone]
    exact .ok () twins
  · rw [onChart_of_some _ found, onChart_of_some _ otherFound]
    exact Alike.mapState ((acted _ _ chartTwins).mono fun _ _ charts => twins.setChart id charts)

section OnSeat

variable {action otherAction : EStateM Fault Seat Unit}
variable (acted : ∀ firstSeat secondSeat : Seat, firstSeat.Twins secondSeat →
  Alike Seat.Twins (action firstSeat) (otherAction secondSeat))

include acted

theorem alike_onSeat (twins : Twins first second) (id : ChartId) (host : HostId) :
    Alike Twins (onSeat id host action first) (onSeat id host otherAction second) := by
  obtain ⟨none, otherNone⟩ | ⟨chart, other, found, otherFound, chartTwins⟩ := twins.chart_cases id
  · rw [onSeat_of_no_chart _ none, onSeat_of_no_chart _ otherNone]
    exact .ok () twins
  · cases placed : first.hosts[host]? with
    | none =>
      rw [onSeat_of_no_host _ placed, onSeat_of_no_host _ (twins.hosts ▸ placed)]
      exact .ok () twins
    | some place =>
      rw [onSeat_of_some _ found placed, onSeat_of_some _ otherFound (twins.hosts ▸ placed)]
      refine Alike.mapState ((acted ⟨chart, place⟩ ⟨other, place⟩ ⟨chartTwins, rfl⟩).mono
        fun _ _ seats => ?_)
      refine { twins.setChart id seats.chart with hosts := ?_ }
      show first.hosts.setIfInBounds host _ = second.hosts.setIfInBounds host _
      rw [twins.hosts, seats.host]

theorem alike_onDetached (twins : Twins first second) (id : ChartId) :
    Alike Twins (onDetached id action first) (onDetached id otherAction second) := by
  rw [onDetached_eq, onDetached_eq]
  refine alike_onChart twins id fun chart other charts => ?_
  exact Alike.mapState ((acted ⟨chart, nowhere⟩ ⟨other, nowhere⟩ ⟨charts, rfl⟩).mono
    fun _ _ seats => seats.chart)

theorem alike_act (twins : Twins first second) (id : ChartId) :
    Alike Twins (act id action first) (act id otherAction second) := by
  have hosts : (first.charts[id]?).bind Chart.host = (second.charts[id]?).bind Chart.host := by
    obtain ⟨none, otherNone⟩ | ⟨chart, other, found, otherFound, chartTwins⟩ :=
      twins.chart_cases id
    · rw [none, otherNone]
    · rw [found, otherFound]
      exact chartTwins.host
  rw [act_eq, act_eq, hosts]
  cases (second.charts[id]?).bind Chart.host with
  | none => exact alike_onDetached acted twins id
  | some host => exact alike_onSeat acted twins id host

end OnSeat

theorem alike_dispatch (twins : Twins first second) (host : HostId) (event : PointerEvent) :
    Alike Twins (dispatch host event first) (dispatch host event second) := by
  unfold dispatch
  rw [get_bind, get_bind, twins.hosts]
  exact Alike.forM (fun id _ _ pages => alike_onChart pages id fun _ _ charts =>
    Chart.alike_followPointer charts event) _ twins

theorem Twins.addHost (twins : Twins first second) (name : String) (host : Host ChartId) :
    Twins (first.addHost name host) (second.addHost name host) := by
  refine { twins with hosts := ?_, hostNames := ?_ }
  · show first.hosts.push host = second.hosts.push host
    rw [twins.hosts]
  · show (name, first.hosts.size) :: first.hostNames.filter _ =
      (name, second.hosts.size) :: second.hostNames.filter _
    rw [twins.hosts, twins.hostNames]

theorem Twins.changeHost (twins : Twins first second) (host : HostId)
    (change : Host ChartId → Host ChartId) :
    Twins (first.changeHost host change) (second.changeHost host change) := by
  refine { twins with hosts := ?_ }
  show first.hosts.modify host change = second.hosts.modify host change
  rw [twins.hosts]

theorem Twins.withChart (twins : Twins first second) (name : String) {chart other : Chart}
    (charts : chart.Twins other) : Twins (first.withChart name chart) (second.withChart name other) where
  hosts := twins.hosts
  hostNames := twins.hostNames
  chartNames := by
    unfold Page.withChart
    rw [charts.id, twins.chartNames]
  size := by
    unfold Page.withChart
    rw [Array.size_push, Array.size_push, twins.size]
  charts index := by
    unfold Page.withChart
    rw [Array.getElem?_push, Array.getElem?_push, twins.size]
    split
    · exact .some charts
    · exact twins.charts index

end Page

/-! ### Operations -/

namespace Chart

/-- New charts are twins whether they keep pictures or not. -/
theorem twins_fresh (id : ChartId) (series : Series) (options : Options) (look : Look)
    (keeps otherKeeps : Bool) :
    Twins (fresh id series options { look with keepsBase := keeps })
      (fresh id series options { look with keepsBase := otherKeeps }) where
  id := rfl
  tooltip := rfl
  host := rfl
  listens := rfl
  stage := ⟨rfl, Stage.coherent_of_no_sheet rfl, Stage.coherent_of_no_sheet rfl⟩

end Chart

namespace Operation

/-- The operation with all charts made so that they keep their pictures, or so that they do not. -/
def withBases (keeps : Bool) : Operation → Operation
  | addChart name data options look =>
    addChart name data options { look with keepsBase := keeps }
  | other => other

/-- The same operation on twins ends in the same way and leaves twins. -/
theorem alike_perform (operation : Operation) (keeps otherKeeps : Bool) {first second : Page}
    (twins : first.Twins second) :
    Alike Page.Twins ((operation.withBases keeps).perform first)
      ((operation.withBases otherKeeps).perform second) := by
  cases operation with
  | addHost name width ratio =>
    unfold withBases
    rw [perform_addHost, perform_addHost]
    cases Host.create width ratio with
    | error fault => exact .error fault twins
    | ok host => exact .ok () (twins.addHost name host)
  | addChart name data options look =>
    unfold withBases
    rw [perform_addChart, perform_addChart, twins.size]
    cases Chart.firstReading data options with
    | error fault => exact .error fault twins
    | ok read =>
      exact .ok () (twins.withChart name (Chart.twins_fresh _ read.1 read.2 look keeps otherKeeps))
  | attach chart host =>
    exact Page.alike_onSeat (fun _ _ seats => Seat.alike_attach seats host) twins chart host
  | update chart data options =>
    exact Page.alike_act (fun _ _ seats => Seat.alike_update seats data options) twins chart
  | resize chart => exact Page.alike_act (fun _ _ seats => Seat.alike_resize seats) twins chart
  | detach chart => exact Page.alike_act (fun _ _ seats => .ok () seats.detach) twins chart
  | setHost host width ratio => exact .ok () (twins.changeHost host _)
  | draw chart highlight =>
    exact Page.alike_onChart twins chart fun _ _ charts => Chart.alike_draw charts highlight
  | point chart event =>
    exact Page.alike_onChart twins chart fun _ _ charts => Chart.alike_followPointer charts event
  | tell host event => exact Page.alike_dispatch twins host event

end Operation

namespace Page

theorem history_of_twins (operations : List Operation) (keeps otherKeeps : Bool)
    {first second : Page} (twins : Twins first second) :
    history (operations.map (·.withBases keeps)) first =
      history (operations.map (·.withBases otherKeeps)) second := by
  induction operations generalizing first second with
  | nil => rfl
  | cons operation rest inductionHypothesis =>
    have alike := operation.alike_perform keeps otherKeeps twins
    rw [List.map_cons, List.map_cons, history, history, alike.results, alike.states.view,
      inductionHypothesis alike.states]

/-- Whether charts keep the pictures of their base layers cannot be seen: after every operation of a
script, whatever gives up on the way, the faults and all that is seen are the same. -/
theorem history_withBases (operations : List Operation) :
    history (operations.map (·.withBases true)) {} =
      history (operations.map (·.withBases false)) {} :=
  history_of_twins operations true false (twins_self_of_no_charts rfl)

end Page

end SeriesChart
