/-
This file says in one equation each what the steps in the life of a chart do: following an
event, taking new data and options, fitting the sheet to the host, attaching, updating and
resizing. What a step reads comes first and may refuse; the state is changed only after.
-/

import SeriesChart.Display.Page
import SeriesChart.Proofs.Computation

namespace SeriesChart

theorem Tooltip.onTarget_eq {Target : Type} (action : EStateM Fault Target Unit)
    (shown : Tooltip × Target) :
    onTarget action shown = (action shown.2).mapState fun target => (shown.1, target) := by
  obtain ⟨tooltip, target⟩ := shown
  dsimp only [onTarget]
  cases action target <;> rfl

/-! ### Charts -/

namespace Chart

theorem onTooltip_eq (action : Tooltip.Showing Stage Unit) (chart : Chart) :
    onTooltip action chart = (action (chart.tooltip, chart.stage)).mapState fun shown =>
      { chart with tooltip := shown.1, stage := shown.2 } := by
  unfold onTooltip
  cases action (chart.tooltip, chart.stage) <;> rfl

theorem draw_eq (highlight : Option Highlight) (chart : Chart) :
    draw highlight chart =
      (Stage.render (highlight.orElse fun _ => chart.tooltip.highlight) chart.stage).mapState
        ({ chart with stage := · }) := by
  show onTooltip (Tooltip.onTarget (Stage.render _)) chart = _
  rw [onTooltip_eq, Tooltip.onTarget_eq]
  show EStateM.Result.mapState _ (EStateM.Result.mapState _ (Stage.render _ chart.stage)) = _
  cases Stage.render (highlight.orElse fun _ => chart.tooltip.highlight) chart.stage <;> rfl

/-- How the tooltip and the stage of a chart follow an event. -/
def response (stage : Stage) (event : PointerEvent) : Tooltip.Showing Stage Unit :=
  if stage.options.showTooltip then
    if event.kind = PointerKind.leave.name then Tooltip.leave Stage.render
    else
      match stage.frame, event.x, event.y with
      | none, _, _ | _, .absent, _ | _, _, .absent => pure ()
      | some frame, x, y =>
        Tooltip.moveTo (.standard stage.look.formats) Stage.render (fieldOf frame) x y
  else pure ()

theorem followPointer_eq (event : PointerEvent) (chart : Chart) :
    followPointer event chart = onTooltip (response chart.stage event) chart := by
  unfold followPointer response
  rw [get_bind]
  split
  · split
    · rfl
    · generalize chart.stage.frame = frame, event.x = x, event.y = y
      cases frame with
      | none => rfl
      | some frame => cases x <;> cases y <;> rfl
  · rfl

/-- An event is passed over, hides the tooltip, or moves it over the frame of the last drawing. -/
theorem response_cases (stage : Stage) (event : PointerEvent) :
    response stage event = pure () ∨ response stage event = Tooltip.leave Stage.render ∨
      ∃ frame, stage.frame = some frame ∧ response stage event =
        Tooltip.moveTo (.standard stage.look.formats) Stage.render (fieldOf frame) event.x event.y := by
  unfold response
  split
  · split
    · exact Or.inr (Or.inl rfl)
    · split
      · exact Or.inl rfl
      · exact Or.inl rfl
      · exact Or.inl rfl
      · rename_i frame drawn _ _
        exact Or.inr (Or.inr ⟨frame, drawn, rfl⟩)
  · exact Or.inl rfl

/-- What the data and options of a new chart are read as. -/
def firstReading (data : Value) (options : OptionsSource) : Except Fault (Series × Options) := do
  let options ← options.resolve
  let series ← Series.ofData options.recordKeys data
  return (series, options)

/-- A chart that was not attached yet. -/
def fresh (id : ChartId) (series : Series) (options : Options) (look : Look) : Chart :=
  { id, stage := { look, series, options } }

theorem create_eq (id : ChartId) (data : Value) (options : OptionsSource) (look : Look) :
    create id data options look =
      match firstReading data options with
      | .ok (series, options) => .ok (fresh id series options look)
      | .error fault => .error fault := by
  unfold create firstReading
  cases options.resolve with
  | error fault => rfl
  | ok resolved =>
    show Except.bind (Series.ofData resolved.recordKeys data) _ =
      match (Series.ofData resolved.recordKeys data).bind _ with
        | .ok (series, options) => .ok (fresh id series options look)
        | .error fault => .error fault
    cases Series.ofData resolved.recordKeys data <;> rfl

/-- What new data and options are read as; absent ones stay as they are. -/
def reading (chart : Chart) (data : Value) (options : OptionsSource) :
    Except Fault (Series × Options) := do
  let options ← options.resolveOr chart.stage.options
  let series ← Series.ofDataOr chart.stage.series options.recordKeys data
  return (series, options)

/-- The chart with a new series and new options, without a tooltip and without a picture kept. -/
def committed (chart : Chart) (series : Series) (options : Options) : Chart :=
  { chart.hideTooltip with stage := { chart.stage with series, options }.forgetBase }

/-- What cannot be read changes nothing. -/
theorem commit_eq (data : Value) (options : OptionsSource) (chart : Chart) :
    commit data options chart =
      match chart.reading data options with
      | .ok (series, options) => .ok () (chart.committed series options)
      | .error fault => .error fault chart := by
  unfold commit reading
  rw [get_bind]
  cases options.resolveOr chart.stage.options with
  | error fault => rfl
  | ok resolved =>
    show EStateM.bind (Fault.lift (Series.ofDataOr chart.stage.series resolved.recordKeys data)) _
      chart = match (Series.ofDataOr chart.stage.series resolved.recordKeys data).bind _ with
        | .ok (series, options) => .ok () (chart.committed series options)
        | .error fault => .error fault chart
    cases Series.ofDataOr chart.stage.series resolved.recordKeys data <;> rfl

end Chart

/-! ### Charts on their hosts -/

/-- A clear sheet for what is to be drawn, of the given width and ratio. -/
def Stage.blankSheet (stage : Stage) (width ratio : Float) : Except Fault Sheet :=
  Sheet.create (.float width) (.int stage.options.height) (.float ratio)
    stage.look.theme.background stage.look.theme.fontFamily stage.look.fonts

namespace Seat

theorem onChart_eq (action : EStateM Fault Chart Unit) (seat : Seat) :
    onChart action seat = (action seat.chart).mapState ({ seat with chart := · }) := by
  unfold onChart
  cases action seat.chart <;> rfl

/-- The clear sheet that the chart needs on its host; none if the one it has fits. -/
def newSheet (seat : Seat) : Except Fault (Option Sheet) := do
  let width ← usableWidth seat.host
  let ratio ← usableRatio seat.host
  if seat.chart.stage.sheet.any (fits · width ratio seat.chart.stage.options.height) then
    return none
  return some (← seat.chart.stage.blankSheet width ratio)

/-- The chart with a new sheet and without a picture kept. -/
def withSheet (seat : Seat) (sheet : Sheet) : Seat :=
  { seat with chart := { seat.chart with
    stage := { seat.chart.stage with sheet := some sheet }.forgetBase } }

/-- A sheet is kept because it fits, or a clear one is made. -/
theorem newSheet_eq_ok {seat : Seat} {found : Option Sheet} (equal : seat.newSheet = .ok found) :
    ∃ width ratio, usableWidth seat.host = .ok width ∧ usableRatio seat.host = .ok ratio ∧
      ((found = none ∧ ∃ sheet, seat.chart.stage.sheet = some sheet ∧
          fits sheet width ratio seat.chart.stage.options.height = true) ∨
        ∃ blank, found = some blank ∧ seat.chart.stage.blankSheet width ratio = .ok blank) := by
  obtain ⟨width, widthRead, equal⟩ := except_bind_eq_ok equal
  obtain ⟨ratio, ratioRead, equal⟩ := except_bind_eq_ok equal
  refine ⟨width, ratio, widthRead, ratioRead, ?_⟩
  split at equal
  · rename_i fitting
    cases equal
    exact Or.inl ⟨rfl, (Option.any_eq_true _ _).mp fitting⟩
  · obtain ⟨blank, made, equal⟩ := except_bind_eq_ok equal
    cases equal
    exact Or.inr ⟨blank, rfl, made⟩

theorem fitSheet_eq (seat : Seat) :
    fitSheet seat =
      match seat.newSheet with
      | .ok none => .ok () seat
      | .ok (some sheet) => .ok () (seat.withSheet sheet)
      | .error fault => .error fault seat := by
  unfold fitSheet newSheet
  rw [get_bind]
  cases usableWidth seat.host with
  | error fault => rfl
  | ok width =>
    cases usableRatio seat.host with
    | error fault => rfl
    | ok ratio =>
      show (if seat.chart.stage.sheet.any (fits · width ratio seat.chart.stage.options.height) then
          pure () else _ : EStateM Fault Seat Unit) seat =
        match (if seat.chart.stage.sheet.any (fits · width ratio seat.chart.stage.options.height)
          then pure none else _ : Except Fault (Option Sheet)) with
        | .ok none => _
        | .ok (some sheet) => _
        | .error fault => _
      split
      · rfl
      · unfold Stage.blankSheet
        cases Sheet.create (.float width) (.int seat.chart.stage.options.height) (.float ratio)
          seat.chart.stage.look.theme.background seat.chart.stage.look.theme.fontFamily
          seat.chart.stage.look.fonts <;> rfl

/-- Fitting the listeners changes nothing else of the chart. -/
theorem chart_fitListeners (seat : Seat) :
    seat.fitListeners.chart = { seat.chart with listens := seat.fitListeners.chart.listens } := by
  unfold fitListeners
  split
  · split <;> rfl
  · rfl

/-- The chart knows its host. -/
def placed (seat : Seat) (host : HostId) : Seat :=
  { seat with chart := { seat.chart with host := some host } }

/-- The chart without its tooltip. -/
def hidden (seat : Seat) : Seat := { seat with chart := seat.chart.hideTooltip }

theorem refresh_eq (seat : Seat) :
    refresh seat =
      match fitSheet seat with
      | .ok _ seat => onChart (Chart.draw none) seat.fitListeners
      | .error fault seat => .error fault seat := by
  show EStateM.bind fitSheet _ seat = _
  unfold EStateM.bind
  cases fitSheet seat <;> rfl

theorem attach_eq (host : HostId) (seat : Seat) :
    attach host seat =
      if seat.chart.isAttached then .error .alreadyAttached seat
      else
        match refresh (seat.placed host) with
        | .ok _ seat => .ok () seat
        | .error fault seat => .error fault seat.detach := by
  unfold attach
  rw [get_bind]
  split
  · rfl
  · show EStateM.tryCatch refresh _ (seat.placed host) = _
    unfold EStateM.tryCatch
    cases refresh (seat.placed host) <;> rfl

theorem update_eq (data : Value) (options : OptionsSource) (seat : Seat) :
    update data options seat =
      match seat.chart.reading data options with
      | .ok (series, options) =>
        let seat := { seat with chart := seat.chart.committed series options }
        if seat.chart.isAttached then refresh seat else .ok () seat
      | .error fault => .error fault seat := by
  show EStateM.bind (onChart (Chart.commit data options)) _ seat = _
  unfold EStateM.bind
  rw [onChart_eq, Chart.commit_eq]
  cases seat.chart.reading data options with
  | error fault => rfl
  | ok read =>
    obtain ⟨series, options⟩ := read
    cases attached : (seat.chart.committed series options).isAttached with
    | true =>
      show (if (seat.chart.committed series options).isAttached then refresh else pure ()) _ =
        (if (seat.chart.committed series options).isAttached then refresh _ else .ok () _)
      rw [attached]
      rfl
    | false =>
      show (if (seat.chart.committed series options).isAttached then refresh else pure ()) _ =
        (if (seat.chart.committed series options).isAttached then refresh _ else .ok () _)
      rw [attached]
      rfl

theorem resize_eq (seat : Seat) :
    resize seat =
      if seat.chart.isAttached then
        match fitSheet seat.hidden with
        | .ok _ seat => onChart (Chart.draw none) seat
        | .error fault seat => .error fault seat
      else .ok () seat := by
  unfold resize
  rw [get_bind]
  split
  · show EStateM.bind fitSheet _ seat.hidden = _
    unfold EStateM.bind
    cases fitSheet seat.hidden <;> rfl
  · rfl

end Seat

/-! ### Charts and hosts of a page -/

namespace Page

/-- The page with one more chart. -/
def withChart (page : Page) (name : String) (chart : Chart) : Page :=
  { page with
    charts := page.charts.push chart
    chartNames := (name, chart.id) :: page.chartNames.filter (·.1 ≠ name) }

theorem addChart_eq (page : Page) (name : String) (data : Value) (options : OptionsSource)
    (look : Look) :
    page.addChart name data options look =
      match Chart.firstReading data options with
      | .ok (series, options) =>
        .ok (page.withChart name (.fresh page.charts.size series options look))
      | .error fault => .error fault := by
  unfold addChart
  rw [Chart.create_eq]
  cases Chart.firstReading data options <;> rfl

variable {page : Page} {id : ChartId} {host : HostId} {chart : Chart} {place : Host ChartId}

theorem onChart_of_some (action : EStateM Fault Chart Unit) (found : page.charts[id]? = some chart) :
    onChart id action page = (action chart).mapState fun chart =>
      { page with charts := page.charts.setIfInBounds id chart } := by
  unfold onChart
  rw [found]
  dsimp only
  cases action chart <;> rfl

theorem onChart_of_none (action : EStateM Fault Chart Unit) (none : page.charts[id]? = none) :
    onChart id action page = .ok () page := by
  unfold onChart
  rw [none]

theorem onSeat_of_some (action : EStateM Fault Seat Unit) (found : page.charts[id]? = some chart)
    (placed : page.hosts[host]? = some place) :
    onSeat id host action page = (action ⟨chart, place⟩).mapState (page.putBack id host) := by
  unfold onSeat
  rw [found, placed]
  dsimp only
  cases action ⟨chart, place⟩ <;> rfl

theorem onSeat_of_no_chart (action : EStateM Fault Seat Unit) (none : page.charts[id]? = none) :
    onSeat id host action page = .ok () page := by
  unfold onSeat
  rw [none]

theorem onSeat_of_no_host (action : EStateM Fault Seat Unit) (none : page.hosts[host]? = none) :
    onSeat id host action page = .ok () page := by
  unfold onSeat
  rw [none]
  cases page.charts[id]? <;> rfl

/-- What succeeds on a chart is its action, unless there is no such chart. -/
theorem onChart_cases {last : Page} {action : EStateM Fault Chart Unit}
    (done : onChart id action page = .ok () last) :
    (page.charts[id]? = none ∧ last = page) ∨ ∃ chart next, page.charts[id]? = some chart ∧
      action chart = .ok () next ∧
      last = { page with charts := page.charts.setIfInBounds id next } := by
  cases found : page.charts[id]? with
  | none =>
    rw [onChart_of_none _ found] at done
    cases done
    exact Or.inl ⟨rfl, rfl⟩
  | some chart =>
    rw [onChart_of_some _ found] at done
    obtain ⟨next, acted, rfl⟩ := EStateM.Result.mapState_eq_ok done
    exact Or.inr ⟨chart, next, rfl, acted, rfl⟩

/-- What succeeds on a chart and a host is their action, unless there is no such chart or host. -/
theorem onSeat_cases {last : Page} {action : EStateM Fault Seat Unit}
    (done : onSeat id host action page = .ok () last) :
    ((page.charts[id]? = none ∨ page.hosts[host]? = none) ∧ last = page) ∨
      ∃ chart place seat, page.charts[id]? = some chart ∧ page.hosts[host]? = some place ∧
        action ⟨chart, place⟩ = .ok () seat ∧ last = page.putBack id host seat := by
  cases found : page.charts[id]? with
  | none =>
    rw [onSeat_of_no_chart _ found] at done
    cases done
    exact Or.inl ⟨Or.inl rfl, rfl⟩
  | some chart =>
    cases placed : page.hosts[host]? with
    | none =>
      rw [onSeat_of_no_host _ placed] at done
      cases done
      exact Or.inl ⟨Or.inr rfl, rfl⟩
    | some place =>
      rw [onSeat_of_some _ found placed] at done
      obtain ⟨seat, acted, rfl⟩ := EStateM.Result.mapState_eq_ok done
      exact Or.inr ⟨chart, place, seat, rfl, rfl, acted, rfl⟩

/-- The host that stands in for that of a chart without one. -/
def nowhere : Host ChartId := { width := .float 0.0, ratio := .float 1.0 }

/-- What an action on a seat does to a chart without a host. -/
def alone (action : EStateM Fault Seat Unit) : EStateM Fault Chart Unit := fun chart =>
  (action ⟨chart, nowhere⟩).mapState Seat.chart

theorem onDetached_eq (id : ChartId) (action : EStateM Fault Seat Unit) :
    onDetached id action = onChart id (alone action) := by
  unfold onDetached
  congr 1
  funext chart
  unfold alone nowhere
  cases action ⟨chart, { width := .float 0.0, ratio := .float 1.0 }⟩ <;> rfl

/-- What succeeds on a chart without a host is its action, unless there is no such chart. -/
theorem onDetached_cases {last : Page} {action : EStateM Fault Seat Unit}
    (done : onDetached id action page = .ok () last) :
    (page.charts[id]? = none ∧ last = page) ∨ ∃ chart seat, page.charts[id]? = some chart ∧
      action ⟨chart, nowhere⟩ = .ok () seat ∧
      last = { page with charts := page.charts.setIfInBounds id seat.chart } := by
  rw [onDetached_eq] at done
  obtain absent | ⟨chart, next, found, acted, rfl⟩ := onChart_cases done
  · exact Or.inl absent
  · obtain ⟨seat, seatActed, rfl⟩ := EStateM.Result.mapState_eq_ok acted
    exact Or.inr ⟨chart, seat, found, seatActed, rfl⟩

theorem setIfInBounds_self {Item : Type} {items : Array Item} {index : Nat} {item : Item}
    (found : items[index]? = some item) : items.setIfInBounds index item = items := by
  obtain ⟨inside, rfl⟩ := Array.getElem?_eq_some_iff.mp found
  rw [Array.setIfInBounds_def, dif_pos inside, Array.set_getElem_self]

/-- A chart and a host that did not change are put back where they were. -/
theorem putBack_self (found : page.charts[id]? = some chart)
    (placed : page.hosts[host]? = some place) : page.putBack id host ⟨chart, place⟩ = page := by
  unfold putBack
  rw [setIfInBounds_self found, setIfInBounds_self placed]

theorem act_eq (id : ChartId) (action : EStateM Fault Seat Unit) (page : Page) :
    act id action page =
      match (page.charts[id]?).bind Chart.host with
      | some host => onSeat id host action page
      | none => onDetached id action page := by
  unfold act
  rw [get_bind]
  cases (page.charts[id]?).bind Chart.host <;> rfl

end Page

end SeriesChart
