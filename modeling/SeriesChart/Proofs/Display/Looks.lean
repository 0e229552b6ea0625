/-
This file proves that a chart keeps its look for its whole life. A redrawing changes what
is on the sheet and what is remembered of it, new data change the series, new options the
options, and attaching and detaching the host and the listeners; nothing that is done to a
page reaches the theme, the formats, the padding or the fonts of a chart.
-/

import SeriesChart.Proofs.Display.Soundness

namespace SeriesChart

/-! ### What is drawn -/

namespace Stage

/-- What is drawn, and how. -/
def HasSubject (look : Look) (series : Series) (options : Options) (stage : Stage) : Prop :=
  stage.look = look ∧ stage.series = series ∧ stage.options = options

variable {look : Look} {series : Series} {options : Options}

theorem keeps_subject_onCanvas (painting : Painting) :
    Keeps (HasSubject look series options) (onCanvas painting) := by
  intro stage held
  cases placed : stage.sheet with
  | none =>
    unfold onCanvas
    rw [placed]
    exact held
  | some sheet =>
    rw [onCanvas_eq painting placed, EStateM.Result.state_mapState]
    exact held

theorem keeps_subject_drawBase (sheet : Sheet) (frame : Frame) :
    Keeps (HasSubject look series options) (drawBase sheet frame) := by
  refine keeps_bind keeps_get fun stage => ?_
  split
  · exact keeps_subject_onCanvas _
  · refine keeps_bind (keeps_subject_onCanvas _) fun _ => keeps_modify fun stage held => ?_
    unfold keepBase
    split
    · split <;> exact held
    · exact held

/-- A redrawing leaves what is drawn. -/
theorem keeps_subject_render (highlight : Option Highlight) :
    Keeps (HasSubject look series options) (render highlight) := by
  refine keeps_bind keeps_get fun stage => ?_
  split
  · exact keeps_pure ()
  · refine keeps_bind (keeps_modify fun _ held => held) fun _ => ?_
    split
    · exact keeps_bind (keeps_subject_drawBase _ _) fun _ => keeps_subject_onCanvas _
    · exact keeps_bind (keeps_subject_onCanvas _) fun _ => keeps_modify fun _ held => held

theorem keeps_look_render (highlight : Option Highlight) :
    Keeps (fun stage => stage.look = look) (render highlight) := fun stage held =>
  (keeps_subject_render highlight stage ⟨held, rfl, rfl⟩).1

end Stage

/-! ### Charts -/

namespace Chart

/-- The chart looks as it was made to look. -/
def HasLook (look : Look) (chart : Chart) : Prop := chart.stage.look = look

variable {look : Look}

theorem keeps_look_draw (highlight : Option Highlight) :
    Keeps (HasLook look) (draw highlight) := by
  intro chart held
  rw [draw_eq, EStateM.Result.state_mapState]
  exact Stage.keeps_look_render _ chart.stage held

theorem keeps_look_followPointer (event : PointerEvent) :
    Keeps (HasLook look) (followPointer event) := by
  intro chart held
  have kept : Keeps (fun shown : Tooltip × Stage => shown.2.look = look)
      (response chart.stage event) := by
    obtain passed | hides | ⟨frame, _, moves⟩ := response_cases chart.stage event
    · rw [passed]
      exact keeps_pure ()
    · rw [hides]
      exact Tooltip.keeps_leave Stage.keeps_look_render
    · rw [moves]
      exact Tooltip.keeps_moveTo Stage.keeps_look_render _ _ _ _
  rw [followPointer_eq, onTooltip_eq, EStateM.Result.state_mapState]
  exact kept (chart.tooltip, chart.stage) held

end Chart

/-! ### Charts on their hosts -/

namespace Seat

/-- The chart on the host looks as it was made to look. -/
def HasLook (look : Look) (seat : Seat) : Prop := seat.chart.HasLook look

variable {look : Look}

theorem keeps_look_draw (highlight : Option Highlight) :
    Keeps (HasLook look) (onChart (Chart.draw highlight)) := by
  intro seat held
  rw [onChart_eq, EStateM.Result.state_mapState]
  exact Chart.keeps_look_draw highlight seat.chart held

theorem keeps_look_fitSheet : Keeps (HasLook look) fitSheet := by
  intro seat held
  rw [fitSheet_eq]
  split <;> exact held

theorem keeps_look_refresh : Keeps (HasLook look) refresh := by
  refine keeps_bind keeps_look_fitSheet fun _ => keeps_bind (keeps_modify fun seat held => ?_)
    fun _ => keeps_look_draw none
  unfold HasLook
  rw [chart_fitListeners]
  exact held

theorem keeps_look_attach (host : HostId) : Keeps (HasLook look) (attach host) := by
  intro seat held
  rw [attach_eq]
  split
  · exact held
  · have drawn : HasLook look (refresh (seat.placed host)).state := keeps_look_refresh _ held
    cases ended : refresh (seat.placed host) with
    | ok _ last =>
      rw [ended] at drawn
      exact drawn
    | error fault last =>
      rw [ended] at drawn
      exact drawn

theorem keeps_look_update (data : Value) (options : OptionsSource) :
    Keeps (HasLook look) (update data options) := by
  intro seat held
  rw [update_eq]
  cases seat.chart.reading data options with
  | error fault => exact held
  | ok read =>
    show HasLook look (if seat.chart.isAttached then refresh _ else .ok () _).state
    split
    · exact keeps_look_refresh _ held
    · exact held

theorem keeps_look_detach : Keeps (HasLook look) (modify detach) := keeps_modify fun _ held => held

theorem keeps_look_resize : Keeps (HasLook look) resize := by
  refine keeps_bind keeps_get fun seat => ?_
  split
  · exact keeps_bind (keeps_modify fun _ held => held) fun _ =>
      keeps_bind keeps_look_fitSheet fun _ => keeps_look_draw none
  · exact keeps_pure ()

end Seat

/-! ### Pages -/

namespace Page

/-- There is a chart of this number, and it looks as it was made to look. -/
def HasLook (id : ChartId) (look : Look) (page : Page) : Prop :=
  ∃ chart, page.charts[id]? = some chart ∧ chart.HasLook look

variable {id : ChartId} {look : Look}

/-- The chart that is put back looks as it did, whether it is the one that is asked for or not. -/
theorem HasLook.setChart {page : Page} (held : page.HasLook id look) {other : ChartId}
    {chart last : Chart} (found : page.charts[other]? = some chart)
    (kept : chart.HasLook look → last.HasLook look) :
    ∃ own, (page.charts.setIfInBounds other last)[id]? = some own ∧ own.HasLook look := by
  obtain ⟨own, ownFound, looks⟩ := held
  rw [charts_setChart page last found]
  split
  · rename_i same
    rw [same, found] at ownFound
    cases ownFound
    exact ⟨last, rfl, kept looks⟩
  · exact ⟨own, ownFound, looks⟩

theorem keeps_look_onChart {action : EStateM Fault Chart Unit}
    (kept : Keeps (Chart.HasLook look) action) (other : ChartId) :
    Keeps (HasLook id look) (onChart other action) := by
  intro page held
  cases found : page.charts[other]? with
  | none =>
    rw [onChart_of_none _ found]
    exact held
  | some chart =>
    rw [onChart_of_some _ found, EStateM.Result.state_mapState]
    exact held.setChart found (kept chart)

section Seats

variable {action : EStateM Fault Seat Unit} (kept : Keeps (Seat.HasLook look) action)

include kept

theorem keeps_look_onSeat (other : ChartId) (host : HostId) :
    Keeps (HasLook id look) (onSeat other host action) := by
  intro page held
  cases found : page.charts[other]? with
  | none =>
    rw [onSeat_of_no_chart _ found]
    exact held
  | some chart =>
    cases placed : page.hosts[host]? with
    | none =>
      rw [onSeat_of_no_host _ placed]
      exact held
    | some place =>
      rw [onSeat_of_some _ found placed, EStateM.Result.state_mapState]
      exact held.setChart found (kept ⟨chart, place⟩)

theorem keeps_look_act (other : ChartId) : Keeps (HasLook id look) (act other action) := by
  intro page held
  rw [act_eq]
  cases (page.charts[other]?).bind Chart.host with
  | some host => exact keeps_look_onSeat kept other host page held
  | none =>
    show HasLook id look (onDetached other action page).state
    rw [onDetached_eq]
    refine keeps_look_onChart (fun chart looks => ?_) other page held
    unfold alone
    rw [EStateM.Result.state_mapState]
    exact kept ⟨chart, nowhere⟩ looks

end Seats

/-- Whatever is done to a page, its charts keep their looks. -/
theorem keeps_look_perform (operation : Operation) :
    Keeps (HasLook id look) operation.perform := by
  cases operation with
  | addHost name width ratio =>
    exact keeps_bind (keeps_lift _) fun _ => keeps_modify fun _ held => held
  | addChart name data options other =>
    intro page held
    rw [Operation.perform_addChart]
    cases Chart.firstReading data options with
    | error fault => exact held
    | ok read =>
      obtain ⟨chart, found, looks⟩ := held
      have inside := (Array.getElem?_eq_some_iff.mp found).1
      refine ⟨chart, ?_, looks⟩
      show (page.charts.push _)[id]? = some chart
      rw [Array.getElem?_push, if_neg (Nat.ne_of_lt inside)]
      exact found
  | attach chart host => exact keeps_look_onSeat (Seat.keeps_look_attach host) chart host
  | update chart data options => exact keeps_look_act (Seat.keeps_look_update data options) chart
  | resize chart => exact keeps_look_act Seat.keeps_look_resize chart
  | detach chart => exact keeps_look_act Seat.keeps_look_detach chart
  | setHost host width ratio => exact keeps_modify fun _ held => held
  | draw chart highlight => exact keeps_look_onChart (Chart.keeps_look_draw highlight) chart
  | point chart event => exact keeps_look_onChart (Chart.keeps_look_followPointer event) chart
  | tell host event =>
    exact keeps_bind keeps_get fun _ =>
      keeps_forM (fun chart => keeps_look_onChart (Chart.keeps_look_followPointer event) chart) _

/-- A chart has the look that it was made with for its whole life. -/
theorem hasLook_after (page : Page) (name : String) {data : Value} {options : OptionsSource}
    {read : Series × Options} (accepted : Chart.firstReading data options = .ok read) (look : Look)
    (operations : List Operation) :
    (page.after (.addChart name data options look :: operations)).HasLook page.charts.size
      look := by
  have made : HasLook page.charts.size look
      (page.withChart name (.fresh page.charts.size read.1 read.2 look)) :=
    ⟨_, Array.getElem?_push_size, rfl⟩
  rw [after_cons, Operation.perform_addChart, accepted]
  exact holds_after keeps_look_perform made operations

end Page

end SeriesChart
