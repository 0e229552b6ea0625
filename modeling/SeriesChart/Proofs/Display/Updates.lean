/-
This file says when an update that gives up leaves a page as it was. Data and options that
cannot be read change nothing, and a chart without a host is not drawn. But once they were
read the old ones are gone, and so is the tooltip; when the drawing gives up after that,
what is seen is the new chart as far as it was painted.
-/

import SeriesChart.Proofs.Display.Freshness

namespace SeriesChart

namespace Seat

variable {id : ChartId} {host : HostId} {others : ChartId → PointerKind → Nat} {seat last : Seat}

/-! ### Drawings that give up -/

/-- What is seen of a chart when drawing it anew was given up: the chart as it is if there is no clear
sheet for its host, or else its picture as far as it was painted. -/
def spoiledView (seat : Seat) : ChartView :=
  match seat.blank with
  | .ok blank =>
    seat.drawnView ⟨blank.device, (seat.chart.stage.painting blank.device none blank.canvas).state⟩
  | .error _ => seat.chart.view

theorem spoiledView_of_refused {fault : Fault} (refused : seat.blank = .error fault) :
    seat.spoiledView = seat.chart.view := by
  unfold spoiledView
  rw [refused]

theorem spoiledView_of_made {blank : Sheet} (made : seat.blank = .ok blank) :
    seat.spoiledView = seat.drawnView
      ⟨blank.device, (seat.chart.stage.painting blank.device none blank.canvas).state⟩ := by
  unfold spoiledView
  rw [made]

/-- A chart that listens as its options want it begins and ends nothing. -/
theorem host_fitListeners (fits : seat.chart.listens = wantedListens seat.chart.stage.options) :
    seat.fitListeners.host = seat.host := by
  unfold fitListeners
  split
  · rename_i wanted
    unfold wantedListens at fits
    rw [if_pos wanted] at fits
    rw [fits]
    rfl
  · rename_i unwanted
    unfold wantedListens at fits
    rw [if_neg unwanted] at fits
    show seat.chart.listens.foldr _ seat.host = seat.host
    rw [fits]
    rfl

/-- What a drawing that was given up leaves of the chart, and of its host if the chart listens as
before. -/
theorem refresh_eq_error {fault : Fault} (occupied : seat.Occupied id host others)
    (hidden : seat.chart.tooltip = .hidden) (refused : refresh seat = .error fault last) :
    seat.drawnSheet = .error fault ∧ last.chart.view = seat.spoiledView ∧
      (last.chart.listens = seat.chart.listens → last.host = seat.host) := by
  obtain ⟨other, noBlank, ended⟩ | ⟨blank, image, made, drawn, drawnAs⟩ :=
    refresh_eq_painting occupied hidden
  · rw [refused] at ended
    cases ended
    rw [drawnSheet_of_refused noBlank, spoiledView_of_refused noBlank]
    exact ⟨rfl, rfl, fun _ => rfl⟩
  · rw [refused] at drawn
    rw [drawnSheet_of_made made, spoiledView_of_made made]
    cases painted : seat.chart.stage.painting blank.device none blank.canvas with
    | ok _ canvas =>
      rw [painted] at drawn
      cases drawn
    | error fault canvas =>
      rw [painted] at drawn
      cases drawn
      refine ⟨rfl, (drawnAs canvas).view, fun same => ?_⟩
      rw [(drawnAs canvas).host]
      refine host_fitListeners ?_
      rw [← same]
      exact congrArg ChartView.listens (drawnAs canvas).view

end Seat

/-! ### Updates on a page -/

namespace Page

variable {page : Page} {id : ChartId} {host : HostId} {chart : Chart} {place : Host ChartId}

/-- The host of a chart exists. -/
theorem Sound.exists_host (sound : page.Sound) (found : page.charts[id]? = some chart)
    (hosted : chart.host = some host) : ∃ place, page.hosts[host]? = some place :=
  ⟨_, Array.getElem?_eq_getElem (sound.known id chart host found hosted)⟩

/-- A chart on its host can be relied on with new data and options. -/
theorem Sound.occupied_committed (sound : page.Sound) (found : page.charts[id]? = some chart)
    (hosted : chart.host = some host) (placed : page.hosts[host]? = some place) (series : Series)
    (options : Options) :
    Seat.Occupied id host (fun other kind => place.count kind other)
      ⟨chart.committed series options, place⟩ := by
  have seatSound := sound.seat found placed fun other otherHosted =>
    Option.some.inj (otherHosted.symm.trans hosted)
  refine ⟨seatSound.withChart (seatSound.chart.committed series options) ⟨rfl, rfl, rfl⟩,
    fun none => ?_⟩
  rw [show chart.host = .none from none] at hosted
  cases hosted

/-- A page looks as before just when the chart that was put back does and its host is as before. -/
theorem view_putBack_iff (found : page.charts[id]? = some chart)
    (placed : page.hosts[host]? = some place) (seat : Seat) :
    (page.putBack id host seat).view = page.view ↔
      seat.chart.view = chart.view ∧ seat.host = place := by
  constructor
  · intro same
    have hosts := congrArg (fun view : PageView => view.hosts[host]?) same
    change (page.putBack id host seat).hosts[host]? = page.hosts[host]? at hosts
    rw [hosts_putBack page id seat placed, if_pos rfl, placed] at hosts
    exact ⟨(views_setChart_iff found seat.chart).mp (congrArg PageView.charts same),
      Option.some.inj hosts⟩
  · rintro ⟨chartSame, rfl⟩
    have charts : (page.putBack id host seat).charts.map Chart.view = page.charts.map Chart.view :=
      (views_setChart_iff found seat.chart).mpr chartSame
    have hosts : (page.putBack id host seat).hosts = page.hosts := by
      refine Array.ext_getElem? fun other => ?_
      rw [hosts_putBack page id seat placed]
      split
      · rename_i own
        rw [own, placed]
      · rfl
    unfold view
    rw [charts, hosts]

variable {data : Value} {options : OptionsSource}

/-- An update of a chart with a host concerns this chart and this host. -/
theorem update_of_hosted (found : page.charts[id]? = some chart) (hosted : chart.host = some host)
    (placed : page.hosts[host]? = some place) :
    update id data options page =
      (Seat.update data options ⟨chart, place⟩).mapState (page.putBack id host) := by
  have bound : (page.charts[id]?).bind Chart.host = some host := by
    rw [found]
    exact hosted
  unfold update
  rw [act_eq, bound]
  exact onSeat_of_some _ found placed

/-- Once its data and options were read, a chart on its host is drawn anew with them. -/
theorem update_of_read {series : Series} {newOptions : Options}
    (found : page.charts[id]? = some chart) (hosted : chart.host = some host)
    (placed : page.hosts[host]? = some place)
    (read : chart.reading data options = .ok (series, newOptions)) :
    update id data options page =
      (Seat.refresh ⟨chart.committed series newOptions, place⟩).mapState (page.putBack id host) := by
  have attached : (chart.committed series newOptions).isAttached = true :=
    congrArg Option.isSome hosted
  rw [update_of_hosted found hosted placed, Seat.update_eq]
  dsimp only
  rw [read]
  exact congrArg _ (if_pos attached)

/-- What cannot be read changes nothing. -/
theorem update_of_unread {fault : Fault} (found : page.charts[id]? = some chart)
    (hosted : chart.host = some host) (placed : page.hosts[host]? = some place)
    (unread : chart.reading data options = .error fault) :
    update id data options page = .error fault page := by
  rw [update_of_hosted found hosted placed, Seat.update_eq]
  dsimp only
  rw [unread]
  exact congrArg (EStateM.Result.error fault) (putBack_self found placed)

/-- A chart without a host gives up only before anything changes. -/
theorem update_of_idle {fault : Fault} {last : Page}
    (idle : (page.charts[id]?).bind Chart.host = none)
    (refused : update id data options page = .error fault last) : last = page := by
  unfold update at refused
  rw [act_eq, idle] at refused
  change onDetached id (Seat.update data options) page = .error fault last at refused
  rw [onDetached_eq] at refused
  cases found : page.charts[id]? with
  | none =>
    rw [onChart_of_none _ found] at refused
    cases refused
  | some chart =>
    rw [found] at idle
    change chart.host = none at idle
    rw [onChart_of_some _ found] at refused
    unfold alone at refused
    rw [Seat.update_eq] at refused
    dsimp only at refused
    cases read : chart.reading data options with
    | error unread =>
      rw [read] at refused
      cases refused
      show { page with charts := page.charts.setIfInBounds id chart } = page
      rw [setIfInBounds_self found]
    | ok pair =>
      rw [read] at refused
      dsimp only at refused
      split at refused
      · rename_i attached
        exact absurd idle (Seat.ne_none_of_isAttached attached)
      · cases refused

/-- An update leaves a page as it was whenever it gives up just when its data and options cannot be
read, or the chart has no host, or it can be drawn and so nothing gives up, or the drawing happens to
leave what there was. -/
theorem update_unchanged_iff (operations : List Operation) (id : ChartId) (data : Value)
    (options : OptionsSource) :
    (∀ fault last, (Operation.update id data options).perform (after operations {}) =
        .error fault last → last.view = (after operations {}).view) ↔
      ∀ chart host place series newOptions, (after operations {}).charts[id]? = some chart →
        chart.host = some host → (after operations {}).hosts[host]? = some place →
        chart.reading data options = .ok (series, newOptions) →
        (∃ sheet, Seat.drawnSheet ⟨chart.committed series newOptions, place⟩ = .ok sheet) ∨
          Seat.spoiledView ⟨chart.committed series newOptions, place⟩ = chart.view := by
  have sound := sound_after operations
  generalize after operations {} = page at sound
  constructor
  · intro unchanged chart host place series newOptions found hosted placed read
    have occupied := sound.occupied_committed found hosted placed series newOptions
    obtain ⟨fault, last, _, refused⟩ | ⟨sheet, _, drawn, _⟩ := Seat.refresh_cases occupied rfl
    · right
      obtain ⟨_, view, _⟩ := Seat.refresh_eq_error occupied rfl refused
      have same := unchanged fault (page.putBack id host last) (by
        show update id data options page = _
        rw [update_of_read found hosted placed read, refused]
        rfl)
      rw [← view]
      exact ((view_putBack_iff found placed last).mp same).1
    · exact Or.inl ⟨sheet, drawn⟩
  · intro condition fault last refused
    change update id data options page = .error fault last at refused
    cases bound : (page.charts[id]?).bind Chart.host with
    | none => rw [update_of_idle bound refused]
    | some host =>
      obtain ⟨chart, found, hosted⟩ := Option.bind_eq_some_iff.mp bound
      obtain ⟨place, placed⟩ := sound.exists_host found hosted
      cases read : chart.reading data options with
      | error unread =>
        rw [update_of_unread found hosted placed read] at refused
        cases refused
        rfl
      | ok pair =>
        obtain ⟨series, newOptions⟩ := pair
        have occupied := sound.occupied_committed found hosted placed series newOptions
        rw [update_of_read found hosted placed read] at refused
        obtain ⟨seat, spoiled, rfl⟩ := EStateM.Result.mapState_eq_error refused
        obtain ⟨undrawn, view, listening⟩ := Seat.refresh_eq_error occupied rfl spoiled
        obtain ⟨sheet, drawn⟩ | same := condition chart host place series newOptions found hosted placed
          read
        · rw [undrawn] at drawn
          cases drawn
        · rw [same] at view
          exact (view_putBack_iff found placed seat).mpr
            ⟨view, listening (congrArg ChartView.listens view)⟩

/-- A script that attaches a chart without points. -/
def awaiting : List Operation :=
  [.addHost "h" (.int 300) (.float 1.0), .addChart "s" (.list []) .none {}, .attach 0 0]

/-- A time that can be read but has no date: the update gives up in the drawing, and the new point
stays. -/
theorem changed_by_undated_point : ∃ fault last,
    (Operation.update 0 (.list [.list [.int 1000000000000000, .int 10]]) .none).perform
        (after awaiting {}) = .error fault last ∧ last.view ≠ (after awaiting {}).view := by
  let operation : Operation := .update 0 (.list [.list [.int 1000000000000000, .int 10]]) .none
  have refused : (operation.perform (after awaiting {})).result.isOk = false := by decide +kernel
  have pointsAfter : (operation.perform (after awaiting {})).state.view.charts[0]?.map
      (·.series.length) = some 1 := by decide +kernel
  have pointsBefore : (after awaiting {}).view.charts[0]?.map (·.series.length) = some 0 := by
    decide +kernel
  cases ended : operation.perform (after awaiting {}) with
  | ok _ last =>
    rw [ended] at refused
    cases refused
  | error fault last =>
    refine ⟨fault, last, rfl, fun same => ?_⟩
    rw [ended, EStateM.Result.state_error, same, pointsBefore] at pointsAfter
    cases pointsAfter

end Page

end SeriesChart
