/-
This file proves that a chart that was just attached or updated shows nothing of its past.
What it shows is determined by its series, its options, its look and the numbers of its
host; so a chart made of these now and attached to such a host looks the same, and so does
the picture that is drawn for no host at all.
-/

import SeriesChart.Display.Image
import SeriesChart.Proofs.Display.Looks
import SeriesChart.Proofs.Display.Reading

namespace SeriesChart

namespace Seat

/-! ### What a chart shows when it is drawn anew -/

/-- The sheet of the chart as it is drawn anew for its host, without a highlight. -/
def drawnSheet (seat : Seat) : Except Fault Sheet := do
  let blank ← seat.blank
  match seat.chart.stage.painting blank.device none blank.canvas with
  | .ok _ canvas => return ⟨blank.device, canvas⟩
  | .error fault _ => throw fault

theorem drawnSheet_of_refused {seat : Seat} {fault : Fault} (refused : seat.blank = .error fault) :
    seat.drawnSheet = .error fault := by
  unfold drawnSheet
  rw [refused]
  rfl

theorem drawnSheet_of_made {seat : Seat} {blank : Sheet} (made : seat.blank = .ok blank) :
    seat.drawnSheet =
      match seat.chart.stage.painting blank.device none blank.canvas with
      | .ok _ canvas => .ok ⟨blank.device, canvas⟩
      | .error fault _ => .error fault := by
  unfold drawnSheet
  rw [made]
  rfl

/-- What a chart listens to by its options. -/
def wantedListens (options : Options) : List PointerKind :=
  if options.showTooltip then PointerKind.all else []

/-- What is seen of a chart that was drawn anew on a sheet. -/
def drawnView (seat : Seat) (sheet : Sheet) : ChartView where
  series := seat.chart.stage.series
  options := seat.chart.stage.options
  host := seat.chart.host
  listens := wantedListens seat.chart.stage.options
  tooltip := .hidden
  frame := some (seat.chart.stage.frameFor sheet.device)
  picture := some sheet.canvas
  ratio := sheet.device.ratio

variable {id : ChartId} {host : HostId} {others : ChartId → PointerKind → Nat} {seat : Seat}

theorem listens_fitListeners (sound : seat.chart.Sound) :
    seat.fitListeners.chart.listens = wantedListens seat.chart.stage.options := by
  unfold fitListeners wantedListens
  split
  · obtain silent | listening := sound.listens
    · rw [silent]
      show seat.chart.listens ++ [PointerKind.move] ++ [PointerKind.leave] = PointerKind.all
      rw [silent]
      rfl
    · rw [listening]
      exact listening
  · rfl

theorem size_removeListeners (kinds : List PointerKind) (place : Host ChartId) (id : ChartId) :
    (kinds.foldr (fun kind host => host.removeListener kind id) place).width = place.width ∧
      (kinds.foldr (fun kind host => host.removeListener kind id) place).ratio = place.ratio := by
  induction kinds with
  | nil => exact ⟨rfl, rfl⟩
  | cons kind rest inductionHypothesis =>
    cases kind <;> exact inductionHypothesis

/-- Listening does not change the numbers of a host. -/
theorem size_fitListeners (seat : Seat) :
    seat.fitListeners.host.width = seat.host.width ∧
      seat.fitListeners.host.ratio = seat.host.ratio := by
  unfold fitListeners
  split
  · split
    · exact ⟨rfl, rfl⟩
    · exact ⟨rfl, rfl⟩
  · exact size_removeListeners _ _ _

/-- Fitting the listeners does not depend on the sheet. -/
theorem host_fitListeners_withSheet (seat : Seat) (sheet : Sheet) :
    (seat.withSheet sheet).fitListeners.host = seat.fitListeners.host := by
  show (if seat.chart.stage.options.showTooltip then
    if seat.chart.listens.isEmpty then (seat.withSheet sheet).listen else seat.withSheet sheet
    else (seat.withSheet sheet).unlisten).host = seat.fitListeners.host
  unfold fitListeners
  split
  · split <;> rfl
  · rfl

/-- The chart looks as it does when it is drawn anew on a sheet, and listens to its host. -/
structure DrawnAs (seat : Seat) (sheet : Sheet) (last : Seat) : Prop where
  view : last.chart.view = seat.drawnView sheet
  look : last.chart.stage.look = seat.chart.stage.look
  host : last.host = seat.fitListeners.host

namespace DrawnAs

variable {sheet : Sheet} {last : Seat} (drawnAs : seat.DrawnAs sheet last)

include drawnAs

theorem series : last.chart.stage.series = seat.chart.stage.series :=
  congrArg ChartView.series drawnAs.view

theorem options : last.chart.stage.options = seat.chart.stage.options :=
  congrArg ChartView.options drawnAs.view

theorem picture : last.chart.canvas? = some sheet.canvas := congrArg ChartView.picture drawnAs.view

theorem width : last.host.width = seat.host.width := by
  rw [drawnAs.host]
  exact seat.size_fitListeners.1

theorem ratio : last.host.ratio = seat.host.ratio := by
  rw [drawnAs.host]
  exact seat.size_fitListeners.2

end DrawnAs

/-- On a sheet that fits, a chart that shows nothing is drawn as on a new sheet. -/
theorem draw_eq_painting (sound : seat.chart.Sound) (hidden : seat.chart.tooltip = .hidden)
    (fitted : seat.IsFitted) :
    ∃ blank image, seat.blank = .ok blank ∧
      onChart (Chart.draw none) seat.fitListeners =
        (seat.chart.stage.painting blank.device none blank.canvas).mapState image ∧
      ∀ canvas, seat.DrawnAs ⟨blank.device, canvas⟩ (image canvas) := by
  obtain ⟨blank, sheet, made, placed, device, sized⟩ := fitted
  have valid := (isBlank_of_blank made).valid
  have rendered : Stage.render (Option.orElse none fun _ =>
      seat.fitListeners.chart.tooltip.highlight) seat.fitListeners.chart.stage =
        Stage.render none seat.chart.stage := by
    rw [chart_fitListeners]
    show Stage.render seat.chart.tooltip.highlight seat.chart.stage = _
    rw [hidden]
    rfl
  obtain ⟨cache, drawn, _⟩ := Stage.render_eq none placed sound.stage.coherent
  rw [device, seat.chart.stage.painting_of_hasSize none valid sized] at drawn
  rw [onChart_eq, Chart.draw_eq, rendered, drawn, EStateM.Result.mapState_mapState,
    EStateM.Result.mapState_mapState]
  refine ⟨blank, _, made, rfl, fun canvas => ⟨?_, rfl, rfl⟩⟩
  have listens := listens_fitListeners sound
  unfold Chart.view drawnView
  rw [chart_fitListeners, listens, hidden]
  rfl

/-- A chart that shows nothing is drawn anew on a clear sheet for its host, if there can be one, and
its picture is left as far as it was painted. -/
theorem refresh_eq_painting (occupied : seat.Occupied id host others)
    (hidden : seat.chart.tooltip = .hidden) :
    (∃ fault, seat.blank = .error fault ∧ refresh seat = .error fault seat) ∨
      ∃ blank image, seat.blank = .ok blank ∧
        refresh seat = (seat.chart.stage.painting blank.device none blank.canvas).mapState image ∧
        ∀ canvas, seat.DrawnAs ⟨blank.device, canvas⟩ (image canvas) := by
  rw [refresh_eq]
  obtain ⟨fault, refused, ended⟩ | ⟨fitted, ended, isFitted, same⟩ :=
    fitSheet_cases seat occupied.1.chart.stage.made
  · refine Or.inl ⟨fault, refused, ?_⟩
    rw [ended]
  · have fittedSound := keeps_occupied_fitSheet seat occupied
    rw [ended] at fittedSound
    rw [ended]
    -- A new sheet changes nothing that a drawing depends on.
    obtain rfl | ⟨sheet, rfl⟩ := same
    · exact Or.inr (draw_eq_painting fittedSound.1.chart hidden isFitted)
    · obtain ⟨blank, image, made, drawn, drawnAs⟩ :=
        draw_eq_painting fittedSound.1.chart hidden isFitted
      exact Or.inr ⟨blank, image, made, drawn, fun canvas => { drawnAs canvas with
        host := (drawnAs canvas).host.trans (host_fitListeners_withSheet seat sheet) }⟩

/-- A chart that shows nothing is drawn anew just when its sheet can be, and then it looks as it does
whenever it is drawn anew. -/
theorem refresh_cases (occupied : seat.Occupied id host others)
    (hidden : seat.chart.tooltip = .hidden) :
    (∃ fault last, seat.drawnSheet = .error fault ∧ refresh seat = .error fault last) ∨
      ∃ sheet last, seat.drawnSheet = .ok sheet ∧ refresh seat = .ok () last ∧
        seat.DrawnAs sheet last := by
  obtain ⟨fault, refused, ended⟩ | ⟨blank, image, made, drawn, drawnAs⟩ :=
    refresh_eq_painting occupied hidden
  · rw [drawnSheet_of_refused refused, ended]
    exact Or.inl ⟨fault, seat, rfl, rfl⟩
  · rw [drawnSheet_of_made made, drawn]
    cases seat.chart.stage.painting blank.device none blank.canvas with
    | error fault canvas => exact Or.inl ⟨fault, image canvas, rfl, rfl⟩
    | ok _ canvas => exact Or.inr ⟨⟨blank.device, canvas⟩, image canvas, rfl, rfl, drawnAs canvas⟩

theorem drawnAs_of_refresh {last : Seat} (occupied : seat.Occupied id host others)
    (hidden : seat.chart.tooltip = .hidden) (done : refresh seat = .ok () last) :
    ∃ sheet, seat.drawnSheet = .ok sheet ∧ seat.DrawnAs sheet last := by
  obtain ⟨fault, _, _, refused⟩ | ⟨sheet, other, drawn, otherDone, drawnAs⟩ :=
    refresh_cases occupied hidden
  · rw [done] at refused
    cases refused
  · rw [done] at otherDone
    cases otherDone
    exact ⟨sheet, drawn, drawnAs⟩

/-! ### Charts that were just made -/

/-- A new chart on a host to which nobody listens can be relied on. -/
theorem occupied_fresh (id : ChartId) (host : HostId) (series : Series) (options : Options)
    (look : Look) (width ratio : Value) :
    (placed ⟨.fresh id series options look, { width, ratio }⟩ host).Occupied id host
      fun _ _ => 0 := by
  refine ⟨⟨rfl, ?_, ?_, ?_, ?_⟩, ?_⟩
  · exact { Chart.sound_fresh id series options look with idle := fun none => by cases none }
  · exact fun _ same => (Option.some.inj same).symm
  · exact fun kind => by cases kind <;> rfl
  · exact fun _ kind _ => by cases kind <;> rfl
  · exact fun none => by cases none

/-- The chart looks like a new one of the same series, options and look on a host of the same
numbers, and its host knows of it what the other host knows of that one. -/
def LooksNew (host : HostId) (seat : Seat) : Prop :=
  ∀ keeps, ∃ fresh last, Chart.create seat.chart.id (.series seat.chart.stage.series)
      (.ready seat.chart.stage.options) { seat.chart.stage.look with keepsBase := keeps } = .ok fresh ∧
    attach host ⟨fresh, { width := seat.host.width, ratio := seat.host.ratio }⟩ = .ok () last ∧
    last.chart.view = seat.chart.view ∧
    ∀ kind, last.host.count kind seat.chart.id = seat.host.count kind seat.chart.id

theorem create_ready (id : ChartId) (series : Series) (options : Options) (look : Look) :
    Chart.create id (.series series) (.ready options) look =
      .ok (.fresh id series options look) := rfl

theorem Occupied.host_eq (occupied : seat.Occupied id host others) : seat.chart.host = some host := by
  cases hosted : seat.chart.host with
  | none => exact absurd hosted occupied.2
  | some other => rw [occupied.1.placed other hosted]

/-- Attaching a new chart is drawing it anew. -/
theorem attach_fresh {sheet : Sheet} {series : Series} {options : Options} {look : Look}
    {width ratio : Value}
    (drawn : (placed ⟨.fresh id series options look, { width, ratio }⟩ host).drawnSheet =
      .ok sheet) :
    ∃ last, attach host ⟨.fresh id series options look, { width, ratio }⟩ = .ok () last ∧
      last.chart.view =
        (placed ⟨.fresh id series options look, { width, ratio }⟩ host).drawnView sheet ∧
      last.Sound id host fun _ _ => 0 := by
  have occupied := occupied_fresh id host series options look width ratio
  have kept := keeps_occupied_refresh _ occupied
  obtain ⟨fault, _, refused, _⟩ | ⟨other, last, otherDrawn, done, view, _⟩ :=
    refresh_cases occupied rfl
  · rw [drawn] at refused
    cases refused
  · rw [drawn] at otherDrawn
    cases otherDrawn
    rw [done] at kept
    refine ⟨last, ?_, view, kept.1⟩
    rw [attach_eq, done]
    rfl

theorem looksNew_of_refresh {last : Seat} (occupied : seat.Occupied id host others)
    (hidden : seat.chart.tooltip = .hidden) (done : refresh seat = .ok () last) :
    last.LooksNew host := by
  have kept := keeps_occupied_refresh seat occupied
  rw [done] at kept
  obtain ⟨sheet, drawn, drawnAs⟩ := drawnAs_of_refresh occupied hidden done
  have lastSound : last.Sound id host others := kept.1
  intro keeps
  have newDrawn : (placed ⟨.fresh id seat.chart.stage.series seat.chart.stage.options
      { seat.chart.stage.look with keepsBase := keeps },
      { width := seat.host.width, ratio := seat.host.ratio }⟩ host).drawnSheet = .ok sheet := drawn
  obtain ⟨new, attached, newView, newSound⟩ := attach_fresh newDrawn
  have views : new.chart.view = last.chart.view := by
    rw [newView, drawnAs.view]
    unfold drawnView
    rw [occupied.host_eq]
    rfl
  rw [lastSound.number, drawnAs.series, drawnAs.options, drawnAs.look, drawnAs.width, drawnAs.ratio]
  refine ⟨_, new, create_ready _ _ _ _, attached, views, fun kind => ?_⟩
  rw [newSound.own, lastSound.own]
  exact congrArg (fun view : ChartView => view.listens.count kind) views

/-! ### Pictures for no host -/

/-- What is drawn depends on the numbers of the host only as they are used. -/
theorem drawnSheet_congr {other : Seat} (width : usableWidth seat.host = usableWidth other.host)
    (ratio : usableRatio seat.host = usableRatio other.host)
    (series : seat.chart.stage.series = other.chart.stage.series)
    (options : seat.chart.stage.options = other.chart.stage.options)
    (theme : seat.chart.stage.look.theme = other.chart.stage.look.theme)
    (formats : seat.chart.stage.look.formats = other.chart.stage.look.formats)
    (padding : seat.chart.stage.look.padding = other.chart.stage.look.padding)
    (fonts : seat.chart.stage.look.fonts = other.chart.stage.look.fonts) :
    seat.drawnSheet = other.drawnSheet := by
  unfold drawnSheet blank Stage.blankSheet Stage.painting Stage.cleanPlan Stage.frameFor
  rw [width, ratio, series, options, theme, formats, padding, fonts]

/-- A host of numbers can be made of a host whose numbers are read. -/
theorem create_host {place : Host ChartId} {width number : Float}
    (positive : place.width.isAtMostZero = .ok false) (widthRead : usableWidth place = .ok width)
    (ratioRead : place.ratio.toFloat = .ok number) :
    ∃ read, (Host.create place.width place.ratio : Except Fault (Host ChartId)) =
        .ok { width := .float read, ratio := .float number } ∧
      usableWidth { width := .float read, ratio := .float number } = .ok width := by
  obtain ⟨read, widthFloat, used⟩ := except_bind_eq_ok widthRead
  refine ⟨read, ?_, used⟩
  unfold Host.create
  rw [Value.isNegative_of_isAtMostZero positive, widthFloat, ratioRead]
  rfl

/-- The picture of a chart for no host is that of the chart on a new host. -/
theorem pictureOfChart_of_attach {series : Series} {options : Options} {theme : Theme}
    {fonts : Fonts} {width ratio : Value} {place : Host ChartId} {last : Seat} {canvas : Canvas}
    (positive : width.isAtMostZero = .ok false) (created : Host.create width ratio = .ok place)
    (attached : attach 0 ⟨.fresh 0 series options { theme, fonts, keepsBase := false }, place⟩ =
      .ok () last)
    (shown : last.chart.canvas? = some canvas) :
    pictureOfChart (.series series) width (.ready options) ratio theme fonts = .ok canvas := by
  unfold pictureOfChart
  rw [positive, create_ready, created]
  dsimp only [bind, Except.bind]
  rw [attached]
  dsimp only
  rw [shown]
  rfl

/-- With the standard formats and padding, a chart that was just drawn anew shows the picture that is
drawn for no host. -/
theorem pictureOfChart_of_refresh {last : Seat} (occupied : seat.Occupied id host others)
    (hidden : seat.chart.tooltip = .hidden) (done : refresh seat = .ok () last)
    (formats : last.chart.stage.look.formats = {})
    (padding : last.chart.stage.look.padding = .standard)
    (positive : last.host.width.isAtMostZero = .ok false) {number : Float}
    (ratioRead : last.host.ratio.toFloat = .ok number) :
    ∃ canvas, last.chart.canvas? = some canvas ∧
      pictureOfChart (.series last.chart.stage.series) last.host.width
        (.ready last.chart.stage.options) last.host.ratio last.chart.stage.look.theme
        last.chart.stage.look.fonts = .ok canvas := by
  obtain ⟨sheet, drawn, drawnAs⟩ := drawnAs_of_refresh occupied hidden done
  rw [drawnAs.look] at formats padding
  rw [drawnAs.width] at positive
  rw [drawnAs.ratio] at ratioRead
  obtain ⟨blank, made, _⟩ := except_bind_eq_ok drawn
  obtain ⟨used, usedRatio, widthRead, usable, _⟩ := blank_eq_ok made
  obtain ⟨read, created, reused⟩ := create_host positive widthRead ratioRead
  have newDrawn : (placed ⟨.fresh 0 seat.chart.stage.series seat.chart.stage.options
      { theme := seat.chart.stage.look.theme, fonts := seat.chart.stage.look.fonts,
        keepsBase := false },
      { width := .float read, ratio := .float number }⟩ 0).drawnSheet = .ok sheet := by
    rw [← drawn]
    exact drawnSheet_congr (reused.trans widthRead.symm)
      ((usableRatio_float ratioRead usable rfl).trans usable.symm) rfl rfl rfl formats.symm
      padding.symm rfl
  obtain ⟨new, attached, newView, _⟩ := attach_fresh newDrawn
  have newShown : new.chart.canvas? = some sheet.canvas := congrArg ChartView.picture newView
  refine ⟨sheet.canvas, drawnAs.picture, ?_⟩
  rw [drawnAs.series, drawnAs.options, drawnAs.look, drawnAs.width, drawnAs.ratio]
  exact pictureOfChart_of_attach positive created attached newShown

end Seat

/-! ### Pages -/

/-- The chart that an operation draws anew after dropping all that it showed, and its host. -/
def Operation.redraws (page : Page) : Operation → Option (ChartId × HostId)
  | attach chart host => some (chart, host)
  | update chart _ _ => ((page.charts[chart]?).bind Chart.host).map fun host => (chart, host)
  | _ => none

namespace Page

variable {before page : Page} {id : ChartId} {host : HostId} {chart : Chart} {place : Host ChartId}

theorem seat_eq_of_putBack {old : Chart} {oldPlace : Host ChartId} {last : Seat}
    (oldFound : before.charts[id]? = some old) (oldPlaced : before.hosts[host]? = some oldPlace)
    (found : (before.putBack id host last).charts[id]? = some chart)
    (placed : (before.putBack id host last).hosts[host]? = some place) : last = ⟨chart, place⟩ := by
  rw [charts_putBack before host last oldFound, if_pos rfl] at found
  rw [hosts_putBack before id last oldPlaced, if_pos rfl] at placed
  cases found
  cases placed
  rfl

/-- What was done to a chart on its host, seen on the page. -/
theorem onSeat_eq_ok {action : EStateM Fault Seat Unit} (done : onSeat id host action before = .ok () page)
    (found : page.charts[id]? = some chart) (placed : page.hosts[host]? = some place) :
    ∃ old oldPlace, before.charts[id]? = some old ∧ before.hosts[host]? = some oldPlace ∧
      action ⟨old, oldPlace⟩ = .ok () ⟨chart, place⟩ := by
  obtain ⟨absent, rfl⟩ | ⟨old, oldPlace, last, oldFound, oldPlaced, acted, rfl⟩ := onSeat_cases done
  · rw [found, placed] at absent
    exact absent.elim nofun nofun
  · rw [seat_eq_of_putBack oldFound oldPlaced found placed] at acted
    exact ⟨old, oldPlace, oldFound, oldPlaced, acted⟩

/-- An operation that draws a chart anew ends with drawing a chart that shows nothing. -/
theorem refresh_of_redraws (sound : before.Sound) {operation : Operation}
    (drawn : operation.redraws before = some (id, host))
    (done : operation.perform before = .ok () page) (found : page.charts[id]? = some chart)
    (placed : page.hosts[host]? = some place) :
    ∃ seat others, seat.Occupied id host others ∧ seat.chart.tooltip = .hidden ∧
      Seat.refresh seat = .ok () ⟨chart, place⟩ := by
  cases operation with
  | attach number hostNumber =>
    cases drawn
    obtain ⟨old, oldPlace, oldFound, oldPlaced, attached⟩ := onSeat_eq_ok done found placed
    rw [Seat.attach_eq] at attached
    split at attached
    · cases attached
    · rename_i free
      have none : old.host = none := Seat.eq_none_of_not_isAttached free
      have oldSound := sound.seat oldFound oldPlaced fun other hosted => by
        rw [none] at hosted
        cases hosted
      refine ⟨_, _, oldSound.occupied, (oldSound.chart.idle none).2.2.1, ?_⟩
      split at attached
      · cases attached
        assumption
      · cases attached
  | update number data options =>
    obtain ⟨_, hosted, same⟩ := Option.map_eq_some_iff.mp drawn
    cases same
    change act id (Seat.update data options) before = .ok () page at done
    rw [act_eq, hosted] at done
    obtain ⟨old, oldPlace, oldFound, oldPlaced, updated⟩ := onSeat_eq_ok done found placed
    rw [oldFound] at hosted
    change old.host = some host at hosted
    have oldSound := sound.seat oldFound oldPlaced fun other otherHosted =>
      Option.some.inj (otherHosted.symm.trans hosted)
    rw [Seat.update_eq] at updated
    cases read : old.reading data options with
    | error fault =>
      rw [read] at updated
      cases updated
    | ok pair =>
      rw [read] at updated
      change (if old.host.isSome then Seat.refresh _ else .ok () _) = _ at updated
      rw [hosted] at updated
      have committed := oldSound.withChart (oldSound.chart.committed pair.1 pair.2) ⟨rfl, rfl, rfl⟩
      refine ⟨_, _, ⟨committed, fun none => ?_⟩, rfl, updated⟩
      rw [show old.host = .none from none] at hosted
      cases hosted
  | _ => cases drawn

/-- A chart that was just attached, or updated on its host, has no past. It shows no tooltip, and it
looks like a new chart of its series, its options and its look on a host of the same numbers; no other
host knows it. With the standard formats and padding, and a host whose width is above zero and whose
ratio is a number, its picture is the one that is drawn for no host. -/
theorem looksNew_of_redraws (operations : List Operation) (operation : Operation)
    (drawn : operation.redraws (after operations {}) = some (id, host))
    (done : operation.perform (after operations {}) = .ok () page)
    (found : page.charts[id]? = some chart) (placed : page.hosts[host]? = some place) :
    chart.tooltip = .hidden ∧ Seat.LooksNew host ⟨chart, place⟩ ∧
      (∀ other otherPlace kind, other ≠ host → page.hosts[other]? = some otherPlace →
        otherPlace.count kind id = 0) ∧
      (chart.stage.look.formats = {} → chart.stage.look.padding = .standard →
        place.width.isAtMostZero = .ok false → ∀ number, place.ratio.toFloat = .ok number →
        ∃ canvas, chart.canvas? = some canvas ∧
          pictureOfChart (.series chart.stage.series) place.width (.ready chart.stage.options)
            place.ratio chart.stage.look.theme chart.stage.look.fonts = .ok canvas) := by
  have sound := sound_after operations
  obtain ⟨seat, others, occupied, hidden, refreshed⟩ := refresh_of_redraws sound drawn done found placed
  have last : Page.Sound page := by
    have kept := keeps_sound_perform operation _ sound
    rw [done] at kept
    exact kept
  have kept := Seat.keeps_occupied_refresh seat occupied
  rw [refreshed] at kept
  refine ⟨?_, Seat.looksNew_of_refresh occupied hidden refreshed, ?_, ?_⟩
  · obtain ⟨sheet, _, drawnAs⟩ := Seat.drawnAs_of_refresh occupied hidden refreshed
    exact congrArg ChartView.tooltip drawnAs.view
  · intro other otherPlace kind apart otherPlaced
    rw [last.listeners id other otherPlace kind otherPlaced, registered_of_some found, if_neg]
    intro hosted
    exact apart (kept.1.placed other hosted)
  · intro formats padding positive number ratioRead
    exact Seat.pictureOfChart_of_refresh occupied hidden refreshed formats padding positive ratioRead

/-- A chart may be sixty pixels high. -/
theorem isHeight_sixty : (0 : Int) < 60 := by decide

/-- The options of a chart of bars without a grid. -/
def hoveredOptions : Options :=
  { Options.standard with
    kind := .bar, height := 60, height_pos := isHeight_sixty, showGrid := false }

/-- A script that leaves the pointer over the bar of a chart of one point. -/
def hovering : List Operation :=
  [.addHost "host" (.float 100.0) (.float 0.03),
    .addChart "chart" (.series ⟨[⟨0.0, 1.0⟩]⟩) (.ready hoveredOptions) {}, .attach 0 0,
    .tell 0 (.moveTo (.float 65.0) (.float 25.0))]

/-- The points of two days in the place of those that the chart has. -/
def renewal : Operation := .update 0 (.series ⟨[⟨0.0, 3.0⟩, ⟨86400.0, 2.0⟩]⟩) .none

/-- The chart still has the standard look. -/
theorem hasLook_renewal : HasLook 0 {} (renewal.perform (after hovering {})).state := by
  have empty : (after (hovering.take 1) {}).charts.size = 0 := by decide +kernel
  have accepted : Chart.firstReading (.series ⟨[⟨0.0, 1.0⟩]⟩) (.ready hoveredOptions) =
      .ok (⟨[⟨0.0, 1.0⟩]⟩, hoveredOptions) := rfl
  have whole : hovering.take 1 ++ .addChart "chart" (.series ⟨[⟨0.0, 1.0⟩]⟩)
      (.ready hoveredOptions) {} :: (hovering.drop 2 ++ [renewal]) = hovering ++ [renewal] := rfl
  have kept := hasLook_after (after (hovering.take 1) {}) "chart" accepted {}
    (hovering.drop 2 ++ [renewal])
  rw [empty, ← after_append, whole, after_append, after_cons, after_nil] at kept
  exact kept

/-- A chart that is given new points while the pointer is over it looks like a new one: of the bar,
the tooltip and the picture that was kept nothing is left. -/
theorem looksNew_of_updating : ∃ old page chart place,
    (after hovering {}).charts[0]? = some old ∧ old.tooltip.isVisible = true ∧
      old.stage.frame.any Frame.isDrawable = true ∧
      (old.stage.sheet.bind old.stage.keptBase).isSome = true ∧
      renewal.perform (after hovering {}) = .ok () page ∧ page.charts[0]? = some chart ∧
      page.hosts[0]? = some place ∧ chart.stage.series = ⟨[⟨0.0, 3.0⟩, ⟨86400.0, 2.0⟩]⟩ ∧
      chart.stage.frame.any Frame.isDrawable = true ∧ chart.tooltip = .hidden ∧
      Seat.LooksNew 0 ⟨chart, place⟩ ∧
      ∃ canvas, chart.canvas? = some canvas ∧
        pictureOfChart (.series chart.stage.series) place.width (.ready chart.stage.options)
          place.ratio chart.stage.look.theme chart.stage.look.fonts = .ok canvas := by
  have shows : (after hovering {}).charts[0]?.any (fun old => old.tooltip.isVisible &&
      old.stage.frame.any Frame.isDrawable &&
      (old.stage.sheet.bind old.stage.keptBase).isSome) = true := by decide +kernel
  have succeeds : (renewal.perform (after hovering {})).result.isOk = true := by decide +kernel
  have drawn : renewal.redraws (after hovering {}) = some (0, 0) := by decide +kernel
  have renewed : (renewal.perform (after hovering {})).state.charts[0]?.any (fun chart =>
      decide (chart.stage.series = ⟨[⟨0.0, 3.0⟩, ⟨86400.0, 2.0⟩]⟩) &&
        chart.stage.frame.any Frame.isDrawable) = true := by decide +kernel
  have placed : (renewal.perform (after hovering {})).state.hosts[0]?.any (fun place =>
      decide (place.width.isAtMostZero = .ok false ∧ place.ratio.toFloat = .ok 0.03)) = true := by
    decide +kernel
  have looks := hasLook_renewal
  cases done : renewal.perform (after hovering {}) with
  | error fault last =>
    rw [done] at succeeds
    cases succeeds
  | ok _ page =>
    rw [done, EStateM.Result.state_ok] at renewed placed looks
    obtain ⟨old, oldFound, oldShows⟩ := (Option.any_eq_true _ _).mp shows
    obtain ⟨chart, found, isNew⟩ := (Option.any_eq_true _ _).mp renewed
    obtain ⟨place, there, numbers⟩ := (Option.any_eq_true _ _).mp placed
    obtain ⟨own, ownFound, look⟩ := looks
    obtain rfl : chart = own := Option.some.inj (found.symm.trans ownFound)
    simp only [Bool.and_eq_true, decide_eq_true_eq] at oldShows isNew numbers
    obtain ⟨hidden, looksNew, -, picture⟩ :=
      looksNew_of_redraws hovering renewal drawn done found there
    exact ⟨old, page, chart, place, oldFound, oldShows.1.1, oldShows.1.2, oldShows.2, rfl, found,
      there, isNew.1, isNew.2, hidden, looksNew, picture (congrArg Look.formats look)
        (congrArg Look.padding look) numbers.1 0.03 numbers.2⟩

end Page

end SeriesChart
