/-
This file proves that a chart that was just drawn anew remembers nothing of the pointer but
the last event. An event that is passed over because its point is shown already, or because
nothing is shown, would not have changed anything: the point, the text beside it and the
picture are all made of the index of the point and of the frame of the last drawing. So
what is shown after any events is what the last one shows on its own.
-/

import SeriesChart.Proofs.Display.Listening
import SeriesChart.Proofs.Display.Pointing

namespace SeriesChart

/-! ### Indices of points -/

namespace Plot

theorem leastFrom_lt {least : Float} {leastIndex index : Nat} (before : leastIndex < index)
    (rest : List Float) :
    (leastFrom least leastIndex index rest).2 < index + rest.length := by
  induction rest generalizing least leastIndex index with
  | nil => exact before
  | cons distance rest inductionHypothesis =>
    rw [List.length_cons, Nat.add_comm rest.length, ← Nat.add_assoc]
    unfold leastFrom
    split
    · show leastIndex < index + 1 + rest.length
      omega
    · split
      · exact inductionHypothesis (Nat.lt_succ_self index)
      · exact inductionHypothesis (Nat.lt_succ_of_lt before)

/-- The nearest of some distances is one of them. -/
theorem nearestOf_lt {limit : Float} {distances : List Float} {index : Nat}
    (found : nearestOf limit distances = some index) : index < distances.length := by
  cases distances with
  | nil => cases found
  | cons first rest =>
    have bounded : (leastFrom first 0 1 rest).2 < 1 + rest.length :=
      leastFrom_lt Nat.zero_lt_one rest
    change (if (leastFrom first 0 1 rest).1 < limit then some (leastFrom first 0 1 rest).2
      else none) = some index at found
    split at found
    · cases found
      rw [List.length_cons, Nat.add_comm]
      exact bounded
    · cases found

/-- The point that is found nearest is a point of the series. -/
theorem nearestIndexAt_lt {plot : Plot Float} {series : Series} {x y limit : Value} {index : Nat}
    (found : plot.nearestIndexAt series x y limit = .ok (some index)) :
    index < series.points.length := by
  unfold nearestIndexAt at found
  split at found
  · cases found
  · obtain ⟨column, _, found⟩ := except_bind_eq_ok found
    obtain ⟨row, _, found⟩ := except_bind_eq_ok found
    obtain ⟨number, _, found⟩ := except_bind_eq_ok found
    have bounded := nearestOf_lt (Except.ok.inj found)
    unfold distances at bounded
    rw [List.length_map, length_places] at bounded
    exact bounded

end Plot

/-- A plot finds the point of the index that is nearest. -/
theorem HoverField.nearestIndexAt_of_nearest {field : HoverField} {plot : Plot Float}
    {x y limit : Value} {found : Option Hover} (plotted : field.plot = some plot)
    (read : field.nearest? x y limit = .ok found) :
    plot.nearestIndexAt field.series x y limit = .ok (found.map Hover.index) := by
  unfold nearest? at read
  rw [plotted] at read
  obtain ⟨index, indexed, read⟩ := except_bind_eq_ok read
  rw [indexed]
  cases read
  cases index with
  | none => rfl
  | some index =>
    have inside := Plot.nearestIndexAt_lt indexed
    show _ = Except.ok ((field.series.points[index]?.map _).map Hover.index)
    rw [List.getElem?_eq_getElem inside]
    rfl

/-! ### What an event shows -/

/-- The pointer has left, or it is at a position. -/
def PointerEvent.IsDefinite (event : PointerEvent) : Prop :=
  event.kind = PointerKind.leave.name ∨ event.x ≠ .absent ∧ event.y ≠ .absent

namespace Chart

/-- What an event shows on a chart, whatever was shown before: nothing when the pointer has left or
over no plot, and otherwise the point near the pointer, if there is one, with its text. -/
def tooltipAt (chart : Chart) (event : PointerEvent) : Except Fault Tooltip :=
  if event.kind = PointerKind.leave.name then .ok .hidden
  else
    match chart.stage.frame with
    | none => .ok .hidden
    | some frame => do
      match ← (fieldOf frame).nearest? event.x event.y (.float TooltipRules.standardDistance) with
      | none => return .hidden
      | some hover =>
        let overlay ← (TooltipRules.standard chart.stage.look.formats).overlayOf hover
          (fieldOf frame).label
        return ⟨some hover, overlay⟩

variable {chart last : Chart} {event : PointerEvent}

theorem response_of_definite {stage : Stage} {frame : Frame}
    (wanted : stage.options.showTooltip = true) (moved : event.kind ≠ PointerKind.leave.name)
    (definite : event.IsDefinite) (framed : stage.frame = some frame) :
    response stage event =
      Tooltip.moveTo (.standard stage.look.formats) Stage.render (fieldOf frame) event.x
        event.y := by
  obtain ⟨atColumn, atRow⟩ := definite.resolve_left moved
  unfold response
  rw [if_pos wanted, if_neg moved, framed]
  revert atColumn atRow
  generalize event.x = x, event.y = y
  intro atColumn atRow
  cases x <;> cases y <;> first | rfl | exact absurd rfl atColumn | exact absurd rfl atRow

/-- The same index is the same point with the same text. -/
theorem Describes.tooltip_of_index {frame : Frame} {x y limit : Value} {hover : Hover}
    (describes : chart.Describes) (framed : chart.stage.frame = some frame)
    (found : (fieldOf frame).nearest? x y limit = .ok (some hover))
    (same : chart.tooltip.hover.map Hover.index = some hover.index) :
    ∃ overlay, (TooltipRules.standard chart.stage.look.formats).overlayOf hover
        (fieldOf frame).label = .ok overlay ∧ chart.tooltip = ⟨some hover, overlay⟩ := by
  obtain ⟨shown, hovered, index⟩ := Option.map_eq_some_iff.mp same
  obtain ⟨plot, plotted, member, column, row⟩ := HoverField.nearest_eq_some found
  have shows := describes.shown shown hovered
  obtain ⟨drawn, shownPlot, drawnFrame, drawnPlot, shownColumn, shownRow⟩ := shows.placed
  obtain ⟨date, amount, dated, counted, written⟩ := shows.written
  obtain ⟨sheet, _, rfl⟩ := describes.framed frame framed
  rw [framed] at drawnFrame
  cases drawnFrame
  have samePlot : plot = shownPlot := Option.some.inj (plotted.symm.trans drawnPlot)
  subst samePlot
  have point : shown.point = hover.point := by
    have shownMember := shows.point
    rw [index] at shownMember
    exact Option.some.inj (shownMember.symm.trans member)
  have sameColumn : shown.x = hover.x := by rw [shownColumn, column, point]
  have sameRow : shown.y = hover.y := by rw [shownRow, row, point]
  have equal : shown = hover :=
    calc shown = ⟨shown.point, shown.index, shown.x, shown.y⟩ := rfl
      _ = ⟨hover.point, hover.index, hover.x, hover.y⟩ := by rw [point, index, sameColumn, sameRow]
  subst equal
  refine ⟨chart.tooltip.overlay, ?_, ?_⟩
  · unfold TooltipRules.overlayOf
    rw [show (TooltipRules.standard chart.stage.look.formats).formats = chart.stage.look.formats
      from rfl, dated, counted, written]
    rfl
  · rw [← hovered]

/-- Before anything was drawn nothing is shown. -/
theorem Describes.tooltip_of_no_frame (describes : chart.Describes)
    (unframed : chart.stage.frame = none) : chart.tooltip = .hidden := by
  refine describes.hidden (Option.eq_none_iff_forall_ne_some.mpr fun hover hovered => ?_)
  obtain ⟨frame, _, framed, _⟩ := (describes.shown hover hovered).placed
  rw [unframed] at framed
  cases framed

/-- An event that is followed shows what it shows on its own. -/
theorem tooltipAt_of_followPointer (describes : chart.Describes)
    (wanted : chart.stage.options.showTooltip = true) (definite : event.IsDefinite)
    (done : followPointer event chart = .ok () last) :
    chart.tooltipAt event = .ok last.tooltip := by
  rw [followPointer_eq, onTooltip_eq] at done
  obtain ⟨⟨tooltip, stage⟩, followed, rfl⟩ := EStateM.Result.mapState_eq_ok done
  show chart.tooltipAt event = .ok tooltip
  unfold tooltipAt
  by_cases left : event.kind = PointerKind.leave.name
  · have answers : response chart.stage event = Tooltip.leave Stage.render := by
      unfold response
      rw [if_pos wanted, if_pos left]
    rw [answers] at followed
    rw [if_pos left, (Tooltip.leave_eq_ok followed).1]
  · rw [if_neg left]
    cases framed : chart.stage.frame with
    | none =>
      have passes : response chart.stage event = pure () := by
        unfold response
        rw [if_pos wanted, if_neg left, framed]
      rw [passes] at followed
      cases followed
      rw [describes.tooltip_of_no_frame framed]
    | some frame =>
      rw [response_of_definite wanted left definite framed] at followed
      obtain ⟨found, read, followed⟩ := lift_bind_eq_ok followed
      show (fieldOf frame).nearest? event.x event.y (.float TooltipRules.standardDistance) >>= _ = _
      rw [show (fieldOf frame).nearest? event.x event.y (.float TooltipRules.standardDistance) =
        .ok found from read]
      cases found with
      | none => exact congrArg Except.ok (Tooltip.leave_eq_ok followed).1.symm
      | some hover =>
        change (if chart.tooltip.hover.map Hover.index ≠ some hover.index then
          Tooltip.showPoint (.standard chart.stage.look.formats) Stage.render (fieldOf frame).label
            hover else pure () : Tooltip.Showing Stage Unit) (chart.tooltip, chart.stage) =
          _ at followed
        show (TooltipRules.standard chart.stage.look.formats).overlayOf hover
          (fieldOf frame).label >>= _ = _
        split at followed
        · obtain ⟨overlay, written, rfl, _⟩ := Tooltip.showPoint_eq_ok followed
          rw [written]
          rfl
        -- The move was passed over, so what it would have written has to be there already.
        · rename_i same
          cases followed
          obtain ⟨overlay, written, shown⟩ :=
            describes.tooltip_of_index framed read (Decidable.of_not_not same)
          rw [written, shown]
          rfl

end Chart

/-! ### What events leave as it was -/

/-- What is painted is made of what is drawn and how. -/
theorem Stage.painting_congr {stage other : Stage} (look : stage.look = other.look)
    (series : stage.series = other.series) (options : stage.options = other.options)
    (device : Device) (highlight : Option Highlight) :
    stage.painting device highlight = other.painting device highlight := by
  unfold painting cleanPlan frameFor
  rw [look, series, options]

theorem Seat.blank_congr {chart other : Chart} (look : chart.stage.look = other.stage.look)
    (options : chart.stage.options = other.stage.options) (place : Host ChartId) :
    Seat.blank ⟨chart, place⟩ = Seat.blank ⟨other, place⟩ := by
  unfold blank Stage.blankSheet
  rw [look, options]

namespace Chart

variable {chart last : Chart} {event : PointerEvent}

theorem redrawn_of_followPointer (sound : chart.Sound) (framed : chart.stage.Framed)
    (done : followPointer event chart = .ok () last) : chart.stage.Redrawn last.stage := by
  rw [followPointer_eq, onTooltip_eq] at done
  obtain ⟨⟨tooltip, stage⟩, followed, rfl⟩ := EStateM.Result.mapState_eq_ok done
  have self : chart.stage.Redrawn chart.stage := ⟨framed, fun _ same => same, rfl, rfl, rfl⟩
  have redrawn {highlight : Option Highlight}
      (rendered : Stage.render highlight chart.stage = .ok () stage) : chart.stage.Redrawn stage :=
    Stage.redrawn_of_render sound.stage.coherent framed rendered
  have left
      (hides : Tooltip.leave Stage.render (chart.tooltip, chart.stage) = .ok () (tooltip, stage)) :
      chart.stage.Redrawn stage := by
    obtain ⟨_, rendered | ⟨_, rfl⟩⟩ := Tooltip.leave_eq_ok hides
    · exact redrawn rendered
    · exact self
  obtain passes | hides | ⟨frame, _, moves⟩ := response_cases chart.stage event
  · rw [passes] at followed
    cases followed
    exact self
  · rw [hides] at followed
    exact left followed
  · rw [moves] at followed
    obtain hides | ⟨_, _, _, _, _, rendered⟩ | ⟨_, rfl⟩ := Tooltip.moveTo_eq_ok followed
    · exact left hides
    · exact redrawn rendered
    · exact self

/-- The chart is as it was drawn, apart from what events change: its tooltip, its picture and the
picture that it keeps. It has no host, or its picture is settled for the host that was read. -/
structure Attends (drawn : Chart) (place : Host ChartId) (chart : Chart) : Prop where
  host : chart.host = drawn.host
  look : chart.stage.look = drawn.stage.look
  series : chart.stage.series = drawn.stage.series
  options : chart.stage.options = drawn.stage.options
  frame : chart.stage.frame = drawn.stage.frame
  describes : chart.Describes
  settled : chart.host = none ∨ chart.Settled place

variable {drawn first second : Chart} {place : Host ChartId}

theorem attends_self (sound : drawn.Sound) (renewed : drawn.Renewed place ∨ drawn.host = none) :
    drawn.Attends place drawn where
  host := rfl
  look := rfl
  series := rfl
  options := rfl
  frame := rfl
  describes := renewed.elim Renewed.describes sound.describes
  settled := renewed.symm.imp_right And.left

/-- One event more. -/
theorem Attends.followPointer (attends : drawn.Attends place chart) (sound : chart.Sound)
    (done : followPointer event chart = .ok () last) : drawn.Attends place last := by
  have lastSound := keeps_sound_followPointer event chart sound
  have same := sameSeat_followPointer event chart
  rw [done] at lastSound same
  have redrawn := redrawn_of_followPointer sound attends.describes.framed done
  refine ⟨same.host.trans attends.host, redrawn.look.trans attends.look,
    redrawn.series.trans attends.series, redrawn.options.trans attends.options, ?_,
    attends.describes.followPointer sound done, ?_⟩
  · rw [← attends.frame]
    cases framed : chart.stage.frame with
    | some frame => exact redrawn.frame frame framed
    -- A chart that is settled has a frame, so this one has no host, before and after.
    | none =>
      obtain free | ⟨_, _, settled⟩ := attends.settled
      · exact (lastSound.idle (same.host.trans free)).2.1
      · rw [settled.frame] at framed
        cases framed
  · exact attends.settled.imp same.host.trans fun settled => settled.followPointer sound done

/-- What an event shows depends on the last drawing alone. -/
theorem Attends.tooltipAt_eq (attends : drawn.Attends place chart) (event : PointerEvent) :
    chart.tooltipAt event = drawn.tooltipAt event := by
  unfold tooltipAt
  rw [attends.frame, attends.look]

/-- The picture depends on the last drawing and on the tooltip alone. -/
theorem Attends.canvas_eq (firstAttends : drawn.Attends place first) (firstSound : first.Sound)
    (secondAttends : drawn.Attends place second) (secondSound : second.Sound)
    (same : first.tooltip = second.tooltip) : first.canvas? = second.canvas? := by
  have look := firstAttends.look.trans secondAttends.look.symm
  have series := firstAttends.series.trans secondAttends.series.symm
  have options := firstAttends.options.trans secondAttends.options.symm
  have host := firstAttends.host.trans secondAttends.host.symm
  unfold canvas?
  by_cases free : first.host = none
  · rw [(firstSound.idle free).1, (secondSound.idle (host.symm.trans free)).1]
  · obtain ⟨blank, canvas, firstSettled⟩ := firstAttends.settled.resolve_left free
    obtain ⟨otherBlank, otherCanvas, secondSettled⟩ :=
      secondAttends.settled.resolve_left fun otherFree => free (host.trans otherFree)
    have made := firstSettled.made
    rw [Seat.blank_congr look options, secondSettled.made] at made
    cases made
    have painted := firstSettled.painted
    rw [Stage.painting_congr look series options, same, secondSettled.painted] at painted
    cases painted
    rw [firstSettled.sheet, secondSettled.sheet]

/-- What is shown after an event on a chart that was drawn, whatever came before the event. The
frame is that of the drawing. After the pointer left, and without a plot, nothing is shown; after a
move, the point is the one that the plot finds within the standard distance, and nothing if it finds
none. What is shown belongs to the chart, the picture is up to date with it, and without a point it
is the picture as it was drawn. -/
structure Answers (drawn : Chart) (event : PointerEvent) (last : Chart) : Prop where
  frame : last.stage.frame = drawn.stage.frame
  left : event.kind = PointerKind.leave.name → last.tooltip = .hidden
  off : (∀ frame, drawn.stage.frame = some frame → frame.plot = none) → last.tooltip = .hidden
  near : event.kind ≠ PointerKind.leave.name → ∀ frame plot, drawn.stage.frame = some frame →
    frame.plot = some plot →
    plot.nearestIndexAt frame.series event.x event.y (.float TooltipRules.standardDistance) =
      .ok (last.tooltip.hover.map Hover.index)
  hidden : last.tooltip.hover = none → last.tooltip = .hidden
  shown : ∀ hover, last.tooltip.hover = some hover → last.Shows hover
  clean : last.tooltip = .hidden → last.canvas? = drawn.canvas?
  upToDate : last.host ≠ none → ∃ place width ratio blank canvas frame,
    last.IsUpToDate place width ratio blank canvas frame

theorem Attends.answers (attends : drawn.Attends place last) (sound : last.Sound)
    (drawnSound : drawn.Sound) (drawnAttends : drawn.Attends place drawn)
    (hidden : drawn.tooltip = .hidden) (told : drawn.tooltipAt event = .ok last.tooltip) :
    drawn.Answers event last where
  frame := attends.frame
  left leaves := by
    unfold tooltipAt at told
    rw [if_pos leaves] at told
    exact (Except.ok.inj told).symm
  off unplotted := by
    unfold tooltipAt at told
    split at told
    · exact (Except.ok.inj told).symm
    · cases framed : drawn.stage.frame with
      | none =>
        rw [framed] at told
        exact (Except.ok.inj told).symm
      | some frame =>
        have nothing (x y limit : Value) : (fieldOf frame).nearest? x y limit = .ok none := by
          unfold HoverField.nearest? fieldOf
          rw [unplotted frame framed]
        rw [framed] at told
        dsimp only at told
        rw [nothing] at told
        exact (Except.ok.inj told).symm
  near moved frame plot framed plotted := by
    unfold tooltipAt at told
    rw [if_neg moved, framed] at told
    obtain ⟨found, read, told⟩ := except_bind_eq_ok told
    have plottedField : (fieldOf frame).plot = some plot := plotted
    refine (HoverField.nearestIndexAt_of_nearest plottedField read).trans ?_
    cases found with
    | none =>
      rw [← Except.ok.inj told]
      rfl
    | some hover =>
      obtain ⟨overlay, _, told⟩ := except_bind_eq_ok told
      rw [← Except.ok.inj told]
  hidden := attends.describes.hidden
  shown := attends.describes.shown
  clean gone := attends.canvas_eq sound drawnAttends drawnSound (gone.trans hidden.symm)
  upToDate hosted := by
    obtain ⟨blank, canvas, settled⟩ := attends.settled.resolve_left hosted
    obtain ⟨width, ratio, shown⟩ := settled.isUpToDate
    exact ⟨place, width, ratio, blank, canvas, _, shown⟩

end Chart

/-! ### Events on a page -/

/-- The chart that an operation draws anew without a tooltip, if the operation succeeds and the
chart has a host in the end. -/
def Operation.renews (page : Page) : Operation → Option ChartId
  | attach chart host => page.hosts[host]?.map fun _ => chart
  | update chart _ _ => some chart
  | resize chart => some chart
  | _ => none

/-- The operation tells an event to a chart, by itself or through a host that the chart listens
to. -/
def Operation.Tells (page : Page) (id : ChartId) (event : PointerEvent) : Operation → Prop
  | point chart told => chart = id ∧ told = event
  | tell host told => told = event ∧
      ∃ place, page.hosts[host]? = some place ∧ id ∈ place.listenersOf event.kind
  | _ => False

namespace Page

variable {before page last : Page} {id : ChartId} {host : HostId} {chart drawn : Chart}
variable {place : Host ChartId} {operation : Operation} {event : PointerEvent}

theorem renewed_onSeat {action : EStateM Fault Seat Unit} (renews : ∀ seat last : Seat,
      seat.chart.Sound → action seat = .ok () last →
      last.chart.Renewed seat.host ∨ last.chart.host = none)
    (sound : before.Sound) (placed : before.hosts[host]? = some place)
    (done : onSeat id host action before = .ok () page) (found : page.charts[id]? = some chart) :
    chart.Renewed place ∨ chart.host = none := by
  obtain ⟨absent, rfl⟩ | ⟨old, oldPlace, seat, oldFound, oldPlaced, acted, rfl⟩ := onSeat_cases done
  · rw [found, placed] at absent
    exact absent.elim nofun nofun
  · rw [charts_putBack before host seat oldFound, if_pos rfl] at found
    rw [placed] at oldPlaced
    cases found
    cases oldPlaced
    exact renews _ _ (sound.charts id old oldFound).2 acted

theorem renewed_act {action : EStateM Fault Seat Unit} (renews : ∀ seat last : Seat,
      seat.chart.Sound → action seat = .ok () last →
      last.chart.Renewed seat.host ∨ last.chart.host = none)
    (keptIdle : Keeps (fun seat : Seat => seat.chart.host = none) action) (sound : before.Sound)
    (done : act id action before = .ok () page) (found : page.charts[id]? = some chart) :
    ∃ place, chart.Renewed place ∨ chart.host = none := by
  rw [act_eq] at done
  cases bound : (before.charts[id]?).bind Chart.host with
  | some host =>
    rw [bound] at done
    obtain ⟨old, oldFound, hosted⟩ := Option.bind_eq_some_iff.mp bound
    have inside := sound.known id old host oldFound hosted
    exact ⟨_, renewed_onSeat renews sound (Array.getElem?_eq_getElem inside) done found⟩
  | none =>
    rw [bound] at done
    obtain ⟨absent, rfl⟩ | ⟨old, seat, oldFound, acted, rfl⟩ := onDetached_cases done
    · rw [found] at absent
      cases absent
    · rw [oldFound] at bound
      have stays := keptIdle ⟨old, nowhere⟩ bound
      rw [acted] at stays
      rw [charts_setChart before seat.chart oldFound, if_pos rfl] at found
      cases found
      exact ⟨nowhere, Or.inr stays⟩

/-- An operation that renews a chart leaves it drawn and without a tooltip, or without a host. -/
theorem renewed_of_renews (sound : before.Sound) (renews : operation.renews before = some id)
    (done : operation.perform before = .ok () page) (found : page.charts[id]? = some chart) :
    ∃ place, chart.Renewed place ∨ chart.host = none := by
  cases operation with
  | attach number host =>
    obtain ⟨place, placed, rfl⟩ := Option.map_eq_some_iff.mp renews
    exact ⟨place, renewed_onSeat (fun _ _ chartSound attached =>
      Or.inl (Seat.renewed_of_attach chartSound attached)) sound placed done found⟩
  | update number data options =>
    cases renews
    exact renewed_act (fun _ _ => Seat.renewed_of_update) (Seat.keeps_idle_update data options)
      sound done found
  | resize number =>
    cases renews
    exact renewed_act (fun _ _ => Seat.renewed_of_resize) Seat.keeps_idle_resize sound done found
  | _ => cases renews

/-- What is done to one chart alone. -/
theorem next_of_onChart {action : EStateM Fault Chart Unit} (found : page.charts[id]? = some chart)
    (done : onChart id action page = .ok () last) :
    last.hosts = page.hosts ∧
      ∃ next, last.charts[id]? = some next ∧ action chart = .ok () next := by
  obtain ⟨absent, _⟩ | ⟨old, next, oldFound, acted, rfl⟩ := onChart_cases done
  · rw [found] at absent
    cases absent
  · have charts := charts_setChart page next oldFound id
    rw [if_pos rfl] at charts
    rw [found] at oldFound
    cases oldFound
    exact ⟨rfl, next, charts, acted⟩

/-- What is done to another chart. -/
theorem same_of_onChart {action : EStateM Fault Chart Unit} {other : ChartId} (apart : id ≠ other)
    (done : onChart other action page = .ok () last) :
    last.hosts = page.hosts ∧ last.charts[id]? = page.charts[id]? := by
  obtain ⟨_, rfl⟩ | ⟨_, next, found, _, rfl⟩ := onChart_cases done
  · exact ⟨rfl, rfl⟩
  · have charts := charts_setChart page next found id
    rw [if_neg apart] at charts
    exact ⟨rfl, charts⟩

/-- A host that tells an event to its listeners tells it once to a chart that is one of them once,
and not to one that is none of them. -/
theorem follows_of_forM {listeners : List ChartId} (once : listeners.count id ≤ 1)
    (found : page.charts[id]? = some chart)
    (done : listeners.forM (fun other => onChart other (Chart.followPointer event)) page =
      .ok () last) :
    last.hosts = page.hosts ∧ ∃ next, last.charts[id]? = some next ∧
      (id ∈ listeners → Chart.followPointer event chart = .ok () next) ∧
      (id ∉ listeners → next = chart) := by
  induction listeners generalizing page chart with
  | nil =>
    cases done
    exact ⟨rfl, chart, found, nofun, fun _ => rfl⟩
  | cons other rest inductionHypothesis =>
    obtain ⟨_, middle, told, done⟩ := bind_eq_ok done
    rw [List.count_cons] at once
    by_cases own : other = id
    · subst own
      rw [beq_self_eq_true, if_pos rfl] at once
      -- The chart is told once, so what the rest is told leaves it as it is now.
      have absent : other ∉ rest := List.count_eq_zero.mp (by omega)
      obtain ⟨hosts, next, nextFound, followed⟩ := next_of_onChart found told
      obtain ⟨lastHosts, lastChart, lastFound, _, same⟩ :=
        inductionHypothesis (by omega) nextFound done
      rw [same absent] at lastFound
      exact ⟨lastHosts.trans hosts, next, lastFound, fun _ => followed,
        fun none => absurd List.mem_cons_self none⟩
    · obtain ⟨hosts, charts⟩ := same_of_onChart (Ne.symm own) told
      obtain ⟨lastHosts, next, nextFound, followed⟩ :=
        inductionHypothesis (by omega) (charts.trans found) done
      refine ⟨lastHosts.trans hosts, next, nextFound, ?_⟩
      rw [List.mem_cons, or_iff_right (Ne.symm own)]
      exact followed

/-- A chart listens at most once to events of a name. -/
theorem Sound.count_listenersOf_le (sound : page.Sound) (found : page.charts[id]? = some chart)
    (placed : page.hosts[host]? = some place) (name : String) :
    (place.listenersOf name).count id ≤ 1 := by
  unfold Host.listenersOf
  split
  · rename_i kind _
    have counted := sound.listeners id host place kind placed
    rw [registered_of_some found] at counted
    refine Nat.le_trans (Nat.le_of_eq counted) ?_
    split
    · obtain silent | listens := (sound.charts id chart found).2.listens
      · rw [silent]
        exact Nat.zero_le 1
      · rw [listens]
        cases kind <;> decide
    · exact Nat.zero_le 1
  · exact Nat.zero_le 1

/-- A chart that is told an event follows it, and all hosts stay as they are. -/
theorem follows_of_tells (sound : page.Sound) (told : operation.Tells page id event)
    (found : page.charts[id]? = some chart) (done : operation.perform page = .ok () last) :
    last.hosts = page.hosts ∧
      ∃ next, last.charts[id]? = some next ∧ Chart.followPointer event chart = .ok () next := by
  cases operation with
  | point number other =>
    obtain ⟨rfl, rfl⟩ := told
    exact next_of_onChart found done
  | tell host other =>
    obtain ⟨rfl, place, placed, listens⟩ := told
    change dispatch host other page = .ok () last at done
    unfold dispatch at done
    rw [get_bind, placed] at done
    obtain ⟨hosts, next, nextFound, followed, _⟩ :=
      follows_of_forM (sound.count_listenersOf_le found placed other.kind) found done
    exact ⟨hosts, next, nextFound, followed listens⟩
  | _ => cases told

/-- Who is told an event depends on the hosts alone. -/
theorem tells_congr (hosts : page.hosts = before.hosts) :
    operation.Tells page id event ↔ operation.Tells before id event := by
  unfold Operation.Tells
  rw [hosts]

/-- The page still has the hosts that it had and the chart as it was drawn, apart from what events
change. -/
structure Attends (before : Page) (id : ChartId) (drawn : Chart) (place : Host ChartId)
    (page : Page) : Prop where
  sound : page.Sound
  hosts : page.hosts = before.hosts
  chart : ∃ chart, page.charts[id]? = some chart ∧ drawn.Attends place chart

/-- One event more, and what it shows. -/
theorem Attends.perform (attends : Attends before id drawn place page)
    (wanted : drawn.stage.options.showTooltip = true) (definite : event.IsDefinite)
    (told : operation.Tells before id event) (done : operation.perform page = .ok () last) :
    Attends before id drawn place last ∧ ∃ chart, last.charts[id]? = some chart ∧
      drawn.Attends place chart ∧ drawn.tooltipAt event = .ok chart.tooltip := by
  obtain ⟨chart, found, chartAttends⟩ := attends.chart
  obtain ⟨hosts, next, nextFound, followed⟩ :=
    follows_of_tells attends.sound ((tells_congr attends.hosts).mpr told) found done
  have chartSound := (attends.sound.charts id chart found).2
  have lastSound := keeps_sound_perform operation page attends.sound
  rw [done] at lastSound
  have nextAttends := chartAttends.followPointer chartSound followed
  refine ⟨⟨lastSound, hosts.trans attends.hosts, next, nextFound, nextAttends⟩, next, nextFound,
    nextAttends, ?_⟩
  rw [← chartAttends.tooltipAt_eq]
  exact Chart.tooltipAt_of_followPointer chartAttends.describes
    ((congrArg Options.showTooltip chartAttends.options).trans wanted) definite followed

/-- Any number of events. -/
theorem Attends.after (attends : Attends before id drawn place page)
    (wanted : drawn.stage.options.showTooltip = true) (operations : List Operation)
    (told : ∀ operation ∈ operations,
      ∃ event : PointerEvent, event.IsDefinite ∧ operation.Tells before id event)
    (succeeds : ∀ step ∈ history operations page, step.1 = .ok ()) :
    Attends before id drawn place (page.after operations) := by
  induction operations generalizing page with
  | nil => exact attends
  | cons operation rest inductionHypothesis =>
    obtain ⟨event, definite, tells⟩ := told operation List.mem_cons_self
    have done : operation.perform page = .ok () (operation.perform page).state :=
      EStateM.Result.eq_ok_of_result (succeeds _ List.mem_cons_self)
    exact inductionHypothesis (attends.perform wanted definite tells done).1
      (fun other member => told other (List.mem_cons_of_mem _ member))
      fun step member => succeeds step (List.mem_cons_of_mem _ member)

theorem history_append (first second : List Operation) (page : Page) :
    history (first ++ second) page = history first page ++ history second (page.after first) := by
  induction first generalizing page with
  | nil => rfl
  | cons operation rest inductionHypothesis =>
    exact congrArg ((_, _) :: ·) (inductionHypothesis (operation.perform page).state)

/-- A run of events that are all told to one chart, of which none gives up, and that ends with a
given event. -/
structure EndsWith (page : Page) (id : ChartId) (event : PointerEvent) (run : List Operation) :
    Prop where
  told : ∀ operation ∈ run, ∃ event : PointerEvent, event.IsDefinite ∧ operation.Tells page id event
  last : ∃ operation, run.getLast? = some operation ∧ event.IsDefinite ∧
    operation.Tells page id event
  succeeds : ∀ step ∈ history run page, step.1 = .ok ()

/-- After a run of events the chart shows what the last one shows on its own. -/
theorem Attends.endsWith {run : List Operation} (attends : Attends before id drawn place before)
    (wanted : drawn.stage.options.showTooltip = true) (ends : before.EndsWith id event run) :
    ∃ chart, (before.after run).charts[id]? = some chart ∧ chart.Sound ∧
      drawn.Attends place chart ∧ drawn.tooltipAt event = .ok chart.tooltip := by
  obtain ⟨operation, last, definite, told⟩ := ends.last
  obtain ⟨earlier, rfl⟩ := List.getLast?_eq_some_iff.mp last
  have succeeds := ends.succeeds
  rw [history_append] at succeeds
  have held := attends.after wanted earlier
    (fun other member => ends.told other (List.mem_append_left _ member))
    fun step member => succeeds step (List.mem_append_left _ member)
  have done : operation.perform (before.after earlier) =
      .ok () (operation.perform (before.after earlier)).state :=
    EStateM.Result.eq_ok_of_result
      (succeeds _ (List.mem_append_right _ List.mem_cons_self))
  obtain ⟨further, chart, found, chartAttends, shown⟩ := held.perform wanted definite told done
  rw [after_append]
  exact ⟨chart, found, (further.sound.charts id chart found).2, chartAttends, shown⟩

/-- Only the last event matters. Two runs of events, told to a chart that was just attached, updated
or resized, end with the same tooltip and the same picture if they end with the same event, and this
is what the event shows on its own. -/
theorem same_after_last_event (operations : List Operation) (operation : Operation) (id : ChartId)
    (before : Page) (drawn : Chart)
    (renews : operation.renews (after operations {}) = some id)
    (done : operation.perform (after operations {}) = .ok () before)
    (found : before.charts[id]? = some drawn) (wanted : drawn.stage.options.showTooltip = true)
    (event : PointerEvent) (first second : List Operation)
    (firstEnds : before.EndsWith id event first) (secondEnds : before.EndsWith id event second) :
    ∃ one other, (before.after first).charts[id]? = some one ∧
      (before.after second).charts[id]? = some other ∧ one.tooltip = other.tooltip ∧
      one.canvas? = other.canvas? ∧ drawn.Answers event one := by
  have sound := sound_after operations
  have beforeSound := keeps_sound_perform operation _ sound
  rw [done] at beforeSound
  obtain ⟨place, renewed⟩ := renewed_of_renews sound renews done found
  have drawnSound := (beforeSound.charts id drawn found).2
  have drawnAttends := Chart.attends_self drawnSound renewed
  have hidden : drawn.tooltip = .hidden :=
    renewed.elim And.right fun free => (drawnSound.idle free).2.2.1
  have attends : Attends before id drawn place before :=
    ⟨beforeSound, rfl, drawn, found, drawnAttends⟩
  obtain ⟨one, oneFound, oneSound, oneAttends, oneShown⟩ := attends.endsWith wanted firstEnds
  obtain ⟨other, otherFound, otherSound, otherAttends, otherShown⟩ :=
    attends.endsWith wanted secondEnds
  have same : one.tooltip = other.tooltip := Except.ok.inj (oneShown.symm.trans otherShown)
  exact ⟨one, other, oneFound, otherFound, same,
    oneAttends.canvas_eq oneSound otherAttends otherSound same,
    oneAttends.answers oneSound drawnSound drawnAttends hidden oneShown⟩

/-- A script before the chart of one bar is attached. -/
def unattached : List Operation := pointing.take 2

/-- The pointer comes to the bar. -/
def arrival : PointerEvent := .moveTo (.float 1.0) (.float 1.0)

/-- The pointer comes to the bar, leaves it and comes back. -/
def returning : List Operation := [.tell 0 arrival, .point 0 .leave, .tell 0 arrival]

/-- The first chart is told of comings by the first host that it listens to, and of leavings. -/
theorem tells_of_listens {run : List Operation}
    (listens : page.hosts[0]?.any (fun place => (place.listenersOf arrival.kind).contains 0) = true)
    (listed : ∀ operation ∈ run, operation = .tell 0 arrival ∨ operation = .point 0 .leave) :
    ∀ operation ∈ run,
      ∃ event : PointerEvent, event.IsDefinite ∧ operation.Tells page 0 event := by
  intro operation member
  obtain ⟨place, placed, contained⟩ := (Option.any_eq_true _ _).mp listens
  obtain rfl | rfl := listed operation member
  · exact ⟨arrival, Or.inr ⟨nofun, nofun⟩, rfl, place, placed, List.contains_iff_mem.mp contained⟩
  · exact ⟨.leave, Or.inl rfl, rfl, rfl⟩

/-- A pointer that comes back to the bar shows what it shows when it comes for the first time. -/
theorem same_after_returning : ∃ before one other,
    (Operation.attach 0 0).perform (after unattached {}) = .ok () before ∧
      (before.after returning).charts[0]? = some one ∧
      (before.after [.tell 0 arrival]).charts[0]? = some other ∧ one.tooltip.isVisible = true ∧
      one.tooltip = other.tooltip ∧ one.canvas? = other.canvas? := by
  have succeeds : ((Operation.attach 0 0).perform (after unattached {})).result.isOk = true := by
    decide +kernel
  have renews : (Operation.attach 0 0).renews (after unattached {}) = some 0 := by decide +kernel
  have drawn : ((Operation.attach 0 0).perform (after unattached {})).state.charts[0]?.any
      (·.stage.options.showTooltip) = true := by decide +kernel
  have listens : ((Operation.attach 0 0).perform (after unattached {})).state.hosts[0]?.any
      (fun place => (place.listenersOf arrival.kind).contains 0) = true := by decide +kernel
  have returns : (history returning
      ((Operation.attach 0 0).perform (after unattached {})).state).all (·.1.isOk) = true := by
    decide +kernel
  have comes : (history [.tell 0 arrival]
      ((Operation.attach 0 0).perform (after unattached {})).state).all (·.1.isOk) = true := by
    decide +kernel
  have visible : (((Operation.attach 0 0).perform (after unattached {})).state.after
      returning).charts[0]?.any (·.tooltip.isVisible) = true := by decide +kernel
  cases done : (Operation.attach 0 0).perform (after unattached {}) with
  | error fault last =>
    rw [done] at succeeds
    cases succeeds
  | ok _ before =>
    rw [done, EStateM.Result.state_ok] at drawn listens returns comes visible
    obtain ⟨chart, found, wanted⟩ := (Option.any_eq_true _ _).mp drawn
    obtain ⟨place, placed, contained⟩ := (Option.any_eq_true _ _).mp listens
    have hears : (Operation.tell 0 arrival).Tells before 0 arrival :=
      ⟨rfl, place, placed, List.contains_iff_mem.mp contained⟩
    have definite : arrival.IsDefinite := Or.inr ⟨nofun, nofun⟩
    obtain ⟨one, other, oneFound, otherFound, tooltip, canvas, _⟩ :=
      same_after_last_event unattached (.attach 0 0) 0 before chart renews done found wanted arrival
        returning [.tell 0 arrival]
        ⟨tells_of_listens listens (by simp [returning]), ⟨_, rfl, definite, hears⟩,
          succeeds_of_all returns⟩
        ⟨tells_of_listens listens (by simp), ⟨_, rfl, definite, hears⟩, succeeds_of_all comes⟩
    rw [oneFound] at visible
    exact ⟨before, one, other, rfl, oneFound, otherFound, visible, tooltip, canvas⟩

end Page

end SeriesChart
