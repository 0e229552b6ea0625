/-
This file proves that what a chart shows about the pointer describes one and the same
point: the point that is settled, the disc on the picture and the box of text beside it.
As long as nothing gives up, it is a point that the chart still has, at the place where the
last drawing put it, with the text that the present options and formats give it. A move
that is passed over keeps all of this as it was, so every step that changes the series, the
options or the size has to hide the tooltip first, and every step does.
-/

import SeriesChart.Proofs.Display.Picture

namespace SeriesChart

/-! ### Frames of the present -/

namespace Stage

/-- What the last drawing was made of is what a drawing would be made of now. -/
def Framed (stage : Stage) : Prop :=
  ∀ frame, stage.frame = some frame →
    ∃ sheet, stage.sheet = some sheet ∧ frame = stage.frameFor sheet.device

/-- What a redrawing that succeeds leaves for the tooltip. -/
structure Redrawn (stage last : Stage) : Prop where
  framed : last.Framed
  frame : ∀ frame, stage.frame = some frame → last.frame = some frame
  look : last.look = stage.look
  series : last.series = stage.series
  options : last.options = stage.options

theorem redrawn_of_render {stage last : Stage} {highlight : Option Highlight}
    (coherent : stage.Coherent) (framed : stage.Framed)
    (done : render highlight stage = .ok () last) : stage.Redrawn last := by
  cases placed : stage.sheet with
  | none =>
    rw [render_of_no_sheet highlight placed] at done
    cases done
    exact ⟨framed, fun _ => id, rfl, rfl, rfl⟩
  | some sheet =>
    obtain ⟨cache, drawn, _⟩ := render_eq highlight placed coherent
    rw [done] at drawn
    obtain ⟨canvas, _, rfl⟩ := EStateM.Result.mapState_eq_ok drawn.symm
    refine ⟨fun frame same => ?_, fun frame same => ?_, rfl, rfl, rfl⟩
    · cases same
      exact ⟨_, rfl, rfl⟩
    · obtain ⟨other, otherPlaced, rfl⟩ := framed frame same
      rw [placed] at otherPlaced
      cases otherPlaced
      rfl

end Stage

/-! ### What is shown and what there is -/

/-- A point near the pointer is one of the series, at its place in the plot. -/
theorem HoverField.nearest_eq_some {field : HoverField} {x y limit : Value} {hover : Hover}
    (found : field.nearest? x y limit = .ok (some hover)) :
    ∃ plot, field.plot = some plot ∧ field.series.points[hover.index]? = some hover.point ∧
      hover.x = plot.columnOf hover.point.timestamp ∧ hover.y = plot.rowOf hover.point.value := by
  unfold nearest? at found
  cases placed : field.plot with
  | none =>
    rw [placed] at found
    cases found
  | some plot =>
    rw [placed] at found
    obtain ⟨index, _, found⟩ := except_bind_eq_ok found
    obtain ⟨number, rfl, same⟩ := Option.bind_eq_some_iff.mp (Except.ok.inj found)
    obtain ⟨point, member, rfl⟩ := Option.map_eq_some_iff.mp same
    exact ⟨plot, rfl, member, rfl, rfl⟩

namespace Chart

/-- The point that is shown belongs to the chart as it is: the chart has a host and wants a tooltip,
the point is in its series, it is placed by the present frame, and the box beside it has the text
that the present options and formats give it. -/
structure Shows (chart : Chart) (hover : Hover) : Prop where
  attached : chart.isAttached = true
  wanted : chart.stage.options.showTooltip = true
  point : chart.stage.series.points[hover.index]? = some hover.point
  placed : ∃ frame plot, chart.stage.frame = some frame ∧ frame.plot = some plot ∧
    hover.x = plot.columnOf hover.point.timestamp ∧ hover.y = plot.rowOf hover.point.value
  written : ∃ date amount, chart.stage.look.formats.date hover.point.timestamp = .ok date ∧
    chart.stage.look.formats.amount hover.point.value = .ok amount ∧
    chart.tooltip.overlay =
      { isVisible := true
        left := hover.x
        top := hover.y - TooltipRules.overlayOffset
        lines := [date, chart.stage.options.label ++ ": " ++ amount] }

/-- The tooltip is hidden altogether or shows a point of the chart as it is. -/
structure Describes (chart : Chart) : Prop where
  framed : chart.stage.Framed
  hidden : chart.tooltip.hover = none → chart.tooltip = .hidden
  shown : ∀ hover, chart.tooltip.hover = some hover → chart.Shows hover

variable {chart last : Chart}

theorem describes_of_hidden (framed : chart.stage.Framed) (hidden : chart.tooltip = .hidden) :
    chart.Describes where
  framed := framed
  hidden _ := hidden
  shown hover shown := by
    rw [hidden] at shown
    cases shown

theorem Sound.describes (sound : chart.Sound) (free : chart.host = none) : chart.Describes := by
  obtain ⟨_, noFrame, hidden, _⟩ := sound.idle free
  refine describes_of_hidden (fun frame same => ?_) hidden
  rw [noFrame] at same
  cases same

theorem Settled.framed {place : Host ChartId} (settled : chart.Settled place) :
    chart.stage.Framed := by
  obtain ⟨blank, canvas, settled⟩ := settled
  intro frame same
  rw [settled.frame] at same
  cases same
  exact ⟨_, settled.sheet, rfl⟩

theorem Renewed.describes {place : Host ChartId} (renewed : chart.Renewed place) :
    chart.Describes :=
  describes_of_hidden renewed.1.framed renewed.2

/-- A redrawing leaves the tooltip as right as it was. -/
theorem Describes.redrawn {stage : Stage} (describes : chart.Describes)
    (redrawn : chart.stage.Redrawn stage) : Describes { chart with stage } where
  framed := redrawn.framed
  hidden := describes.hidden
  shown hover same := by
    have shows := describes.shown hover same
    obtain ⟨frame, plot, drawn, placed⟩ := shows.placed
    obtain ⟨date, amount, written⟩ := shows.written
    refine ⟨shows.attached, ?_, ?_, ⟨frame, plot, redrawn.frame frame drawn, placed⟩,
      ⟨date, amount, ?_⟩⟩
    · exact (congrArg Options.showTooltip redrawn.options).trans shows.wanted
    · simpa only [redrawn.series] using shows.point
    · simpa only [redrawn.look, redrawn.options] using written

theorem Describes.draw {highlight : Option Highlight} (describes : chart.Describes)
    (sound : chart.Sound) (done : draw highlight chart = .ok () last) : last.Describes := by
  rw [draw_eq] at done
  obtain ⟨stage, rendered, rfl⟩ := EStateM.Result.mapState_eq_ok done
  exact describes.redrawn
    (Stage.redrawn_of_render sound.stage.coherent describes.framed rendered)

/-- The box of a point holds its date and its amount. -/
theorem overlayOf_eq_ok {rules : TooltipRules} {hover : Hover} {label : String} {overlay : Overlay}
    (written : rules.overlayOf hover label = .ok overlay) :
    ∃ date amount, rules.formats.date hover.point.timestamp = .ok date ∧
      rules.formats.amount hover.point.value = .ok amount ∧
      overlay = { isVisible := true
                  left := hover.x
                  top := hover.y - TooltipRules.overlayOffset
                  lines := [date, label ++ ": " ++ amount] } := by
  obtain ⟨date, dated, written⟩ := except_bind_eq_ok written
  obtain ⟨amount, counted, written⟩ := except_bind_eq_ok written
  exact ⟨date, amount, dated, counted, (Except.ok.inj written).symm⟩

/-- A point that was found under the pointer and written is shown as it should be. -/
theorem Describes.shows_of_nearest {stage : Stage} {frame : Frame} {x y limit : Value}
    {hover : Hover} {overlay : Overlay} (describes : chart.Describes)
    (redrawn : chart.stage.Redrawn stage)
    (attached : chart.isAttached = true) (wanted : chart.stage.options.showTooltip = true)
    (framed : chart.stage.frame = some frame)
    (found : (fieldOf frame).nearest? x y limit = .ok (some hover))
    (written : (TooltipRules.standard chart.stage.look.formats).overlayOf hover
      (fieldOf frame).label = .ok overlay) :
    Shows { chart with tooltip := ⟨some hover, overlay⟩, stage } hover := by
  obtain ⟨plot, plotted, member, column, row⟩ := HoverField.nearest_eq_some found
  obtain ⟨date, amount, dated, counted, rfl⟩ := overlayOf_eq_ok written
  obtain ⟨sheet, _, rfl⟩ := describes.framed frame framed
  refine ⟨attached, ?_, ?_, ⟨_, plot, redrawn.frame _ framed, plotted, column, row⟩,
    ⟨date, amount, ?_⟩⟩
  · exact (congrArg Options.showTooltip redrawn.options).trans wanted
  · simp only [redrawn.series]
    exact member
  · simp only [redrawn.look, redrawn.options]
    exact ⟨dated, counted, rfl⟩

/-- A chart with a frame has a host. -/
theorem Sound.isAttached {frame : Frame} (sound : chart.Sound)
    (framed : chart.stage.frame = some frame) : chart.isAttached = true := by
  refine Decidable.of_not_not fun free => ?_
  rw [(sound.idle (Seat.eq_none_of_not_isAttached free)).2.1] at framed
  cases framed

/-- An event that moves the tooltip comes to a chart that wants one. -/
theorem showTooltip_of_response {stage : Stage} {event : PointerEvent}
    (answered : response stage event ≠ pure ()) : stage.options.showTooltip = true := by
  refine Decidable.of_not_not fun unwanted => answered ?_
  unfold response
  rw [if_neg unwanted]

/-- Following the pointer with success leaves the tooltip right. -/
theorem Describes.followPointer {event : PointerEvent} (describes : chart.Describes)
    (sound : chart.Sound) (done : followPointer event chart = .ok () last) : last.Describes := by
  rw [followPointer_eq, onTooltip_eq] at done
  obtain ⟨⟨tooltip, stage⟩, followed, rfl⟩ := EStateM.Result.mapState_eq_ok done
  have redrawn {highlight : Option Highlight}
      (rendered : Stage.render highlight chart.stage = .ok () stage) : chart.stage.Redrawn stage :=
    Stage.redrawn_of_render sound.stage.coherent describes.framed rendered
  have left
      (hides : Tooltip.leave Stage.render (chart.tooltip, chart.stage) = .ok () (tooltip, stage)) :
      Describes { chart with tooltip, stage } := by
    obtain ⟨rfl, rendered | ⟨_, rfl⟩⟩ := Tooltip.leave_eq_ok hides
    · exact describes_of_hidden (redrawn rendered).framed rfl
    · exact describes_of_hidden describes.framed rfl
  by_cases passed : response chart.stage event = pure ()
  · rw [passed] at followed
    cases followed
    exact describes
  have wanted := showTooltip_of_response passed
  obtain passes | hides | ⟨frame, framed, moves⟩ := response_cases chart.stage event
  · exact absurd passes passed
  · rw [hides] at followed
    exact left followed
  · rw [moves] at followed
    obtain hides | ⟨hover, overlay, found, written, rfl, rendered⟩ | ⟨rfl, rfl⟩ :=
      Tooltip.moveTo_eq_ok followed
    · exact left hides
    · refine ⟨(redrawn rendered).framed, (by cases ·), fun other same => ?_⟩
      cases same
      exact describes.shows_of_nearest (redrawn rendered) (sound.isAttached framed) wanted framed
        found written
    · exact describes

end Chart

/-! ### Pages -/

namespace Page

variable {page last : Page} {id : ChartId} {host : HostId} {chart : Chart}

/-- Every chart shows what it has. -/
def Describes (page : Page) : Prop :=
  ∀ (id : ChartId) (chart : Chart), page.charts[id]? = some chart → chart.Describes

/-- One chart changed, and it has no host now or shows what it has. -/
theorem Describes.setChart (describes : page.Describes) (lastSound : last.Sound)
    (found : page.charts[id]? = some chart) {changed : Chart}
    (charts : last.charts = page.charts.setIfInBounds id changed)
    (own : changed.host = none ∨ changed.Describes) : last.Describes := by
  intro other next nextFound
  have nextSound := (lastSound.charts other next nextFound).2
  rw [charts, charts_setChart page changed found] at nextFound
  split at nextFound
  · cases nextFound
    exact own.elim nextSound.describes fun right => right
  · exact describes other next nextFound

theorem describes_onChart {action : EStateM Fault Chart Unit}
    (kept : ∀ chart last : Chart, chart.Sound → chart.Describes → action chart = .ok () last →
      last.Describes)
    (sound : page.Sound) (lastSound : last.Sound) (describes : page.Describes)
    (done : onChart id action page = .ok () last) : last.Describes := by
  obtain ⟨_, rfl⟩ | ⟨chart, changed, found, acted, rfl⟩ := onChart_cases done
  · exact describes
  · exact describes.setChart lastSound found rfl
      (Or.inr (kept chart changed (sound.charts id chart found).2 (describes id chart found) acted))

/-- What settles a chart and hides its tooltip, or leaves it without a host. -/
theorem describes_onSeat {action : EStateM Fault Seat Unit} (renews : ∀ seat last : Seat,
      seat.chart.Sound → action seat = .ok () last →
      last.chart.Renewed seat.host ∨ last.chart.host = none)
    (sound : page.Sound) (lastSound : last.Sound) (describes : page.Describes)
    (done : onSeat id host action page = .ok () last) : last.Describes := by
  obtain ⟨_, rfl⟩ | ⟨chart, _, seat, found, _, acted, rfl⟩ := onSeat_cases done
  · exact describes
  · exact describes.setChart lastSound found rfl
      ((renews _ _ (sound.charts id chart found).2 acted).symm.imp_right Chart.Renewed.describes)

theorem describes_act {action : EStateM Fault Seat Unit} (renews : ∀ seat last : Seat,
      seat.chart.Sound → action seat = .ok () last →
      last.chart.Renewed seat.host ∨ last.chart.host = none)
    (keptIdle : Keeps (fun seat : Seat => seat.chart.host = none) action) (sound : page.Sound)
    (lastSound : last.Sound) (describes : page.Describes)
    (done : act id action page = .ok () last) : last.Describes := by
  rw [act_eq] at done
  cases hosted : (page.charts[id]?).bind Chart.host with
  | some host =>
    rw [hosted] at done
    exact describes_onSeat renews sound lastSound describes done
  | none =>
    rw [hosted] at done
    obtain ⟨_, rfl⟩ | ⟨chart, seat, found, acted, rfl⟩ := onDetached_cases done
    · exact describes
    · rw [found] at hosted
      have stays := keptIdle ⟨chart, nowhere⟩ hosted
      rw [acted] at stays
      exact describes.setChart lastSound found rfl (Or.inl stays)

/-- Following the pointer leaves every tooltip right. -/
theorem describes_followPointer {event : PointerEvent} (sound : page.Sound)
    (describes : page.Describes)
    (done : onChart id (Chart.followPointer event) page = .ok () last) : last.Describes := by
  have lastSound := keeps_sound_onChart (Chart.keeps_sound_followPointer event)
    (Chart.sameSeat_followPointer event) id page sound
  rw [done] at lastSound
  exact describes_onChart (fun _ _ chartSound right followed =>
    right.followPointer chartSound followed) sound lastSound describes done

/-- An operation that succeeds leaves every tooltip right. -/
theorem describes_perform {operation : Operation} (sound : page.Sound) (describes : page.Describes)
    (done : operation.perform page = .ok () last) : last.Describes := by
  have lastSound := keeps_sound_perform operation page sound
  rw [done] at lastSound
  cases operation with
  | addHost name width ratio =>
    rw [Operation.perform_addHost] at done
    split at done
    · cases done
      exact describes
    · cases done
  | addChart name data options look =>
    rw [Operation.perform_addChart] at done
    split at done
    · cases done
      intro id chart found
      have chartSound := (lastSound.charts id chart found).2
      change (page.charts.push _)[id]? = some chart at found
      rw [Array.getElem?_push] at found
      split at found
      · cases found
        exact chartSound.describes rfl
      · exact describes id chart found
    · cases done
  | attach id host =>
    exact describes_onSeat (fun _ _ chartSound attached =>
      Or.inl (Seat.renewed_of_attach chartSound attached)) sound lastSound describes done
  | update id data options =>
    exact describes_act (fun _ _ => Seat.renewed_of_update) (Seat.keeps_idle_update data options)
      sound lastSound describes done
  | resize id =>
    exact describes_act (fun _ _ => Seat.renewed_of_resize) Seat.keeps_idle_resize sound lastSound
      describes done
  | detach id =>
    refine describes_act (fun seat last _ detached => ?_) (keeps_modify fun _ _ => rfl) sound
      lastSound describes done
    cases detached
    exact Or.inr rfl
  | setHost host width ratio =>
    cases done
    exact describes
  | draw id highlight =>
    exact describes_onChart (fun _ _ chartSound right drawn => right.draw chartSound drawn) sound
      lastSound describes done
  | point id event => exact describes_followPointer sound describes done
  | tell host event =>
    exact holds_of_dispatch (fun _ _ _ => describes_followPointer) sound describes done

/-- As long as every operation succeeds, every tooltip stays right. -/
theorem describes_after (operations : List Operation) (sound : page.Sound)
    (describes : page.Describes) (succeeds : ∀ step ∈ history operations page, step.1 = .ok ()) :
    (page.after operations).Describes := by
  induction operations generalizing page with
  | nil => exact describes
  | cons operation rest inductionHypothesis =>
    have ended : operation.perform page = .ok () (operation.perform page).state :=
      EStateM.Result.eq_ok_of_result (succeeds _ List.mem_cons_self)
    rw [after_cons]
    exact inductionHypothesis (keeps_sound_perform operation page sound)
      (describes_perform sound describes ended)
      fun step member => succeeds step (List.mem_cons_of_mem _ member)

/-- After a run in which every operation succeeds, the point, the disc and the box that a chart
shows are all there or all absent; and if they are there, they are those of a point of its present
series at its present place, with its present text. -/
theorem shows_after (operations : List Operation)
    (succeeds : ∀ step ∈ history operations {}, step.1 = .ok ())
    (found : (after operations {}).charts[id]? = some chart) :
    chart.tooltip.overlay.isVisible = chart.tooltip.isVisible ∧
      chart.tooltip.highlight.isSome = chart.tooltip.isVisible ∧
      (chart.tooltip.isVisible = false → chart.tooltip = .hidden) ∧
      ∀ hover, chart.tooltip.hover = some hover → chart.Shows hover := by
  have started : Describes {} := fun other first none => by
    rw [show ({} : Page).charts[other]? = .none from rfl] at none
    cases none
  have describes := describes_after operations sound_empty started succeeds id chart found
  refine ⟨?_, Option.isSome_map, fun invisible => ?_, describes.shown⟩
  · cases hovered : chart.tooltip.hover with
    | none =>
      rw [describes.hidden hovered]
      rfl
    | some hover =>
      obtain ⟨date, amount, _, _, written⟩ := (describes.shown hover hovered).written
      rw [written]
      unfold Tooltip.isVisible
      rw [hovered]
      rfl
  · exact describes.hidden (Option.isSome_eq_false_iff.mp invisible |> Option.isNone_iff_eq_none.mp)

/-- The chart under the pointer shows its point. -/
theorem shows_pointing : ∃ chart hover, (after pointing {}).charts[0]? = some chart ∧
    chart.tooltip.hover = some hover ∧ chart.tooltip.overlay.isVisible = true ∧
    chart.Shows hover := by
  have visible : ((after pointing {}).charts[0]?).any (·.tooltip.isVisible) = true := by
    decide +kernel
  obtain ⟨chart, found, shown⟩ := (Option.any_eq_true _ _).mp visible
  obtain ⟨hover, hovered⟩ := Option.isSome_iff_exists.mp shown
  have succeeds : (history pointing {}).all (·.1.isOk) = true := by decide +kernel
  obtain ⟨boxed, _, _, shows⟩ := shows_after pointing (succeeds_of_all succeeds) found
  exact ⟨chart, hover, found, hovered, boxed.trans shown, shows hover hovered⟩

end Page

end SeriesChart
