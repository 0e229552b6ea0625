/-
This file proves that the picture of a chart never falls behind what the chart shows. As
long as nothing gives up, the picture of an attached chart is what painting its series and
its highlight leaves on a clear sheet of the size of its host, as the chart read it last.
Attaching, updating, resizing, drawing and following the pointer all bring this about
again; what is done to a host does not touch the charts on it.
-/

import SeriesChart.Proofs.Display.Soundness

namespace SeriesChart

/-! ### Successful redrawings -/

/-- A redrawing that succeeds leaves what would have been painted on a clear sheet. -/
theorem Stage.render_eq_ok {stage last : Stage} {sheet blank : Sheet} {highlight : Option Highlight}
    (coherent : stage.Coherent) (placed : stage.sheet = some sheet)
    (device : sheet.device = blank.device) (valid : blank.device.background.isValid = true)
    (sized : sheet.canvas.HasSize blank.canvas.width blank.canvas.height)
    (done : render highlight stage = .ok () last) :
    ∃ cache canvas, stage.painting blank.device highlight blank.canvas = .ok () canvas ∧
      last = stage.showing blank.device cache canvas := by
  obtain ⟨cache, drawn, _⟩ := render_eq highlight placed coherent
  rw [device, stage.painting_of_hasSize highlight valid sized, done] at drawn
  obtain ⟨canvas, painted, shown⟩ := EStateM.Result.mapState_eq_ok drawn.symm
  exact ⟨cache, canvas, painted, shown.symm⟩

/-- A highlight is one disc. -/
theorem Device.paintPlan_highlightCalls (device : Device) (highlight : Option Highlight)
    (theme : Theme) (canvas : Canvas) :
    device.paintPlan (.ofCalls (highlightCalls highlight theme)) canvas =
      match highlight with
      | some highlight =>
        device.paint (.fillCircle highlight.x highlight.y highlightRadius theme.highlightColor) canvas
      | none => .ok () canvas := by
  cases highlight with
  | none => rfl
  | some highlight =>
    show EStateM.bind (device.paint _) (fun _ => pure ()) canvas = device.paint _ canvas
    unfold EStateM.bind
    cases device.paint (.fillCircle highlight.x highlight.y highlightRadius theme.highlightColor)
      canvas <;> rfl

namespace Stage

variable {stage : Stage} {device : Device} {highlight : Option Highlight} {before after : Canvas}

/-- With something to draw, the chart is painted first and then its highlight. -/
theorem painting_of_drawable (drawable : (stage.frameFor device).isDrawable = true)
    (painted : stage.painting device highlight before = .ok () after) :
    ∃ clean, device.paintPlan (stage.cleanPlan device) before = .ok () clean ∧
      device.paintPlan (.ofCalls (highlightCalls highlight stage.look.theme)) clean =
        .ok () after := by
  unfold painting at painted
  rw [if_pos drawable] at painted
  obtain ⟨_, clean, base, marked⟩ := bind_eq_ok painted
  exact ⟨clean, base, marked⟩

/-- Without anything to draw, the background is all there is. -/
theorem painting_of_not_drawable (empty : (stage.frameFor device).isDrawable ≠ true)
    (valid : device.background.isValid = true)
    (painted : stage.painting device highlight before = .ok () after) :
    after = .filled before.width before.height device.background.pixel := by
  unfold painting at painted
  rw [if_neg empty, Canvas.clear_of_isValid valid] at painted
  cases painted
  rfl

end Stage

namespace Tooltip

variable {Target : Type} {redraw : Option Highlight → EStateM Fault Target Unit}
variable {tooltip lastTooltip : Tooltip} {target last : Target}

/-- Hiding a tooltip ends with none, and with a redrawing if there was one. -/
theorem leave_eq_ok (done : leave redraw (tooltip, target) = .ok () (lastTooltip, last)) :
    lastTooltip = .hidden ∧
      (redraw none target = .ok () last ∨ tooltip.hover = none ∧ last = target) := by
  change (if tooltip.isVisible then onTarget (redraw none) else pure () : Showing Target Unit)
    (.hidden, target) = _ at done
  split at done
  · rw [onTarget_eq] at done
    obtain ⟨_, redrawn, same⟩ := EStateM.Result.mapState_eq_ok done
    cases same
    exact ⟨rfl, Or.inl redrawn⟩
  · rename_i invisible
    cases done
    exact ⟨rfl, Or.inr ⟨Option.not_isSome_iff_eq_none.mp invisible, rfl⟩⟩

/-- Showing a point ends with this point, with its text beside it, and a redrawing with its
highlight. -/
theorem showPoint_eq_ok {rules : TooltipRules} {label : String} {hover : Hover}
    (done : showPoint rules redraw label hover (tooltip, target) = .ok () (lastTooltip, last)) :
    ∃ overlay, rules.overlayOf hover label = .ok overlay ∧ lastTooltip = ⟨some hover, overlay⟩ ∧
      redraw (some hover.highlight) target = .ok () last := by
  change (onTarget (redraw (some hover.highlight)) >>= fun _ => _ : Showing Target Unit)
    ({ tooltip with hover := some hover }, target) = _ at done
  obtain ⟨_, shown, asked, done⟩ := bind_eq_ok done
  rw [onTarget_eq] at asked
  obtain ⟨_, redrawn, rfl⟩ := EStateM.Result.mapState_eq_ok asked
  obtain ⟨overlay, written, done⟩ := lift_bind_eq_ok done
  cases done
  exact ⟨overlay, written, rfl, redrawn⟩

/-- A move hides the tooltip, shows a point, or is passed over. -/
theorem moveTo_eq_ok {rules : TooltipRules} {field : HoverField} {x y : Value}
    (done : moveTo rules redraw field x y (tooltip, target) = .ok () (lastTooltip, last)) :
    leave redraw (tooltip, target) = .ok () (lastTooltip, last) ∨
      (∃ hover overlay, field.nearest? x y rules.distance = .ok (some hover) ∧
        rules.overlayOf hover field.label = .ok overlay ∧ lastTooltip = ⟨some hover, overlay⟩ ∧
        redraw (some hover.highlight) target = .ok () last) ∨
      lastTooltip = tooltip ∧ last = target := by
  obtain ⟨found, read, done⟩ := lift_bind_eq_ok done
  cases found with
  | none => exact Or.inl done
  | some hover =>
    change (if tooltip.hover.map Hover.index ≠ some hover.index then
      showPoint rules redraw field.label hover else pure () : Showing Target Unit)
        (tooltip, target) = _ at done
    split at done
    · obtain ⟨overlay, shown⟩ := showPoint_eq_ok done
      exact Or.inr (Or.inl ⟨hover, overlay, read, shown⟩)
    · cases done
      exact Or.inr (Or.inr ⟨rfl, rfl⟩)

end Tooltip

/-! ### Settled charts -/

namespace Chart

/-- The picture of the chart is what painting leaves on a clear sheet for a host, with the highlight of
the tooltip on top; and without anything to draw there is no tooltip. -/
structure IsSettled (chart : Chart) (place : Host ChartId) (blank : Sheet) (canvas : Canvas) :
    Prop where
  made : Seat.blank ⟨chart, place⟩ = .ok blank
  sheet : chart.stage.sheet = some ⟨blank.device, canvas⟩
  frame : chart.stage.frame = some (chart.stage.frameFor blank.device)
  painted : chart.stage.painting blank.device chart.tooltip.highlight blank.canvas = .ok () canvas
  hidden : (chart.stage.frameFor blank.device).isDrawable = true ∨ chart.tooltip = .hidden

/-- The chart is settled on some sheet for a host. -/
def Settled (chart : Chart) (place : Host ChartId) : Prop :=
  ∃ blank canvas, chart.IsSettled place blank canvas

/-- The chart is settled for a host and shows nothing. -/
def Renewed (chart : Chart) (place : Host ChartId) : Prop :=
  chart.Settled place ∧ chart.tooltip = .hidden

variable {chart last : Chart} {place : Host ChartId}

/-- A chart with a sheet that fits settles with every redrawing that succeeds. -/
theorem settled_of_render {highlight : Option Highlight} {stage : Stage} {tooltip : Tooltip}
    {blank sheet : Sheet} (coherent : chart.stage.Coherent)
    (made : Seat.blank ⟨chart, place⟩ = .ok blank) (placed : chart.stage.sheet = some sheet)
    (device : sheet.device = blank.device)
    (sized : sheet.canvas.HasSize blank.canvas.width blank.canvas.height)
    (done : Stage.render highlight chart.stage = .ok () stage)
    (shown : tooltip.highlight = highlight)
    (hidden : (chart.stage.frameFor blank.device).isDrawable = true ∨ tooltip = .hidden) :
    Settled { chart with tooltip, stage } place := by
  obtain ⟨cache, canvas, painted, rfl⟩ := Stage.render_eq_ok coherent placed device
    (Seat.isBlank_of_blank made).valid sized done
  rw [← shown] at painted
  exact ⟨blank, canvas, made, rfl, rfl, painted, hidden⟩

/-- Drawing a chart that shows nothing on a sheet that fits. -/
theorem renewed_of_draw {listens : List PointerKind} (coherent : chart.stage.Coherent)
    (hidden : chart.tooltip = .hidden) (fitted : Seat.IsFitted ⟨chart, place⟩)
    (done : draw none { chart with listens } = .ok () last) : last.Renewed place := by
  obtain ⟨blank, sheet, made, placed, device, sized⟩ := fitted
  rw [draw_eq] at done
  obtain ⟨stage, rendered, rfl⟩ := EStateM.Result.mapState_eq_ok done
  change Stage.render chart.tooltip.highlight chart.stage = .ok () stage at rendered
  exact ⟨settled_of_render coherent made placed device sized rendered rfl (Or.inr hidden), hidden⟩

/-- The picture on a settled chart has the size of the clear sheet. -/
theorem IsSettled.sized {blank : Sheet} {canvas : Canvas} (settled : chart.IsSettled place blank canvas) :
    canvas.HasSize blank.canvas.width blank.canvas.height := by
  have kept := chart.stage.keeps_size_painting blank.device chart.tooltip.highlight _ _ blank.canvas
    blank.canvas.hasSize_self
  rw [settled.painted] at kept
  exact kept

/-- Drawing a settled chart again. -/
theorem Settled.draw (settled : chart.Settled place) (sound : chart.Sound)
    (done : draw none chart = .ok () last) : last.Settled place := by
  obtain ⟨blank, canvas, settled⟩ := settled
  rw [draw_eq] at done
  obtain ⟨stage, rendered, rfl⟩ := EStateM.Result.mapState_eq_ok done
  exact settled_of_render sound.stage.coherent settled.made settled.sheet rfl settled.sized rendered
    rfl settled.hidden

/-- Over a chart without anything to draw there is no point. -/
theorem nearest_of_not_drawable {frame : Frame} (empty : frame.isDrawable ≠ true) (x y limit : Value) :
    (fieldOf frame).nearest? x y limit = .ok none := by
  unfold HoverField.nearest? fieldOf
  rw [Option.not_isSome_iff_eq_none.mp empty]

/-- Following the pointer on a settled chart. -/
theorem Settled.followPointer {event : PointerEvent} (settled : chart.Settled place)
    (sound : chart.Sound) (done : followPointer event chart = .ok () last) : last.Settled place := by
  obtain ⟨blank, canvas, settled⟩ := settled
  rw [followPointer_eq, onTooltip_eq] at done
  obtain ⟨⟨tooltip, stage⟩, followed, rfl⟩ := EStateM.Result.mapState_eq_ok done
  -- A redrawing settles the chart; what is passed over leaves it as it is.
  have redrawn {highlight : Option Highlight}
      (rendered : Stage.render highlight chart.stage = .ok () stage)
      (shown : tooltip.highlight = highlight)
      (hidden : (chart.stage.frameFor blank.device).isDrawable = true ∨ tooltip = .hidden) :
      Settled { chart with tooltip, stage } place :=
    settled_of_render sound.stage.coherent settled.made settled.sheet rfl settled.sized rendered
      shown hidden
  have left (hides : Tooltip.leave Stage.render (chart.tooltip, chart.stage) = .ok () (tooltip, stage)) :
      Settled { chart with tooltip, stage } place := by
    obtain ⟨rfl, rendered | ⟨invisible, rfl⟩⟩ := Tooltip.leave_eq_ok hides
    · exact redrawn rendered rfl (Or.inr rfl)
    · have painted := settled.painted
      unfold Tooltip.highlight at painted
      rw [invisible] at painted
      exact ⟨blank, canvas, settled.made, settled.sheet, settled.frame, painted, Or.inr rfl⟩
  obtain passed | hides | ⟨frame, framed, moves⟩ := response_cases chart.stage event
  · rw [passed] at followed
    cases followed
    exact ⟨blank, canvas, settled⟩
  · rw [hides] at followed
    exact left followed
  · rw [moves] at followed
    obtain hides | ⟨hover, overlay, found, _, rfl, rendered⟩ | ⟨rfl, rfl⟩ :=
      Tooltip.moveTo_eq_ok followed
    · exact left hides
    · have drawable : (chart.stage.frameFor blank.device).isDrawable = true := by
        rw [settled.frame] at framed
        cases framed
        refine Decidable.of_not_not fun empty => ?_
        rw [nearest_of_not_drawable empty] at found
        cases found
      exact redrawn rendered rfl (Or.inl drawable)
    · exact ⟨blank, canvas, settled⟩

/-- The chart has a picture of the size of a host, and its frame is that of its series and options.
With something to draw, the picture is what drawing the chart leaves on a clear sheet, with the disc of
its tooltip on top if there is one; without, it is the background, and there is no tooltip. -/
structure IsUpToDate (chart : Chart) (place : Host ChartId) (width ratio : Float) (blank : Sheet)
    (canvas : Canvas) (frame : Frame) : Prop where
  widthRead : Seat.usableWidth place = .ok width
  ratioRead : Seat.usableRatio place = .ok ratio
  made : chart.stage.blankSheet width ratio = .ok blank
  shown : chart.canvas? = some canvas
  columns : Binary.toWhole .nearestEven (width * ratio) = .ok canvas.width
  rows : Binary.toWhole .nearestEven (Float.ofInt chart.stage.options.height * ratio) =
    .ok canvas.height
  framed : chart.stage.frame = some frame
  planned : frame = .ofWidth chart.stage.series chart.stage.options width chart.stage.look.padding
  drawn : frame.isDrawable = true →
    ∃ clean, blank.device.paintPlan (framePlan frame chart.stage.look.theme chart.stage.look.formats
        none) blank.canvas = .ok () clean ∧
      match chart.tooltip.hover with
      | some hover => blank.device.paint (.fillCircle hover.x hover.y highlightRadius
          chart.stage.look.theme.highlightColor) clean = .ok () canvas
      | none => canvas = clean
  cleared : frame.isDrawable ≠ true →
    canvas = .filled canvas.width canvas.height chart.stage.look.theme.background.pixel ∧
      chart.tooltip = .hidden

/-- A settled chart is up to date. -/
theorem IsSettled.isUpToDate {blank : Sheet} {canvas : Canvas}
    (settled : chart.IsSettled place blank canvas) :
    ∃ width ratio, chart.IsUpToDate place width ratio blank canvas
      (chart.stage.frameFor blank.device) := by
  obtain ⟨width, ratio, widthRead, ratioRead, made⟩ := Seat.blank_eq_ok settled.made
  obtain ⟨device, clear⟩ := Sheet.create_eq_ok made
  obtain ⟨sameWidth, sameHeight⟩ := settled.sized
  have columns := clear.columns
  have rows := clear.rows
  unfold Device.pixel at columns rows
  rw [device, ← sameWidth] at columns
  rw [device, ← sameHeight] at rows
  refine ⟨width, ratio, widthRead, ratioRead, made, congrArg (Option.map Sheet.canvas) settled.sheet,
    columns, rows, settled.frame, ?_, fun drawable => ?_, fun empty => ⟨?_, ?_⟩⟩
  · unfold Stage.frameFor
    rw [device]
  · obtain ⟨clean, base, marked⟩ := Stage.painting_of_drawable drawable settled.painted
    refine ⟨clean, base, ?_⟩
    rw [Device.paintPlan_highlightCalls] at marked
    unfold Tooltip.highlight at marked
    cases hovered : chart.tooltip.hover with
    | none =>
      rw [hovered] at marked
      cases marked
      rfl
    | some hover =>
      rw [hovered] at marked
      exact marked
  · have filled := Stage.painting_of_not_drawable empty clear.valid settled.painted
    rw [← sameWidth, ← sameHeight, device] at filled
    exact filled
  · exact settled.hidden.resolve_left empty

end Chart

/-! ### Settled charts on their hosts -/

namespace Seat

variable {seat last : Seat}

/-- A chart that shows nothing settles when it is drawn after its sheet was fitted, whatever it listens
to by then. -/
theorem renewed_of_fitSheet {fitted : Seat} {listens : List PointerKind} {chart : Chart}
    (sound : seat.chart.Sound) (hidden : seat.chart.tooltip = .hidden)
    (ended : fitSheet seat = .ok () fitted)
    (drawn : Chart.draw none { fitted.chart with listens } = .ok () chart) :
    chart.Renewed seat.host := by
  obtain ⟨fault, _, refused⟩ | ⟨last, done, isFitted, same⟩ := fitSheet_cases seat sound.stage.made
  · rw [ended] at refused
    cases refused
  · rw [ended] at done
    cases done
    obtain rfl | ⟨sheet, rfl⟩ := same
    · exact Chart.renewed_of_draw sound.stage.coherent hidden isFitted drawn
    · have coherent : (seat.withSheet sheet).chart.stage.Coherent := Stage.coherent_forgetBase _
      exact Chart.renewed_of_draw coherent hidden isFitted drawn

/-- What is drawn anew for its host settles. -/
theorem renewed_of_refresh (sound : seat.chart.Sound) (hidden : seat.chart.tooltip = .hidden)
    (done : refresh seat = .ok () last) : last.chart.Renewed seat.host := by
  rw [refresh_eq] at done
  cases ended : fitSheet seat with
  | error fault fitted =>
    rw [ended] at done
    cases done
  | ok _ fitted =>
    rw [ended] at done
    change onChart (Chart.draw none) fitted.fitListeners = .ok () last at done
    rw [onChart_eq, chart_fitListeners] at done
    obtain ⟨chart, drawn, rfl⟩ := EStateM.Result.mapState_eq_ok done
    exact renewed_of_fitSheet sound hidden ended drawn

theorem renewed_of_attach {host : HostId} (sound : seat.chart.Sound)
    (done : attach host seat = .ok () last) : last.chart.Renewed seat.host := by
  rw [attach_eq] at done
  split at done
  · cases done
  · rename_i free
    have idle := sound.idle (eq_none_of_not_isAttached free)
    have placed : (seat.placed host).chart.Sound := { sound with idle := fun none => by cases none }
    cases ended : refresh (seat.placed host) with
    | error fault refreshed =>
      rw [ended] at done
      cases done
    | ok _ refreshed =>
      rw [ended] at done
      cases done
      exact (renewed_of_refresh placed idle.2.2.1 ended :)

/-- An update of a chart with a host settles it, and one of a chart without a host leaves it so. -/
theorem renewed_of_update {data : Value} {options : OptionsSource} (sound : seat.chart.Sound)
    (done : update data options seat = .ok () last) :
    last.chart.Renewed seat.host ∨ last.chart.host = none := by
  rw [update_eq] at done
  cases read : seat.chart.reading data options with
  | error fault =>
    rw [read] at done
    cases done
  | ok pair =>
    rw [read] at done
    let committed : Seat := { seat with chart := seat.chart.committed pair.1 pair.2 }
    change (if seat.chart.isAttached then refresh committed else .ok () committed) = _ at done
    split at done
    · exact Or.inl (renewed_of_refresh (sound.committed pair.1 pair.2) rfl done :)
    · rename_i free
      obtain ⟨_, rfl⟩ := EStateM.Result.ok.inj done
      exact Or.inr (eq_none_of_not_isAttached free)

/-- Resizing a chart with a host settles it, and one without a host stays so. -/
theorem renewed_of_resize (sound : seat.chart.Sound) (done : resize seat = .ok () last) :
    last.chart.Renewed seat.host ∨ last.chart.host = none := by
  rw [resize_eq] at done
  split at done
  · cases ended : fitSheet seat.hidden with
    | error fault fitted =>
      rw [ended] at done
      cases done
    | ok _ fitted =>
      rw [ended] at done
      change onChart (Chart.draw none) fitted = .ok () last at done
      rw [onChart_eq] at done
      obtain ⟨chart, drawn, rfl⟩ := EStateM.Result.mapState_eq_ok done
      exact Or.inl (renewed_of_fitSheet sound.hideTooltip rfl ended drawn :)
  · rename_i free
    cases done
    exact Or.inr (eq_none_of_not_isAttached free)

end Seat

/-! ### What charts read of their hosts -/

/-- The host that every chart read last, as it was then. -/
abbrev Sights := ChartId → Option (Host ChartId)

/-- A chart read a host. -/
def Sights.note (seen : Sights) : Option (ChartId × Host ChartId) → Sights
  | some (chart, place) => fun other => if other = chart then some place else seen other
  | none => seen

theorem Sights.note_self (seen : Sights) (chart : ChartId) (place : Host ChartId) :
    seen.note (some (chart, place)) chart = some place := if_pos rfl

theorem Sights.note_other (seen : Sights) {chart other : ChartId} (place : Option (Host ChartId))
    (apart : other ≠ chart) : seen.note (place.map (chart, ·)) other = seen other := by
  cases place with
  | none => rfl
  | some place => exact if_neg apart

namespace Operation

/-- The chart that reads its host in an operation, and the host as it is before. -/
def reads (page : Page) : Operation → Option (ChartId × Host ChartId)
  | attach chart host => page.hosts[host]?.map (chart, ·)
  | update chart _ _ | resize chart =>
    ((page.charts[chart]?).bind Chart.host).bind fun host => page.hosts[host]?.map (chart, ·)
  | _ => none

/-- Nothing is drawn with a highlight that is not the one of the tooltip. -/
def isPlain : Operation → Bool
  | draw _ (some _) => false
  | _ => true

end Operation

namespace Page

/-- What charts have read after a script. -/
def sightsAfter : List Operation → Page → Sights → Sights
  | [], _, seen => seen
  | operation :: rest, page, seen =>
    sightsAfter rest (operation.perform page).state (seen.note (operation.reads page))

/-- Every chart with a host is settled for that host as the chart read it last. -/
def Settled (page : Page) (seen : Sights) : Prop :=
  ∀ (id : ChartId) (chart : Chart), page.charts[id]? = some chart → chart.host ≠ none →
    ∃ place, seen id = some place ∧ chart.Settled place

variable {page last : Page} {id : ChartId} {host : HostId} {chart : Chart} {seen later : Sights}

/-- One chart changed. -/
theorem Settled.setChart (settled : page.Settled seen) (found : page.charts[id]? = some chart)
    {changed : Chart} (charts : last.charts = page.charts.setIfInBounds id changed)
    (others : ∀ other, other ≠ id → later other = seen other)
    (own : changed.host = none ∨ ∃ place, later id = some place ∧ changed.Settled place) :
    last.Settled later := by
  intro other next nextFound hosted
  rw [charts, charts_setChart page changed found] at nextFound
  split at nextFound
  · rename_i same
    cases nextFound
    rw [same]
    exact own.resolve_left hosted
  · rename_i apart
    obtain ⟨place, known, shown⟩ := settled other next nextFound hosted
    exact ⟨place, (others other apart).trans known, shown⟩

theorem settled_onChart {action : EStateM Fault Chart Unit}
    (kept : ∀ (chart last : Chart) (place : Host ChartId), chart.Sound → chart.Settled place →
      action chart = .ok () last → last.Settled place)
    (same : ∀ chart : Chart, chart.SameSeat (action chart).state) (sound : page.Sound)
    (settled : page.Settled seen) (done : onChart id action page = .ok () last) :
    last.Settled seen := by
  obtain ⟨_, rfl⟩ | ⟨chart, changed, found, acted, rfl⟩ := onChart_cases done
  · exact settled
  · refine settled.setChart found rfl (fun _ _ => rfl) ?_
    have seat := same chart
    rw [acted] at seat
    by_cases hosted : chart.host = none
    · exact Or.inl (seat.host.trans hosted)
    · obtain ⟨place, known, shown⟩ := settled id chart found hosted
      exact Or.inr ⟨place, known, kept chart changed place (sound.charts id chart found).2 shown acted⟩

theorem settled_onSeat {action : EStateM Fault Seat Unit} (settled : page.Settled seen)
    (others : ∀ other, other ≠ id → later other = seen other)
    (absent : page.hosts[host]? = none → later = seen)
    (own : ∀ chart place seat, page.charts[id]? = some chart → page.hosts[host]? = some place →
      action ⟨chart, place⟩ = .ok () seat →
      seat.chart.host = none ∨ ∃ place, later id = some place ∧ seat.chart.Settled place)
    (done : onSeat id host action page = .ok () last) : last.Settled later := by
  obtain ⟨nothing, rfl⟩ | ⟨chart, place, seat, found, placed, acted, rfl⟩ := onSeat_cases done
  · obtain unfound | unplaced := nothing
    · intro other chart otherFound hosted
      have apart : other ≠ id := fun same => by
        rw [same, unfound] at otherFound
        cases otherFound
      obtain ⟨place, known, shown⟩ := settled other chart otherFound hosted
      exact ⟨place, (others other apart).trans known, shown⟩
    · rw [absent unplaced]
      exact settled
  · exact settled.setChart found rfl others (own chart place seat found placed acted)

/-- A chart that has no host and gets none. -/
theorem settled_onDetached {action : EStateM Fault Seat Unit} (settled : page.Settled seen)
    (keptIdle : Keeps (fun seat : Seat => seat.chart.host = none) action)
    (idle : (page.charts[id]?).bind Chart.host = none)
    (done : onDetached id action page = .ok () last) : last.Settled seen := by
  obtain ⟨_, rfl⟩ | ⟨chart, seat, found, acted, rfl⟩ := onDetached_cases done
  · exact settled
  · rw [found] at idle
    have stays := keptIdle ⟨chart, nowhere⟩ idle
    rw [acted] at stays
    exact settled.setChart found rfl (fun _ _ => rfl) (Or.inl stays)

/-- What reads the host and settles the chart for it, or leaves it without a host. -/
theorem settled_onSeat_of_renews {action : EStateM Fault Seat Unit} (renews : ∀ seat last : Seat,
      seat.chart.Sound → action seat = .ok () last →
      last.chart.Renewed seat.host ∨ last.chart.host = none)
    (sound : page.Sound) (settled : page.Settled seen)
    (done : onSeat id host action page = .ok () last) :
    last.Settled (seen.note (page.hosts[host]?.map (id, ·))) := by
  refine settled_onSeat settled (fun other apart => seen.note_other _ apart) (fun absent => ?_)
    (fun chart place seat found placed acted => ?_) done
  · rw [absent]
    rfl
  · refine (renews _ _ (sound.charts id chart found).2 acted).symm.imp_right fun renewed =>
      ⟨place, ?_, renewed.1⟩
    rw [placed]
    exact seen.note_self id place

/-- What settles a chart on its host settles it on a page. -/
theorem settled_act {action : EStateM Fault Seat Unit}
    (renews : ∀ seat last : Seat, seat.chart.Sound → action seat = .ok () last →
      last.chart.Renewed seat.host ∨ last.chart.host = none)
    (keptIdle : Keeps (fun seat : Seat => seat.chart.host = none) action) (sound : page.Sound)
    (settled : page.Settled seen) (done : act id action page = .ok () last) :
    last.Settled (seen.note (((page.charts[id]?).bind Chart.host).bind fun host =>
      page.hosts[host]?.map (id, ·))) := by
  rw [act_eq] at done
  cases hosted : (page.charts[id]?).bind Chart.host with
  | none =>
    rw [hosted] at done
    exact settled_onDetached settled keptIdle hosted done
  | some host =>
    rw [hosted] at done
    exact settled_onSeat_of_renews renews sound settled done

/-- What every chart that follows an event keeps, telling the event to many of them keeps. -/
theorem holds_of_dispatch {holds : Page → Prop} {event : PointerEvent}
    (each : ∀ id page last, page.Sound → holds page →
      onChart id (Chart.followPointer event) page = .ok () last → holds last)
    (sound : page.Sound) (held : holds page) (done : dispatch host event page = .ok () last) :
    holds last := by
  unfold dispatch at done
  rw [get_bind] at done
  generalize ((page.hosts[host]?).map (·.listenersOf event.kind)).getD [] = listeners at done
  induction listeners generalizing page with
  | nil =>
    cases done
    exact held
  | cons id rest inductionHypothesis =>
    obtain ⟨_, middle, told, done⟩ := bind_eq_ok done
    change onChart id (Chart.followPointer event) page = .ok () middle at told
    have middleSound := keeps_sound_onChart (Chart.keeps_sound_followPointer event)
      (Chart.sameSeat_followPointer event) id page sound
    rw [told] at middleSound
    exact inductionHypothesis middleSound (each id page middle sound held told) done

/-- Following the pointer leaves all charts settled. -/
theorem settled_followPointer {event : PointerEvent} (sound : page.Sound) (settled : page.Settled seen)
    (done : onChart id (Chart.followPointer event) page = .ok () last) : last.Settled seen :=
  settled_onChart (fun _ _ _ chartSound shown followed => shown.followPointer chartSound followed)
    (Chart.sameSeat_followPointer event) sound settled done

/-- An operation that succeeds leaves all charts settled. -/
theorem settled_perform {operation : Operation} (plain : operation.isPlain = true)
    (sound : page.Sound) (settled : page.Settled seen)
    (done : operation.perform page = .ok () last) :
    last.Settled (seen.note (operation.reads page)) := by
  cases operation with
  | addHost name width ratio =>
    rw [Operation.perform_addHost] at done
    split at done
    · cases done
      exact settled
    · cases done
  | addChart name data options look =>
    rw [Operation.perform_addChart] at done
    split at done
    · cases done
      intro id chart found hosted
      change (page.charts.push _)[id]? = some chart at found
      rw [Array.getElem?_push] at found
      split at found
      · cases found
        exact absurd rfl hosted
      · exact settled id chart found hosted
    · cases done
  | attach id host =>
    exact settled_onSeat_of_renews (fun _ _ chartSound attached =>
      Or.inl (Seat.renewed_of_attach chartSound attached)) sound settled done
  | update id data options =>
    exact settled_act (fun _ _ => Seat.renewed_of_update) (Seat.keeps_idle_update data options) sound
      settled done
  | resize id =>
    exact settled_act (fun _ _ => Seat.renewed_of_resize) Seat.keeps_idle_resize sound settled done
  | detach id =>
    change act id (modify Seat.detach) page = .ok () last at done
    rw [act_eq] at done
    split at done
    · refine settled_onSeat settled (fun _ _ => rfl) (fun _ => rfl) (fun chart place seat _ _ acted => ?_)
        done
      cases acted
      exact Or.inl rfl
    · rename_i idle
      exact settled_onDetached settled (keeps_modify fun _ _ => rfl) idle done
  | setHost host width ratio =>
    cases done
    exact settled
  | draw id highlight =>
    cases highlight with
    | some highlight => cases plain
    | none =>
      exact settled_onChart (fun _ _ _ chartSound shown drawn => shown.draw chartSound drawn)
        (Chart.sameSeat_draw none) sound settled done
  | point id event => exact settled_followPointer sound settled done
  | tell host event =>
    exact holds_of_dispatch (fun _ _ _ => settled_followPointer) sound settled done

/-- As long as every operation succeeds, all charts stay settled. -/
theorem settled_after (operations : List Operation)
    (plain : ∀ operation ∈ operations, operation.isPlain = true) (sound : page.Sound)
    (settled : page.Settled seen) (succeeds : ∀ step ∈ history operations page, step.1 = .ok ()) :
    (page.after operations).Settled (sightsAfter operations page seen) := by
  induction operations generalizing page seen with
  | nil => exact settled
  | cons operation rest inductionHypothesis =>
    have ended : operation.perform page = .ok () (operation.perform page).state :=
      EStateM.Result.eq_ok_of_result (succeeds _ List.mem_cons_self)
    rw [after_cons]
    exact inductionHypothesis (fun other member => plain other (List.mem_cons_of_mem _ member))
      (keeps_sound_perform operation page sound)
      (settled_perform (plain operation List.mem_cons_self) sound settled ended)
      (fun step member => succeeds step (List.mem_cons_of_mem _ member))

/-- After a run in which every operation succeeds and nothing is drawn with a highlight of its own, an
attached chart is up to date with its host as it read it last. -/
theorem isUpToDate_after (operations : List Operation)
    (plain : ∀ operation ∈ operations, operation.isPlain = true)
    (succeeds : ∀ step ∈ history operations {}, step.1 = .ok ())
    (found : (after operations {}).charts[id]? = some chart) (attached : chart.isAttached = true) :
    ∃ place width ratio blank canvas frame,
      sightsAfter operations {} (fun _ => none) id = some place ∧
        chart.IsUpToDate place width ratio blank canvas frame := by
  have started : Settled {} fun _ => none := fun other first none => by
    rw [show ({} : Page).charts[other]? = .none from rfl] at none
    cases none
  obtain ⟨place, known, blank, canvas, shown⟩ :=
    settled_after operations plain sound_empty started succeeds id chart found
      (Seat.ne_none_of_isAttached attached)
  obtain ⟨width, ratio, upToDate⟩ := shown.isUpToDate
  exact ⟨place, width, ratio, blank, canvas, _, known, upToDate⟩

/-- A chart may be two pixels high. -/
theorem isHeight_two : (0 : Int) < 2 := by decide

/-- A script that leaves the pointer over the bar of a chart of four pixels. -/
def pointing : List Operation :=
  [.addHost "host" (.float 2.0) (.float 1.0),
    .addChart "chart" (.series ⟨[⟨0.0, 1.0⟩]⟩)
      (.ready { Options.standard with
        kind := .bar, height := 2, height_pos := isHeight_two, showGrid := false })
      { padding := ⟨0.0, 0.0, 0.0, 0.0⟩ },
    .attach 0 0, .tell 0 (.moveTo (.float 1.0) (.float 1.0)), .draw 0 none]

/-- Whether every operation succeeded can be computed. -/
theorem succeeds_of_all {steps : List (Except Fault Unit × PageView)}
    (all : steps.all (·.1.isOk) = true) : ∀ step ∈ steps, step.1 = .ok () := by
  intro step member
  have succeeded := List.all_eq_true.mp all step member
  cases ended : step.1 with
  | ok _ => rfl
  | error fault =>
    rw [ended] at succeeded
    cases succeeded

/-- A chart with the pointer over it is up to date. -/
theorem isUpToDate_pointing : ∃ chart, (after pointing {}).charts[0]? = some chart ∧
    chart.tooltip.isVisible = true ∧ ∃ place width ratio blank canvas frame,
      sightsAfter pointing {} (fun _ => none) 0 = some place ∧
        chart.IsUpToDate place width ratio blank canvas frame := by
  have shows : ((after pointing {}).charts[0]?).any (fun chart =>
      chart.isAttached && chart.tooltip.isVisible) = true := by decide +kernel
  obtain ⟨chart, found, both⟩ := (Option.any_eq_true _ _).mp shows
  obtain ⟨attached, visible⟩ := Bool.and_eq_true_iff.mp both
  have succeeds : (history pointing {}).all (·.1.isOk) = true := by decide +kernel
  exact ⟨chart, found, visible,
    isUpToDate_after pointing (by decide) (succeeds_of_all succeeds) found attached⟩

end Page

end SeriesChart
