/-
This file says when a pointer event that gives up leaves a chart as it was. A position that
cannot be read changes nothing. But an event that hides the tooltip or shows another point
settles this first and is drawn and written afterwards; when the drawing or the text fails
then, the tooltip is no longer what it was. So the events that leave everything as it was
whenever they give up are just those that ask for nothing that could fail.
-/

import SeriesChart.Proofs.Display.Soundness

namespace SeriesChart

/-! ### What an event asks for -/

/-- What an event asks of a tooltip: to hide what it shows, or to show a point of a chart with a
label. -/
inductive Demand where
  | hide
  | point (hover : Hover) (label : String)

namespace Demand

/-- The highlight to draw. -/
def highlight : Demand → Option Highlight
  | hide => none
  | point hover _ => some hover.highlight

end Demand

/-- What the point that was found near the pointer asks of a tooltip, if anything. -/
def Tooltip.demand? (tooltip : Tooltip) (label : String) : Option Hover → Option Demand
  | none => if tooltip.isVisible then some .hide else none
  | some hover =>
    if tooltip.hover.map Hover.index ≠ some hover.index then some (.point hover label) else none

namespace Chart

/-- Where a move of the pointer says that it is, over what the last drawing shows. -/
def position? (stage : Stage) (event : PointerEvent) : Option (HoverField × Value × Value) :=
  match stage.frame, event.x, event.y with
  | none, _, _ | _, .absent, _ | _, _, .absent => none
  | some frame, x, y => some (fieldOf frame, x, y)

/-- What an event asks of the tooltip of a chart, if anything. The position is read first. -/
def demand? (chart : Chart) (event : PointerEvent) : Except Fault (Option Demand) :=
  if chart.stage.options.showTooltip then
    if event.kind = PointerKind.leave.name then .ok (chart.tooltip.demand? "" none)
    else
      match position? chart.stage event with
      | none => .ok none
      | some (field, x, y) => do
        let found ← field.nearest? x y (.float TooltipRules.standardDistance)
        return chart.tooltip.demand? field.label found
  else .ok none

/-- What is asked can be had: the chart can be painted on its sheet with the highlight, and the text
of the point can be written. -/
structure CanMeet (chart : Chart) (demand : Demand) : Prop where
  painted : ∀ sheet, chart.stage.sheet = some sheet →
    ∃ canvas, chart.stage.painting sheet.device demand.highlight sheet.canvas = .ok () canvas
  written : ∀ hover label, demand = .point hover label →
    ∃ overlay, (TooltipRules.standard chart.stage.look.formats).overlayOf hover label = .ok overlay

end Chart

/-! ### Redrawings that give up -/

/-- A redrawing succeeds just when the chart can be painted on its sheet. -/
theorem Stage.render_succeeds_iff {stage : Stage} (coherent : stage.Coherent)
    (highlight : Option Highlight) :
    (∃ last, render highlight stage = .ok () last) ↔
      ∀ sheet, stage.sheet = some sheet →
        ∃ canvas, stage.painting sheet.device highlight sheet.canvas = .ok () canvas := by
  cases placed : stage.sheet with
  | none =>
    refine ⟨fun _ sheet same => (by cases same), fun _ => ⟨stage, ?_⟩⟩
    exact render_of_no_sheet highlight placed
  | some sheet =>
    obtain ⟨cache, drawn, _⟩ := render_eq highlight placed coherent
    rw [drawn]
    constructor
    · rintro ⟨last, done⟩ other same
      cases same
      obtain ⟨canvas, painted, _⟩ := EStateM.Result.mapState_eq_ok done
      exact ⟨canvas, painted⟩
    · intro painted
      obtain ⟨canvas, painted⟩ := painted sheet rfl
      rw [painted]
      exact ⟨_, rfl⟩

/-! ### Meeting a demand -/

namespace Tooltip

variable {Target : Type} {redraw : Option Highlight → EStateM Fault Target Unit}
variable {tooltip : Tooltip} {target : Target} {demand : Demand}

/-- Does what is asked. -/
def meet (rules : TooltipRules) (redraw : Option Highlight → EStateM Fault Target Unit) :
    Demand → Showing Target Unit
  | .hide => leave redraw
  | .point hover label => showPoint rules redraw label hover

/-- What is asked would change the tooltip. -/
def Lacks (tooltip : Tooltip) : Demand → Prop
  | .hide => tooltip.isVisible = true
  | .point hover _ => tooltip.hover.map Hover.index ≠ some hover.index

theorem demand_of_nothing (tooltip : Tooltip) (label : String) :
    tooltip.demand? label none = if tooltip.isVisible then some .hide else none := rfl

theorem demand_of_hover (tooltip : Tooltip) (label : String) (hover : Hover) :
    tooltip.demand? label (some hover) =
      if tooltip.hover.map Hover.index ≠ some hover.index then some (.point hover label)
      else none := rfl

theorem lacks_of_demand {label : String} {found : Option Hover}
    (asked : tooltip.demand? label found = some demand) : tooltip.Lacks demand := by
  cases found with
  | none =>
    rw [demand_of_nothing] at asked
    split at asked
    · rename_i visible
      cases asked
      exact visible
    · cases asked
  | some hover =>
    rw [demand_of_hover] at asked
    split at asked
    · rename_i other
      cases asked
      exact other
    · cases asked

theorem leave_of_visible (redraw : Option Highlight → EStateM Fault Target Unit)
    (visible : tooltip.isVisible = true) (target : Target) :
    leave redraw (tooltip, target) =
      (redraw none target).mapState fun target => (Tooltip.hidden, target) := by
  show (if tooltip.isVisible then onTarget (redraw none) else pure () : Showing Target Unit)
    (.hidden, target) = _
  rw [if_pos visible, onTarget_eq]

theorem leave_of_invisible (redraw : Option Highlight → EStateM Fault Target Unit)
    (invisible : tooltip.isVisible ≠ true) (target : Target) :
    leave redraw (tooltip, target) = .ok () (.hidden, target) := by
  show (if tooltip.isVisible then onTarget (redraw none) else pure () : Showing Target Unit)
    (.hidden, target) = _
  rw [if_neg invisible]
  rfl

theorem showPoint_eq (rules : TooltipRules) (redraw : Option Highlight → EStateM Fault Target Unit)
    (label : String) (hover : Hover) (tooltip : Tooltip) (target : Target) :
    showPoint rules redraw label hover (tooltip, target) =
      match redraw (some hover.highlight) target with
      | .ok _ last =>
        match rules.overlayOf hover label with
        | .ok overlay => .ok () (⟨some hover, overlay⟩, last)
        | .error fault => .error fault ({ tooltip with hover := some hover }, last)
      | .error fault last => .error fault ({ tooltip with hover := some hover }, last) := by
  show EStateM.bind (onTarget (redraw (some hover.highlight))) _
    ({ tooltip with hover := some hover }, target) = _
  unfold EStateM.bind
  rw [onTarget_eq]
  cases redraw (some hover.highlight) target with
  | error fault last => rfl
  | ok _ last =>
    show EStateM.bind (Fault.lift (rules.overlayOf hover label)) _ _ = _
    cases rules.overlayOf hover label <;> rfl

/-- What can be drawn and written is done. -/
theorem meet_eq_ok {rules : TooltipRules} (lacks : tooltip.Lacks demand)
    (drawn : ∃ last, redraw demand.highlight target = .ok () last)
    (written : ∀ hover label, demand = .point hover label →
      ∃ overlay, rules.overlayOf hover label = .ok overlay) :
    ∃ last, meet rules redraw demand (tooltip, target) = .ok () last := by
  obtain ⟨last, drawn⟩ := drawn
  cases demand with
  | hide =>
    change redraw none target = .ok () last at drawn
    show ∃ last, leave redraw (tooltip, target) = .ok () last
    rw [leave_of_visible redraw lacks, drawn]
    exact ⟨_, rfl⟩
  | point hover label =>
    obtain ⟨overlay, written⟩ := written hover label rfl
    change redraw (some hover.highlight) target = .ok () last at drawn
    show ∃ last, showPoint rules redraw label hover (tooltip, target) = .ok () last
    rw [showPoint_eq, drawn]
    dsimp only
    rw [written]
    exact ⟨_, rfl⟩

/-- What gives up while a demand is met leaves another tooltip. -/
theorem changed_of_meet {rules : TooltipRules} {fault : Fault} {last : Tooltip × Target}
    (lacks : tooltip.Lacks demand)
    (refused : meet rules redraw demand (tooltip, target) = .error fault last) :
    last.1 ≠ tooltip := by
  cases demand with
  | hide =>
    change leave redraw (tooltip, target) = .error fault last at refused
    rw [leave_of_visible redraw lacks] at refused
    obtain ⟨_, _, rfl⟩ := EStateM.Result.mapState_eq_error refused
    intro same
    change tooltip.isVisible = true at lacks
    rw [← same] at lacks
    cases lacks
  | point hover label =>
    -- Whatever fails, the point was settled before.
    have settled : last.1.hover = some hover := by
      change showPoint rules redraw label hover (tooltip, target) = .error fault last at refused
      rw [showPoint_eq] at refused
      split at refused
      · split at refused
        · cases refused
        · cases refused
          rfl
      · cases refused
        rfl
    intro same
    change tooltip.hover.map Hover.index ≠ some hover.index at lacks
    rw [← same, settled] at lacks
    exact lacks rfl

/-- What succeeds could be drawn and written. -/
theorem of_meet_eq_ok {rules : TooltipRules} {last : Tooltip × Target}
    (lacks : tooltip.Lacks demand)
    (done : meet rules redraw demand (tooltip, target) = .ok () last) :
    (∃ last, redraw demand.highlight target = .ok () last) ∧
      ∀ hover label, demand = .point hover label →
        ∃ overlay, rules.overlayOf hover label = .ok overlay := by
  cases demand with
  | hide =>
    change leave redraw (tooltip, target) = .ok () last at done
    rw [leave_of_visible redraw lacks] at done
    obtain ⟨next, drawn, _⟩ := EStateM.Result.mapState_eq_ok done
    exact ⟨⟨next, drawn⟩, fun _ _ none => by cases none⟩
  | point hover label =>
    change showPoint rules redraw label hover (tooltip, target) = .ok () last at done
    rw [showPoint_eq] at done
    split at done
    · rename_i next drawn
      split at done
      · rename_i overlay written
        refine ⟨⟨next, drawn⟩, fun other otherLabel same => ?_⟩
        cases same
        exact ⟨overlay, written⟩
      · cases done
    · cases done

/-- Hiding is done if it is asked for, and nothing can fail otherwise. -/
theorem leave_of_demand (rules : TooltipRules) {label : String}
    (asked : tooltip.demand? label none = some demand) :
    leave redraw (tooltip, target) = meet rules redraw demand (tooltip, target) := by
  rw [demand_of_nothing] at asked
  split at asked
  · cases asked
    rfl
  · cases asked

theorem leave_of_no_demand {label : String} (unasked : tooltip.demand? label none = none) :
    ∃ last, leave redraw (tooltip, target) = .ok () last := by
  rw [demand_of_nothing] at unasked
  split at unasked
  · cases unasked
  · rename_i invisible
    exact ⟨_, leave_of_invisible redraw invisible target⟩

theorem moveTo_eq (rules : TooltipRules) (redraw : Option Highlight → EStateM Fault Target Unit)
    (field : HoverField) (x y : Value) (tooltip : Tooltip) (target : Target) :
    moveTo rules redraw field x y (tooltip, target) =
      match field.nearest? x y rules.distance with
      | .error fault => .error fault (tooltip, target)
      | .ok none => leave redraw (tooltip, target)
      | .ok (some hover) =>
        if tooltip.hover.map Hover.index ≠ some hover.index then
          showPoint rules redraw field.label hover (tooltip, target)
        else .ok () (tooltip, target) := by
  show EStateM.bind (Fault.lift (field.nearest? x y rules.distance)) _ _ = _
  cases field.nearest? x y rules.distance with
  | error fault => rfl
  | ok found =>
    cases found with
    | none => rfl
    | some hover =>
      show (if tooltip.hover.map Hover.index ≠ some hover.index then
          showPoint rules redraw field.label hover else pure () : Showing Target Unit) _ =
        if tooltip.hover.map Hover.index ≠ some hover.index then _ else _
      split <;> rfl

/-- A position that was read asks for something or for nothing. -/
theorem moveTo_of_demand {rules : TooltipRules} {field : HoverField} {x y : Value}
    {found : Option Hover} (read : field.nearest? x y rules.distance = .ok found)
    (asked : tooltip.demand? field.label found = some demand) :
    moveTo rules redraw field x y (tooltip, target) =
      meet rules redraw demand (tooltip, target) := by
  rw [moveTo_eq, read]
  cases found with
  | none => exact leave_of_demand rules asked
  | some hover =>
    rw [demand_of_hover] at asked
    split at asked
    · rename_i other
      cases asked
      exact if_pos other
    · cases asked

theorem moveTo_of_no_demand {rules : TooltipRules} {field : HoverField} {x y : Value}
    {found : Option Hover} (read : field.nearest? x y rules.distance = .ok found)
    (unasked : tooltip.demand? field.label found = none) :
    ∃ last, moveTo rules redraw field x y (tooltip, target) = .ok () last := by
  rw [moveTo_eq, read]
  cases found with
  | none => exact leave_of_no_demand unasked
  | some hover =>
    rw [demand_of_hover] at unasked
    split at unasked
    · cases unasked
    · rename_i same
      exact ⟨_, if_neg same⟩

end Tooltip

/-! ### Following the pointer -/

namespace Chart

variable {chart last : Chart} {event : PointerEvent} {demand : Demand}

/-- What a chart does with an event, told by what the event asks for. -/
inductive Follows (chart : Chart) (event : PointerEvent) : Prop where
  /-- The position cannot be read, and nothing changes. -/
  | unread (fault : Fault) (unread : chart.demand? event = .error fault)
    (refused : followPointer event chart = .error fault chart)
  /-- Nothing is asked, and nothing fails. -/
  | unasked (unasked : chart.demand? event = .ok none)
    (done : ∃ last, followPointer event chart = .ok () last)
  /-- What is asked is tried. -/
  | asked (demand : Demand) (asked : chart.demand? event = .ok (some demand))
    (lacks : chart.tooltip.Lacks demand)
    (tried : followPointer event chart =
      onTooltip (Tooltip.meet (.standard chart.stage.look.formats) Stage.render demand) chart)

/-- A move is passed over without a position. -/
theorem response_of_move {stage : Stage} (wanted : stage.options.showTooltip = true)
    (moved : event.kind ≠ PointerKind.leave.name) :
    response stage event =
      match position? stage event with
      | none => pure ()
      | some (field, x, y) =>
        Tooltip.moveTo (.standard stage.look.formats) Stage.render field x y := by
  unfold response position?
  rw [if_pos wanted, if_neg moved]
  generalize stage.frame = frame, event.x = x, event.y = y
  cases frame with
  | none => rfl
  | some frame => cases x <;> cases y <;> rfl

theorem follows_of_passed (unasked : chart.demand? event = .ok none)
    (passes : response chart.stage event = pure ()) : chart.Follows event := by
  have followed := followPointer_eq event chart
  rw [passes] at followed
  exact .unasked unasked ⟨_, followed⟩

/-- What is found near the pointer decides. -/
theorem follows_of_found {action : Tooltip.Showing Stage Unit} (label : String)
    (found : Option Hover) (answers : response chart.stage event = action)
    (asking : chart.demand? event = .ok (chart.tooltip.demand? label found))
    (tries : ∀ demand, chart.tooltip.demand? label found = some demand →
      action (chart.tooltip, chart.stage) =
        Tooltip.meet (.standard chart.stage.look.formats) Stage.render demand
          (chart.tooltip, chart.stage))
    (passes : chart.tooltip.demand? label found = none →
      ∃ last, action (chart.tooltip, chart.stage) = .ok () last) : chart.Follows event := by
  have followed := followPointer_eq event chart
  rw [onTooltip_eq, answers] at followed
  cases demanded : chart.tooltip.demand? label found with
  | none =>
    obtain ⟨last, done⟩ := passes demanded
    rw [done] at followed
    exact .unasked (asking.trans (congrArg _ demanded)) ⟨_, followed⟩
  | some demand =>
    refine .asked demand (asking.trans (congrArg _ demanded)) (Tooltip.lacks_of_demand demanded) ?_
    rw [followed, tries demand demanded, onTooltip_eq]

theorem follows_of_position {field : HoverField} {x y : Value}
    (answers : response chart.stage event =
      Tooltip.moveTo (.standard chart.stage.look.formats) Stage.render field x y)
    (asking : chart.demand? event = (do
      let found ← field.nearest? x y (.float TooltipRules.standardDistance)
      return chart.tooltip.demand? field.label found)) : chart.Follows event := by
  cases read : field.nearest? x y (.float TooltipRules.standardDistance) with
  | error fault =>
    rw [read] at asking
    refine .unread fault asking ?_
    rw [followPointer_eq, answers, onTooltip_eq, Tooltip.moveTo_eq]
    show EStateM.Result.mapState _ (match field.nearest? x y (.float TooltipRules.standardDistance)
      with | .error _ => _ | .ok none => _ | .ok (some _) => _) = _
    rw [read]
    rfl
  | ok found =>
    rw [read] at asking
    exact follows_of_found field.label found answers asking (fun _ => Tooltip.moveTo_of_demand read)
      (Tooltip.moveTo_of_no_demand read)

/-- Following the pointer is reading what is asked and trying it. -/
theorem follows (chart : Chart) (event : PointerEvent) : chart.Follows event := by
  by_cases wanted : chart.stage.options.showTooltip = true
  · by_cases left : event.kind = PointerKind.leave.name
    · have leaves : response chart.stage event = Tooltip.leave Stage.render := by
        unfold response
        rw [if_pos wanted, if_pos left]
      have asking : chart.demand? event = .ok (chart.tooltip.demand? "" none) := by
        unfold demand?
        rw [if_pos wanted, if_pos left]
      exact follows_of_found "" none leaves asking (fun _ => Tooltip.leave_of_demand _)
        Tooltip.leave_of_no_demand
    · have answers := response_of_move wanted left
      have asking : chart.demand? event = _ := if_pos wanted
      rw [if_neg left] at asking
      cases placed : position? chart.stage event with
      | none =>
        rw [placed] at answers asking
        exact follows_of_passed asking answers
      | some position =>
        rw [placed] at answers asking
        exact follows_of_position answers asking
  · refine follows_of_passed ?_ ?_
    · unfold demand?
      rw [if_neg wanted]
    · unfold response
      rw [if_neg wanted]

/-- What can be met is done. -/
theorem succeeds_of_canMeet (sound : chart.Sound) (asked : chart.demand? event = .ok (some demand))
    (can : chart.CanMeet demand) : ∃ last, followPointer event chart = .ok () last := by
  obtain ⟨fault, unread, _⟩ | ⟨unasked, _⟩ | ⟨other, otherAsked, lacks, tried⟩ :=
    chart.follows event
  · rw [asked] at unread
    cases unread
  · rw [asked] at unasked
    cases unasked
  · rw [asked] at otherAsked
    cases otherAsked
    have drawn := (Stage.render_succeeds_iff sound.stage.coherent demand.highlight).mpr can.painted
    obtain ⟨last, done⟩ := Tooltip.meet_eq_ok lacks drawn can.written
    rw [tried, onTooltip_eq, done]
    exact ⟨_, rfl⟩

/-- What cannot be met is tried, gives up and leaves another tooltip. -/
theorem changed_of_not_canMeet (sound : chart.Sound)
    (asked : chart.demand? event = .ok (some demand)) (cannot : ¬chart.CanMeet demand) :
    ∃ fault last, followPointer event chart = .error fault last ∧ last.tooltip ≠ chart.tooltip := by
  obtain ⟨fault, unread, _⟩ | ⟨unasked, _⟩ | ⟨other, otherAsked, lacks, tried⟩ :=
    chart.follows event
  · rw [asked] at unread
    cases unread
  · rw [asked] at unasked
    cases unasked
  · rw [asked] at otherAsked
    cases otherAsked
    rw [tried, onTooltip_eq]
    cases ended : Tooltip.meet (.standard chart.stage.look.formats) Stage.render demand
        (chart.tooltip, chart.stage) with
    | ok _ last =>
      obtain ⟨drawn, written⟩ := Tooltip.of_meet_eq_ok lacks ended
      have painted := (Stage.render_succeeds_iff sound.stage.coherent demand.highlight).mp drawn
      exact absurd ⟨painted, written⟩ cannot
    | error fault last => exact ⟨fault, _, rfl, Tooltip.changed_of_meet lacks ended⟩

end Chart

/-! ### Events on a page -/

namespace Page

/-- An event leaves a page as it was whenever it gives up just when all that it asks for can be had:
the chart can be painted on its sheet with the new highlight or without one, and the text of the new
point can be written. Then it gives up only while its position is read. -/
theorem point_unchanged_iff (operations : List Operation) (id : ChartId) (event : PointerEvent) :
    (∀ fault last, (Operation.point id event).perform (after operations {}) = .error fault last →
        last.view = (after operations {}).view) ↔
      ∀ chart demand, (after operations {}).charts[id]? = some chart →
        chart.demand? event = .ok (some demand) → chart.CanMeet demand := by
  have sound := sound_after operations
  generalize after operations {} = page at sound
  change (∀ fault last, onChart id (Chart.followPointer event) page = .error fault last →
    last.view = page.view) ↔ _
  constructor
  · intro unchanged chart demand found asked
    refine Classical.byContradiction fun cannot => ?_
    obtain ⟨fault, last, refused, changed⟩ :=
      Chart.changed_of_not_canMeet (sound.charts id chart found).2 asked cannot
    have same := unchanged fault { page with charts := page.charts.setIfInBounds id last } (by
      rw [onChart_of_some _ found, refused]
      rfl)
    have view := (views_setChart_iff found last).mp (congrArg PageView.charts same)
    exact changed (congrArg ChartView.tooltip view)
  · intro met fault last refused
    cases found : page.charts[id]? with
    | none =>
      rw [onChart_of_none _ found] at refused
      cases refused
    | some chart =>
      rw [onChart_of_some _ found] at refused
      obtain ⟨changed, gaveUp, rfl⟩ := EStateM.Result.mapState_eq_error refused
      obtain ⟨other, _, unread⟩ | ⟨_, _, done⟩ | ⟨demand, asked, _⟩ := chart.follows event
      · rw [gaveUp] at unread
        cases unread
        rw [setIfInBounds_self found]
      · rw [gaveUp] at done
        cases done
      · obtain ⟨_, done⟩ := Chart.succeeds_of_canMeet (sound.charts id chart found).2 asked
          (met chart demand found asked)
        rw [gaveUp] at done
        cases done

/-- A script that attaches a chart of one undated point to a small host. -/
def undated : List Operation :=
  [.addHost "host" (.float 2.0) (.float 1.0),
    .addChart "chart" (.list [.list [.int 1000000000000000, .int 10]])
      (.ready { Options.standard with
        kind := .bar, height := 2, height_pos := by decide, showGrid := false })
      { padding := ⟨0.0, 0.0, 0.0, 0.0⟩ },
    .attach 0 0]

/-- The pixels of the first chart of a page. -/
def pixels? (page : Page) : Option (Array Pixel) :=
  ((page.charts[0]?).bind Chart.canvas?).map Canvas.pixels

/-- A move to the bar of a point that has no date: the event gives up while its text is written, and
then the point is settled, its disc is on the picture, and there is no box. -/
theorem changed_by_undated_hover : ∃ fault last,
    (Operation.point 0 (.moveTo (.float 1.0) (.float 1.0))).perform (after undated {}) =
        .error fault last ∧
      (last.charts[0]?).map (fun chart =>
        (chart.tooltip.isVisible, chart.tooltip.overlay.isVisible)) = some (true, false) ∧
      ((after undated {}).charts[0]?).map Chart.tooltip = some .hidden ∧
      last.pixels? ≠ (after undated {}).pixels? := by
  let outcome := (Operation.point 0 (.moveTo (.float 1.0) (.float 1.0))).perform (after undated {})
  have refused : outcome.result.isOk = false := by decide +kernel
  have half : (outcome.state.charts[0]?).map (fun chart =>
      (chart.tooltip.isVisible, chart.tooltip.overlay.isVisible)) = some (true, false) := by
    decide +kernel
  have hidden : ((after undated {}).charts[0]?).map Chart.tooltip = some .hidden := by
    decide +kernel
  have marked : outcome.state.pixels? ≠ (after undated {}).pixels? := by decide +kernel
  cases ended : outcome with
  | ok _ last =>
    rw [ended] at refused
    cases refused
  | error fault last =>
    rw [ended] at half marked
    exact ⟨fault, last, ended, half, hidden, marked⟩

end Page

end SeriesChart
