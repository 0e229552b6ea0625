/-
This file tells for which redrawings a tooltip asks while the pointer moves over one field of
points. It asks exactly when the point that is shown changes: for the highlight of the new point, or
for none when the point goes away. So the requests are the shown points with repetitions left out,
and the last request always matches what is shown. This does not depend on whether the text of a
point can be written, since the redrawing is asked for before.
-/

import SeriesChart.Proofs.Display.Demands
import SeriesChart.Proofs.Display.Pointing

namespace SeriesChart

/-! ### Points by number -/

/-- The number of the point that is shown. -/
def Tooltip.shownIndex (tooltip : Tooltip) : Option ℕ := tooltip.hover.map Hover.index

namespace HoverField

variable (field : HoverField)

/-- The highlight of a point that is given by its number, at the place of the point in the plot. -/
def highlight? (index : ℕ) : Option Highlight := do
  let plot ← field.plot
  let point ← field.series.points[index]?
  return ⟨index, plot.columnOf point.timestamp, plot.rowOf point.value⟩

/-- If a tooltip shows a point, then it is one of the field, highlighted at its place. -/
def Places (tooltip : Tooltip) : Prop :=
  tooltip.highlight = tooltip.shownIndex.bind field.highlight?

/-- The date and the amount of every point can be written. -/
def IsWritable (formats : LabelFormats) : Prop :=
  ∀ point ∈ field.series.points, ∃ date amount,
    formats.date point.timestamp = .ok date ∧ formats.amount point.value = .ok amount

/-- The requests that tell of the shown numbers after a first one: repetitions are left out, and
each other number becomes the highlight of its point. -/
def requestsFrom (current : Option ℕ) (shown : List (Option ℕ)) : RequestLog :=
  ((current :: shown).destutter (· ≠ ·)).tail.map fun number => number.bind field.highlight?

variable {field}

theorem highlight_of_nearest {x y limit : Value} {hover : Hover}
    (found : field.nearest? x y limit = .ok (some hover)) :
    field.highlight? hover.index = some hover.highlight := by
  obtain ⟨plot, placed, member, column, row⟩ := nearest_eq_some found
  unfold highlight? Hover.highlight
  rw [placed, column, row]
  show (field.series.points[hover.index]?).bind _ = _
  rw [member]
  rfl

theorem mem_of_nearest {x y limit : Value} {hover : Hover}
    (found : field.nearest? x y limit = .ok (some hover)) : hover.point ∈ field.series.points := by
  obtain ⟨_, _, member, _⟩ := nearest_eq_some found
  exact List.mem_of_getElem? member

/-- A position and a limit that are floats are always read. -/
theorem nearest_of_floats (field : HoverField) (x y limit : Float) :
    ∃ found, field.nearest? (.float x) (.float y) (.float limit) = .ok found := by
  unfold nearest?
  cases field.plot with
  | none => exact ⟨none, rfl⟩
  | some plot =>
    show ∃ found, (plot.nearestIndexAt field.series _ _ _ >>= _) = Except.ok found
    unfold Plot.nearestIndexAt
    split <;> exact ⟨_, rfl⟩

/-- The point that was found can be written if every point can. -/
theorem IsWritable.overlayOf {rules : TooltipRules} (writable : field.IsWritable rules.formats)
    {x y limit : Value} {hover : Hover} (found : field.nearest? x y limit = .ok (some hover)) :
    ∃ overlay, rules.overlayOf hover field.label = .ok overlay := by
  obtain ⟨date, amount, dated, counted⟩ := writable _ (mem_of_nearest found)
  unfold TooltipRules.overlayOf
  rw [dated, counted]
  exact ⟨_, rfl⟩

theorem places_of_none {tooltip : Tooltip} (none : tooltip.hover = none) :
    field.Places tooltip := by
  unfold Places Tooltip.highlight Tooltip.shownIndex
  rw [none]
  rfl

theorem places_of_hover {tooltip : Tooltip} {hover : Hover} (shown : tooltip.hover = some hover)
    (highlighted : field.highlight? hover.index = some hover.highlight) : field.Places tooltip := by
  unfold Places Tooltip.highlight Tooltip.shownIndex
  rw [shown]
  exact highlighted.symm

theorem Places.isSome {tooltip : Tooltip} (places : field.Places tooltip) {number : ℕ}
    (shown : tooltip.shownIndex = some number) : (field.highlight? number).isSome = true := by
  obtain ⟨hover, isHover, rfl⟩ := Option.map_eq_some_iff.mp shown
  unfold Places at places
  rw [shown, Option.bind_some] at places
  rw [← places, Tooltip.highlight, isHover]
  rfl

/-! ### Repetitions left out -/

theorem destutter'_eq_cons (current : Option ℕ) (shown : List (Option ℕ)) :
    ∃ changes, shown.destutter' (· ≠ ·) current = current :: changes := by
  induction shown with
  | nil => exact ⟨[], rfl⟩
  | cons next rest inductionHypothesis =>
    by_cases same : current = next
    · rw [List.destutter'_cons_neg _ (not_not.mpr same)]
      exact inductionHypothesis
    · rw [List.destutter'_cons_pos _ same]
      exact ⟨_, rfl⟩

/-- A number that repeats the one before adds nothing, and another one adds its request. -/
theorem requestsFrom_cons (current next : Option ℕ) (rest : List (Option ℕ)) :
    field.requestsFrom current (next :: rest) =
      if next = current then field.requestsFrom current rest
      else next.bind field.highlight? :: field.requestsFrom next rest := by
  unfold requestsFrom
  rw [List.destutter_cons', List.destutter_cons', List.destutter_cons']
  split
  · rename_i same
    rw [List.destutter'_cons_neg _ (not_not.mpr same.symm)]
  · rename_i other
    obtain ⟨changes, split⟩ := destutter'_eq_cons next rest
    rw [List.destutter'_cons_pos _ (Ne.symm other), List.tail_cons, split]
    rfl

end HoverField

/-! ### Motions of the pointer -/

/-- What the pointer does: it moves to a position or leaves. -/
inductive Motion where
  | moveTo (x y : Value)
  | leave

namespace Tooltip

section Motions

variable {Target : Type} (rules : TooltipRules) (field : HoverField)
  (redraw : Option Highlight → EStateM Fault Target Unit)

/-- Follows a motion over a field. -/
def follow : Motion → Showing Target Unit
  | .moveTo x y => moveTo rules redraw field x y
  | .leave => leave redraw

/-- What motions leave, one after the other. One that gives up leaves what it had done. -/
def followAll : List Motion → Tooltip × Target → Tooltip × Target
  | [], state => state
  | motion :: rest, state => followAll rest (follow rules field redraw motion state).state

/-- The numbers that are shown after each of the motions. -/
def shownAfter : List Motion → Tooltip × Target → List (Option ℕ)
  | [], _ => []
  | motion :: rest, state =>
    let next := (follow rules field redraw motion state).state
    next.1.shownIndex :: shownAfter rest next

end Motions

variable (rules : TooltipRules) {field : HoverField} {tooltip : Tooltip}

/-- A redrawing that does not give up. -/
def redrawing {Target : Type} (draw : Option Highlight → Target → Target)
    (request : Option Highlight) : EStateM Fault Target Unit := modify (draw request)

/-- Puts a request behind those on record. -/
def noteRequest (request : Option Highlight) (log : RequestLog) : RequestLog := log ++ [request]

theorem record_eq : RequestLog.record = redrawing noteRequest := rfl

/-- What is drawn on is redrawn if another number is shown than before, and otherwise it stays. -/
def redrawn {Target : Type} (draw : Option Highlight → Target → Target) (before after : Tooltip)
    (target : Target) : Target :=
  if after.shownIndex = before.shownIndex then target else draw after.highlight target

/-! ### One motion -/

theorem leave_redrawing {Target : Type} (draw : Option Highlight → Target → Target)
    (target : Target) :
    leave (redrawing draw) (tooltip, target) =
      .ok () (.hidden, redrawn draw tooltip .hidden target) := by
  by_cases visible : tooltip.isVisible = true
  · obtain ⟨hover, shown⟩ := Option.isSome_iff_exists.mp visible
    have other : hidden.shownIndex ≠ tooltip.shownIndex := by
      unfold shownIndex
      rw [shown]
      exact nofun
    rw [leave_of_visible _ visible, redrawn, if_neg other]
    rfl
  · have none : tooltip.hover = none := Option.not_isSome_iff_eq_none.mp visible
    have same : hidden.shownIndex = tooltip.shownIndex := by
      unfold shownIndex
      rw [none]
      rfl
    rw [leave_of_invisible _ visible, redrawn, if_pos same]

/-- A point that was not shown is shown and redrawn, whether its text can be written or not. -/
theorem showPoint_redrawing (field : HoverField) {hover : Hover}
    (other : tooltip.hover.map Hover.index ≠ some hover.index) :
    ∃ next : Tooltip, next.hover = some hover ∧
      ∀ {Target : Type} (draw : Option Highlight → Target → Target) (target : Target),
        (showPoint rules (redrawing draw) field.label hover (tooltip, target)).state =
          (next, redrawn draw tooltip next target) := by
  have asked {Target : Type} (draw : Option Highlight → Target → Target) (target : Target)
      {next : Tooltip} (shown : next.hover = some hover) :
      redrawn draw tooltip next target = draw (some hover.highlight) target := by
    have differs : next.shownIndex ≠ tooltip.shownIndex := by
      unfold shownIndex
      rw [shown]
      exact Ne.symm other
    unfold redrawn highlight
    rw [if_neg differs, shown]
    rfl
  cases written : rules.overlayOf hover field.label with
  | ok overlay =>
    refine ⟨⟨some hover, overlay⟩, rfl, fun draw target => ?_⟩
    rw [showPoint_eq, written, asked draw target rfl]
    rfl
  | error fault =>
    refine ⟨{ tooltip with hover := some hover }, rfl, fun draw target => ?_⟩
    rw [showPoint_eq, written, asked draw target rfl]
    rfl

/-- A move ends with the nearest point if one is near enough, and without a point otherwise. -/
theorem moveTo_redrawing (tooltip : Tooltip) {x y : Value} {found : Option Hover}
    (read : field.nearest? x y rules.distance = .ok found) :
    ∃ next : Tooltip, next.shownIndex = found.map Hover.index ∧
      (next = tooltip ∨ next.hover = found) ∧
      ∀ {Target : Type} (draw : Option Highlight → Target → Target) (target : Target),
        (moveTo rules (redrawing draw) field x y (tooltip, target)).state =
          (next, redrawn draw tooltip next target) := by
  cases found with
  | none =>
    refine ⟨hidden, rfl, Or.inr rfl, fun draw target => ?_⟩
    rw [moveTo_eq, read]
    exact congrArg _ (leave_redrawing draw target)
  | some hover =>
    by_cases other : tooltip.hover.map Hover.index ≠ some hover.index
    · obtain ⟨next, shown, ended⟩ := showPoint_redrawing rules field other
      refine ⟨next, congrArg (Option.map Hover.index) shown, Or.inr shown, fun draw target => ?_⟩
      rw [moveTo_eq, read]
      dsimp only
      rw [if_pos other]
      exact ended draw target
    · refine ⟨tooltip, not_not.mp other, Or.inl rfl, fun draw target => ?_⟩
      rw [moveTo_eq, read]
      dsimp only
      rw [if_neg other, redrawn, if_pos rfl]
      rfl

/-- A motion asks for a redrawing just when it changes the point that is shown, and then once, with
the highlight of the new one. -/
theorem follow_redrawing (places : field.Places tooltip) (motion : Motion) :
    ∃ next, field.Places next ∧
      ∀ {Target : Type} (draw : Option Highlight → Target → Target) (target : Target),
        (follow rules field (redrawing draw) motion (tooltip, target)).state =
          (next, redrawn draw tooltip next target) := by
  cases motion with
  | leave => exact ⟨hidden, rfl, fun draw target => congrArg _ (leave_redrawing draw target)⟩
  | moveTo x y =>
    cases read : field.nearest? x y rules.distance with
    | error fault =>
      refine ⟨tooltip, places, fun draw target => ?_⟩
      show (moveTo rules (redrawing draw) field x y (tooltip, target)).state = _
      rw [moveTo_eq, read, redrawn, if_pos rfl]
      rfl
    | ok found =>
      obtain ⟨next, -, same | shown, ended⟩ := moveTo_redrawing rules tooltip read
      · exact ⟨next, same ▸ places, ended⟩
      · refine ⟨next, ?_, ended⟩
        cases found with
        | none => exact HoverField.places_of_none shown
        | some hover =>
          exact HoverField.places_of_hover shown (HoverField.highlight_of_nearest read)

/-- A move whose position can be read does not give up where every point can be written. -/
theorem moveTo_returns {Target : Type} (draw : Option Highlight → Target → Target)
    (state : Tooltip × Target) (writable : field.IsWritable rules.formats) {x y : Value}
    {found : Option Hover} (read : field.nearest? x y rules.distance = .ok found) :
    ∃ last, moveTo rules (redrawing draw) field x y state = .ok () last := by
  obtain ⟨tooltip, target⟩ := state
  rw [moveTo_eq, read]
  cases found with
  | none => exact ⟨_, leave_redrawing draw target⟩
  | some hover =>
    dsimp only
    split
    · obtain ⟨overlay, written⟩ := writable.overlayOf read
      rw [showPoint_eq, written]
      exact ⟨_, rfl⟩
    · exact ⟨_, rfl⟩

/-! ### Motions one after the other -/

/-- What is drawn on is redrawn for all requests, in order. -/
def redrawAll {Target : Type} (draw : Option Highlight → Target → Target) (requests : RequestLog)
    (target : Target) : Target :=
  requests.foldl (fun target request => draw request target) target

theorem redrawAll_noteRequest (requests log : RequestLog) :
    redrawAll noteRequest requests log = log ++ requests := by
  induction requests generalizing log with
  | nil => exact (List.append_nil log).symm
  | cons request rest inductionHypothesis =>
    exact (inductionHypothesis _).trans (List.append_assoc log [request] rest)

theorem redrawAll_requestsFrom {Target : Type} (draw : Option Highlight → Target → Target)
    {next : Tooltip} (places : field.Places next) (rest : List (Option ℕ)) (target : Target) :
    redrawAll draw (field.requestsFrom tooltip.shownIndex (next.shownIndex :: rest)) target =
      redrawAll draw (field.requestsFrom next.shownIndex rest)
        (redrawn draw tooltip next target) := by
  unfold redrawn
  rw [HoverField.requestsFrom_cons]
  split
  · rename_i same
    rw [same]
  · rw [← places]
    rfl

/-- The last request tells what is shown, and without any request the same is shown as before. -/
theorem getLastD_requestsFrom {next : Tooltip} (before : field.Places tooltip)
    (places : field.Places next) (rest : List (Option ℕ)) :
    (field.requestsFrom tooltip.shownIndex (next.shownIndex :: rest)).getLastD tooltip.highlight =
      (field.requestsFrom next.shownIndex rest).getLastD next.highlight := by
  rw [HoverField.requestsFrom_cons]
  split
  · rename_i same
    rw [places, before, same]
  · rw [List.getLastD_cons, ← places]

/-- However it is redrawn, motions end with the same tooltip, and what is drawn on was redrawn for
the changes among the numbers that were shown. -/
theorem followAll_redrawing (places : field.Places tooltip) (motions : List Motion) :
    ∃ last shown, field.Places last ∧
      (∀ number, some number ∈ shown → (field.highlight? number).isSome = true) ∧
      (field.requestsFrom tooltip.shownIndex shown).getLastD tooltip.highlight = last.highlight ∧
      ∀ {Target : Type} (draw : Option Highlight → Target → Target) (target : Target),
        followAll rules field (redrawing draw) motions (tooltip, target) =
            (last, redrawAll draw (field.requestsFrom tooltip.shownIndex shown) target) ∧
          shownAfter rules field (redrawing draw) motions (tooltip, target) = shown := by
  induction motions generalizing tooltip with
  | nil => exact ⟨tooltip, [], places, nofun, rfl, fun draw target => ⟨rfl, rfl⟩⟩
  | cons motion rest inductionHypothesis =>
    obtain ⟨next, nextPlaces, ended⟩ := follow_redrawing rules places motion
    obtain ⟨last, shown, lastPlaces, highlighted, matched, drawn⟩ := inductionHypothesis nextPlaces
    refine ⟨last, next.shownIndex :: shown, lastPlaces,
      fun number known => (List.mem_cons.mp known).elim
        (fun same => nextPlaces.isSome same.symm) (highlighted number),
      (getLastD_requestsFrom places nextPlaces shown).trans matched, fun draw target => ?_⟩
    obtain ⟨restDrawn, restShown⟩ := drawn draw (redrawn draw tooltip next target)
    unfold followAll shownAfter
    rw [ended draw target, redrawAll_requestsFrom draw nextPlaces]
    exact ⟨restDrawn, congrArg _ restShown⟩

/-- From a hidden tooltip on, the requests on record are the numbers of the shown points with
repetitions left out, each as the highlight of its point, and without the first one, which stands
for the start; so the last of them is the highlight of what is shown. A motion that changes what is
shown asks for one redrawing, and any other motion for none; a move shows the nearest point.
Another redrawing in the place of the record is made for the same requests in the same order, and
nothing gives up where texts can be written and positions read. A reset hides the tooltip and asks
for nothing, so the same holds from there on. -/
theorem requests_follow_hover (rules : TooltipRules) (field : HoverField)
    (motions : List Motion) :
    let last := followAll rules field RequestLog.record motions (.hidden, [])
    let shown := shownAfter rules field RequestLog.record motions (.hidden, [])
    last.2 = (((none :: shown).destutter (· ≠ ·)).tail.map fun number =>
      number.bind field.highlight?) ∧
    last.2.getLastD none = last.1.highlight ∧
    (∀ number, some number ∈ shown → (field.highlight? number).isSome = true) ∧
    (∀ motion, let next := (follow rules field RequestLog.record motion last).state
      next.2 = last.2 ++ if next.1.shownIndex = last.1.shownIndex then []
        else [next.1.shownIndex.bind field.highlight?]) ∧
    (∀ x y found, field.nearest? x y rules.distance = .ok found →
      (follow rules field RequestLog.record (.moveTo x y) last).state.1.shownIndex =
        found.map Hover.index) ∧
    ∀ {Target : Type} (draw : Option Highlight → Target → Target) (target : Target),
      (∀ tooltip, reset (tooltip, target) = .ok () (.hidden, target)) ∧
      followAll rules field (redrawing draw) motions (.hidden, target) =
        (last.1, redrawAll draw last.2 target) ∧
      (∀ tooltip, ∃ next, follow rules field (redrawing draw) .leave (tooltip, target) =
        .ok () (.hidden, next)) ∧
      (field.IsWritable rules.formats → ∀ limit, rules.distance = .float limit →
        ∀ tooltip x y, ∃ next, follow rules field (redrawing draw)
          (.moveTo (.float x) (.float y)) (tooltip, target) = .ok () next) := by
  intro last shown
  obtain ⟨lastTooltip, numbers, places, highlighted, matched, drawn⟩ :=
    followAll_redrawing rules (show field.Places hidden from rfl) motions
  obtain ⟨ended, listed⟩ := drawn noteRequest []
  rw [redrawAll_noteRequest, List.nil_append, ← record_eq] at ended
  rw [← record_eq] at listed
  have lastEq : last = (lastTooltip, field.requestsFrom none numbers) := ended
  have shownEq : shown = numbers := listed
  rw [lastEq, shownEq]
  refine ⟨rfl, matched, highlighted, fun motion => ?_, fun x y found read => ?_,
    fun draw target => ⟨fun tooltip => rfl, (drawn draw target).1, fun tooltip => ?_,
      fun writable limit isLimit tooltip x y => ?_⟩⟩
  · obtain ⟨next, nextPlaces, step⟩ := follow_redrawing rules places motion
    dsimp only
    rw [record_eq, step noteRequest, redrawn, nextPlaces]
    split
    · exact (List.append_nil _).symm
    · rfl
  · obtain ⟨next, shows, -, step⟩ := moveTo_redrawing rules lastTooltip read
    show (moveTo rules RequestLog.record field x y (lastTooltip, _)).state.1.shownIndex = _
    rw [record_eq, step noteRequest]
    exact shows
  · exact ⟨_, leave_redrawing draw target⟩
  · obtain ⟨found, read⟩ := field.nearest_of_floats x y limit
    rw [← isLimit] at read
    exact moveTo_returns rules draw (tooltip, target) writable read

end Tooltip

end SeriesChart
