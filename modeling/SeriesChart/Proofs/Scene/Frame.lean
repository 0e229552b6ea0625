/-
This file proves what the plan of a chart of ordinary size looks like. Every call in it is
of ordinary size, since points and ticks have places of ordinary size and labels are
written in characters that the font has. An amount can always be written, so the plan
gives up only at a tick whose time is no date.
-/

import SeriesChart.Proofs.Raster.Success
import SeriesChart.Scene.Frame

namespace SeriesChart

open Calendar

/-! ### Texts of labels -/

theorem isLatin_of_isDigit {character : Char} (digit : character.isDigit = true) :
    isLatin character = true := by
  unfold Char.isDigit at digit
  rw [Bool.and_eq_true, decide_eq_true_eq, decide_eq_true_eq] at digit
  have small : character.toNat ≤ 57 := digit.2
  exact decide_eq_true (by omega)

theorem isLatin_toDigits {count : Nat} : ∀ character ∈ Nat.toDigits 10 count,
    isLatin character = true := fun _ known =>
  isLatin_of_isDigit (Nat.isDigit_of_mem_toDigits (by decide) (by decide) known)

theorem isLatin_replicate {count : Nat} : ∀ character ∈ List.replicate count '0',
    isLatin character = true := fun _ known => by
  rw [List.eq_of_mem_replicate known]
  decide

theorem isSettable_append {first second : String} (firstSettable : IsSettable first)
    (secondSettable : IsSettable second) : IsSettable (first ++ second) := by
  intro character known
  rw [String.toList_append, List.mem_append] at known
  exact known.elim (firstSettable character) (secondSettable character)

theorem isSettable_ofList {characters : List Char}
    (latin : ∀ character ∈ characters, isLatin character = true) :
    IsSettable (String.ofList characters) := by
  intro character known
  rw [String.toList_ofList] at known
  exact latin character known

theorem isSettable_toString (count : Nat) : IsSettable (toString count) := by
  intro character known
  rw [Nat.toString_eq_repr, Nat.toList_repr] at known
  exact isLatin_toDigits character known

theorem isSettable_padded (width count : Nat) : IsSettable (Moment.padded width count) :=
  isSettable_append (isSettable_ofList isLatin_replicate) (isSettable_toString count)

theorem isSettable_shortDateText (date : Date) : IsSettable (shortDateText date) :=
  isSettable_append (isSettable_append (isSettable_padded 2 date.month) (by decide))
    (isSettable_padded 2 date.day)

/-- Between groups of digits there are commas. -/
theorem eq_comma_or_mem_of_mem_groupReversed {character : Char} {digits : List Char}
    (known : character ∈ groupReversed digits) : character = ',' ∨ character ∈ digits := by
  fun_induction groupReversed digits with
  | case1 first second third next rest inductionHypothesis =>
    simp only [List.mem_cons] at known inductionHypothesis ⊢
    tauto
  | case2 digits => exact Or.inr known

theorem isLatin_groupDigits {digits : List Char}
    (latin : ∀ character ∈ digits, isLatin character = true) :
    ∀ character ∈ groupDigits digits, isLatin character = true := by
  intro character known
  obtain rfl | isDigit := eq_comma_or_mem_of_mem_groupReversed (List.mem_reverse.mp known)
  · decide
  · exact latin character (List.mem_reverse.mp isDigit)

theorem isLatin_placesText (places count : Nat) :
    ∀ character ∈ placesText places count, isLatin character = true := by
  have padded : ∀ character ∈ List.replicate (places + 1 - (Nat.toDigits 10 count).length) '0' ++
      Nat.toDigits 10 count, isLatin character = true := fun character known =>
    (List.mem_append.mp known).elim (isLatin_replicate character) (isLatin_toDigits character)
  have whole (count : Nat) : ∀ character ∈ groupDigits (List.take count _),
      isLatin character = true :=
    isLatin_groupDigits fun character known => padded character (List.mem_of_mem_take known)
  unfold placesText
  dsimp only
  split
  · exact whole _
  · intro character known
    rw [List.mem_append, List.mem_cons] at known
    obtain inWhole | isPoint | inPlaces := known
    · exact whole _ character inWhole
    · rw [isPoint]
      decide
    · exact padded character (List.mem_of_mem_drop inPlaces)

theorem isSettable_fixedText (places : Nat) (value : Float) :
    IsSettable (fixedText places value) := by
  unfold fixedText
  split
  · decide
  · split <;> decide
  · refine isSettable_append (by split <;> decide) (isSettable_ofList fun character known => ?_)
    exact (List.mem_append.mp known).elim (isLatin_placesText _ _ character)
      (isLatin_replicate character)

/-- Every amount can be written. -/
theorem exists_amountLabel (value : Float) :
    ∃ text, amountLabel (.float value) = .ok text ∧ IsSettable text := by
  have places : placesOf standardPlaces.plain = .ok 2 := by decide +kernel
  refine ⟨fixedText 2 value, ?_, isSettable_fixedText 2 value⟩
  show (placesOf standardPlaces.plain >>= fun places => Except.ok (fixedText places value)) = _
  rw [places]
  rfl

/-- A time is written just when it has a date. -/
theorem shortDateLabel_float {time : Float} (finite : time.isFinite = true) :
    shortDateLabel (.float time) = (dateOfSeconds time).map shortDateText := by
  have seconds : (Value.float time).epochSeconds = .ok time := by
    show (if time.isFinite then _ else _ : Except Fault Float) = _
    rw [if_pos finite]
    rfl
  unfold shortDateLabel instantLabel
  dsimp only
  rw [seconds]
  show (dateOfSeconds time >>= fun date => Except.ok (shortDateText date)) = _
  cases dateOfSeconds time <;> rfl

/-! ### Plans put together -/

namespace Plan

theorem fault?_append (first second : Plan) :
    fault? (first ++ second) = none ↔ first.fault? = none ∧ second.fault? = none := by
  induction first with
  | nil => exact ⟨fun none => ⟨rfl, none⟩, fun both => both.2⟩
  | cons step rest inductionHypothesis =>
    cases step with
    | ok call => exact inductionHypothesis
    | error fault => exact ⟨fun none => (nomatch none), fun both => (nomatch both.1)⟩

variable {Item : Type} {plan : Item → Plan} {items : List Item}

theorem fault?_flatMap :
    fault? (items.flatMap plan) = none ↔ ∀ item ∈ items, (plan item).fault? = none := by
  induction items with
  | nil => exact ⟨fun _ _ known => (nomatch known), fun _ => rfl⟩
  | cons item rest inductionHypothesis =>
    rw [List.flatMap_cons, fault?_append, inductionHypothesis, List.forall_mem_cons]

theorem IsModerate.append {first second : Plan} (firstModerate : first.IsModerate)
    (secondModerate : second.IsModerate) : IsModerate (first ++ second) := fun call known =>
  (List.mem_append.mp known).elim (firstModerate call) (secondModerate call)

theorem isModerate_flatMap (moderate : ∀ item ∈ items, (plan item).IsModerate) :
    IsModerate (items.flatMap plan) := by
  intro call known
  obtain ⟨item, inItems, planned⟩ := List.mem_flatMap.mp known
  exact moderate item inItems call planned

theorem isModerate_ofCalls {calls : List DrawCall}
    (moderate : ∀ call ∈ calls, call.IsModerate) : (ofCalls calls).IsModerate := by
  intro call known
  obtain ⟨other, inCalls, same⟩ := List.mem_map.mp known
  cases same
  exact moderate call inCalls

end Plan

/-! ### Frames of ordinary size -/

/-- The background of the theme is a colour, and its texts are of ordinary size. -/
structure Theme.IsModerate (theme : Theme) : Prop where
  background : theme.background.isValid = true
  tick : Within callSize theme.tickFontSize
  title : Within callSize theme.titleFontSize

theorem Theme.isModerate_standard : ({} : Theme).IsModerate :=
  ⟨by decide, within_of_fitsSize (by decide), within_of_fitsSize (by decide)⟩

/-- What is drawn is of ordinary size, and the label of the chart can be set. -/
structure Frame.IsModerate (frame : Frame) : Prop where
  series : frame.series.IsModerate
  canvasWidth : Within canvasSize frame.canvasWidth
  area : frame.area.IsModerate
  plot : ∀ plot, frame.plot = some plot → plot.IsModerate frame.series.pairs
  settable : IsSettable frame.options.label

theorem Series.IsModerate.pairs {series : Series} (moderate : series.IsModerate) :
    ∀ pair ∈ series.pairs, Within dataSize pair.1 ∧ Within dataSize pair.2 := by
  intro pair known
  obtain ⟨point, inPoints, rfl⟩ := List.mem_map.mp known
  exact moderate point inPoints

theorem Frame.isModerate_ofWidth {series : Series} {options : Options} {width : Float}
    (moderate : series.IsModerate) (wide : Within canvasSize width)
    (tall : Within canvasSize (Float.ofInt options.height)) (settable : IsSettable options.label) :
    (Frame.ofWidth series options width .standard).IsModerate := by
  have area := isModerate_ofCanvas wide tall
  refine ⟨moderate, wide, area, fun plot made => ?_, settable⟩
  unfold Frame.ofWidth at made
  dsimp only at made
  split at made
  · cases made
  · obtain ⟨extent, covered, rfl⟩ := Option.map_eq_some_iff.mp made
    exact ⟨Extent.covers moderate.pairs covered, area⟩

/-! ### Ticks -/

section Grid

variable {plot : Plot Float} {theme : Theme} {points : List (Float × Float)}

/-- The line and the label of an amount that is written as a text. -/
def valueTickCalls (plot : Plot Float) (theme : Theme) (text : String) (value : Float) :
    List DrawCall :=
  [.strokeLine plot.area.left (plot.rowOf value) plot.area.right (plot.rowOf value)
      theme.gridColor thinLine,
    .fillText (plot.area.left - tickLabelGap) (plot.rowOf value) text theme.tickLabelColor
      { fontSize := theme.tickFontSize, align := .right, baseline := .middle }]

/-- The line and the label of a time that is written as a text. -/
def timeTickCalls (plot : Plot Float) (theme : Theme) (text : String) (time : Float) :
    List DrawCall :=
  [.strokeLine (plot.columnOf time) plot.area.top (plot.columnOf time) plot.area.bottom
      theme.gridColor thinLine,
    .fillText (plot.columnOf time) (plot.area.bottom + tickLabelGap) text theme.tickLabelColor
      { fontSize := theme.tickFontSize, align := .center, baseline := .top }]

theorem valueTickPlan_of_written {formats : LabelFormats} {value : Float} {text : String}
    (written : formats.amount value = .ok text) :
    valueTickPlan plot theme formats value = .ofCalls (valueTickCalls plot theme text value) := by
  unfold valueTickPlan
  rw [written]
  rfl

theorem timeTickPlan_of_written {formats : LabelFormats} {time : Float} {text : String}
    (written : formats.shortDate time = .ok text) :
    timeTickPlan plot theme formats time = .ofCalls (timeTickCalls plot theme text time) := by
  unfold timeTickPlan
  rw [written]
  rfl

/-- An amount has its line and its label. -/
theorem valueTickPlan_eq (plot : Plot Float) (theme : Theme) (value : Float) :
    ∃ text, IsSettable text ∧
      valueTickPlan plot theme {} value = .ofCalls (valueTickCalls plot theme text value) := by
  obtain ⟨text, written, settable⟩ := exists_amountLabel value
  exact ⟨text, settable, valueTickPlan_of_written written⟩

/-- A time has its line, and its label if it has a date. -/
theorem timeTickPlan_eq (plot : Plot Float) (theme : Theme) {time : Float}
    (finite : time.isFinite = true) :
    timeTickPlan plot theme {} time =
      [.ok (.strokeLine (plot.columnOf time) plot.area.top (plot.columnOf time) plot.area.bottom
          theme.gridColor thinLine),
        (dateOfSeconds time).map fun date =>
          .fillText (plot.columnOf time) (plot.area.bottom + tickLabelGap) (shortDateText date)
            theme.tickLabelColor
            { fontSize := theme.tickFontSize, align := .center, baseline := .top }] := by
  unfold timeTickPlan
  dsimp only
  rw [shortDateLabel_float finite]
  cases dateOfSeconds time <;> rfl

theorem within_thinLine : Within callSize thinLine := within_of_fitsSize (by decide)

theorem within_tickLabelGap : Within 102 tickLabelGap := within_of_fitsSize (by decide)

variable (moderate : plot.IsModerate points) (sizes : theme.IsModerate)

include moderate sizes

theorem isModerate_valueTickPlan {value : Float}
    (known : value ∈ plot.extent.ticks standardTickCount) :
    (valueTickPlan plot theme {} value).IsModerate := by
  obtain ⟨text, settable, planned⟩ := valueTickPlan_eq plot theme value
  have row : Within callSize (plot.rowOf value) :=
    (Plot.within_rowOf_tick moderate known).1.mono (by decide)
  have left := moderate.area.left
  have anchor := within_sub left within_tickLabelGap (by decide) (by decide)
  rw [planned]
  refine Plan.isModerate_ofCalls (List.forall_mem_cons.mpr ⟨?_, List.forall_mem_singleton.mpr ?_⟩)
  · exact ⟨⟨left.mono (by decide), row⟩, ⟨moderate.area.right.mono (by decide), row⟩,
      within_thinLine⟩
  · exact ⟨⟨anchor.mono (by decide), row⟩, settable, sizes.tick⟩

theorem isModerate_timeTickPlan {time : Float} (column : Within placeSize (plot.columnOf time))
    (finite : time.isFinite = true) : (timeTickPlan plot theme {} time).IsModerate := by
  have bottom := moderate.area.bottom
  have anchor := within_add bottom (within_tickLabelGap.mono (by decide : (102 : ℤ) ≤ 103))
    (by decide) (by decide)
  rw [timeTickPlan_eq plot theme finite]
  intro call known
  obtain isLine | isLabel := List.mem_cons.mp known
  · cases isLine
    exact ⟨⟨column.mono (by decide), moderate.area.top.mono (by decide)⟩,
      ⟨column.mono (by decide), bottom.mono (by decide)⟩, within_thinLine⟩
  · obtain label := (List.mem_singleton.mp isLabel).symm
    cases dated : dateOfSeconds time with
    | error fault =>
      rw [dated] at label
      cases label
    | ok date =>
      rw [dated] at label
      cases label
      exact ⟨⟨column.mono (by decide), anchor.mono (by decide)⟩, isSettable_shortDateText date,
        sizes.tick⟩

end Grid

/-- The times with ticks are times of points. -/
theorem exists_point_of_mem_tickTimes {series : Series} {time : Float}
    (known : time ∈ tickTimes series) : ∃ point ∈ series.points, point.timestamp = time := by
  obtain ⟨index, _, found⟩ := List.mem_filterMap.mp known
  exact List.mem_map.mp (List.mem_of_getElem? found)

section Series

variable {series : Series} {plot : Plot Float} {theme : Theme}

/-- The ticks give up just when the time of one has no date. -/
theorem fault?_gridPlan (finite : ∀ time ∈ tickTimes series, time.isFinite = true) :
    (gridPlan series plot theme {}).fault? = none ↔
      ∀ time ∈ tickTimes series, ∃ date, dateOfSeconds time = .ok date := by
  have amounts : ∀ value ∈ plot.extent.ticks standardTickCount,
      (valueTickPlan plot theme {} value).fault? = none := fun value _ => by
    obtain ⟨text, _, planned⟩ := valueTickPlan_eq plot theme value
    rw [planned, Plan.fault?_ofCalls]
  have times {time : Float} (known : time ∈ tickTimes series) :
      (timeTickPlan plot theme {} time).fault? = none ↔
        ∃ date, dateOfSeconds time = .ok date := by
    rw [timeTickPlan_eq plot theme (finite time known)]
    cases dateOfSeconds time with
    | error fault => exact ⟨fun none => (nomatch none), fun ⟨_, dated⟩ => (nomatch dated)⟩
    | ok date => exact ⟨fun _ => ⟨date, rfl⟩, fun _ => rfl⟩
  unfold gridPlan
  rw [Plan.fault?_append, Plan.fault?_flatMap, Plan.fault?_flatMap]
  exact ⟨fun both time known => (times known).mp (both.2 time known),
    fun dated => ⟨amounts, fun time known => (times known).mpr (dated time known)⟩⟩

variable (moderate : series.IsModerate) (shown : plot.IsModerate series.pairs)

include moderate shown

theorem within_place {point : Point} (known : point ∈ series.points) :
    Within placeSize (plot.columnOf point.timestamp) ∧
      Within placeSize (plot.rowOf point.value) := by
  have inPairs : (point.timestamp, point.value) ∈ series.pairs :=
    List.mem_map_of_mem (f := fun point : Point => (point.timestamp, point.value)) known
  obtain ⟨time, value⟩ := moderate point known
  have column := Plot.within_columnOf shown inPairs time
  have row := Plot.within_rowOf_point shown inPairs value
  exact ⟨column, row⟩

theorem isModerate_gridPlan (sizes : theme.IsModerate) :
    (gridPlan series plot theme {}).IsModerate := by
  refine (Plan.isModerate_flatMap fun value known => ?_).append
    (Plan.isModerate_flatMap fun time known => ?_)
  · exact isModerate_valueTickPlan shown sizes known
  · obtain ⟨point, inPoints, rfl⟩ := exists_point_of_mem_tickTimes known
    exact isModerate_timeTickPlan shown sizes (within_place moderate shown inPoints).1
      (moderate point inPoints).1.finite

/-! ### Marks -/

theorem within_of_mem_places {place : Float × Float} (known : place ∈ plot.places series) :
    Within placeSize place.1 ∧ Within placeSize place.2 := by
  rw [Plot.places_eq_map] at known
  obtain ⟨point, inPoints, rfl⟩ := List.mem_map.mp known
  exact within_place moderate shown inPoints

theorem within_of_mem_areaCorners {corner : Float × Float}
    (known : corner ∈ areaCorners (plot.places series) plot.area.bottom) :
    Within callSize corner.1 ∧ Within callSize corner.2 := by
  have bottom : Within callSize plot.area.bottom := shown.area.bottom.mono (by decide)
  unfold areaCorners at known
  rw [List.mem_append, List.mem_append, List.mem_map, List.mem_map] at known
  obtain (inPlaces | ⟨place, isLast, rfl⟩) | ⟨place, isFirst, rfl⟩ := known
  · obtain ⟨column, row⟩ := within_of_mem_places moderate shown inPlaces
    exact ⟨column.mono (by decide), row.mono (by decide)⟩
  · have inPlaces := List.mem_of_getLast? (Option.mem_toList.mp isLast)
    exact ⟨(within_of_mem_places moderate shown inPlaces).1.mono (by decide), bottom⟩
  · have inPlaces := List.mem_of_head? (Option.mem_toList.mp isFirst)
    exact ⟨(within_of_mem_places moderate shown inPlaces).1.mono (by decide), bottom⟩

theorem isModerate_lineMarks (options : Options) :
    ∀ call ∈ lineMarks (plot.places series) plot.area.bottom options, call.IsModerate := by
  intro call known
  unfold lineMarks at known
  obtain isLineOrArea | isDisc := List.mem_append.mp known
  · obtain rfl | isArea := List.mem_cons.mp isLineOrArea
    · exact within_of_fitsSize (by decide)
    · rw [List.mem_singleton.mp isArea]
      exact fun corner inCorners => within_of_mem_areaCorners moderate shown inCorners
  · obtain ⟨place, inPlaces, rfl⟩ := List.mem_map.mp isDisc
    obtain ⟨column, row⟩ := within_of_mem_places moderate shown inPlaces
    exact ⟨column.mono (by decide), row.mono (by decide), within_of_fitsSize (by decide)⟩

/-- A bar reaches to the bottom of the plot and to both sides of its place. -/
theorem isModerate_barMarks {width : Float} (wide : Within 102 width) (options : Options) :
    ∀ call ∈ barMarks (plot.places series) width plot.area.bottom options, call.IsModerate := by
  intro call known
  obtain ⟨place, inPlaces, rfl⟩ := List.mem_map.mp known
  obtain ⟨column, row⟩ := within_of_mem_places moderate shown inPlaces
  have bottom : Within placeSize plot.area.bottom := shown.area.bottom.mono (by decide)
  have left := within_sub column ((within_half wide).mono (by decide)) (by decide) (by decide)
  have right := within_add left (wide.mono (by decide)) (by decide) (by decide)
  have height := within_sub bottom row (by decide) (by decide)
  have foot := within_add (row.mono (by decide)) height (by decide) (by decide)
  exact ⟨⟨left.mono (by decide), row.mono (by decide)⟩, right.mono (by decide),
    foot.mono (by decide)⟩

theorem isModerate_seriesPlan (options : Options) :
    (seriesPlan series plot options).IsModerate := by
  unfold seriesPlan
  split
  · exact fun call known => (nomatch known)
  · split
    · exact Plan.isModerate_ofCalls (isModerate_lineMarks moderate shown options)
    · exact Plan.isModerate_ofCalls
        (isModerate_barMarks moderate shown (within_barWidth shown.area _) options)
    · exact fun call known => (nomatch List.mem_singleton.mp known)

end Series

theorem fault?_seriesPlan (series : Series) (plot : Plot Float) {options : Options}
    (kind : options.kind = .line ∨ options.kind = .bar) :
    (seriesPlan series plot options).fault? = none := by
  unfold seriesPlan
  split
  · rfl
  · obtain line | bar := kind
    · rw [line]
      exact Plan.fault?_ofCalls _
    · rw [bar]
      exact Plan.fault?_ofCalls _

/-! ### Whole charts -/

namespace Frame

variable {frame : Frame} {theme : Theme}

/-- The grid of the chart, if there is one, is dated: every tick of a time has a date. -/
def IsDated (frame : Frame) : Prop :=
  frame.isDrawable = true → frame.options.showGrid = true →
    ∀ time ∈ tickTimes frame.series, ∃ date, dateOfSeconds time = .ok date

theorem isModerate_framePlan (moderate : frame.IsModerate) (sizes : theme.IsModerate) :
    (framePlan frame theme {} none).IsModerate := by
  have surround : Plan.IsModerate (.ofCalls (axisCalls frame.area theme)) := by
    have left : Within callSize frame.area.left := moderate.area.left.mono (by decide)
    have bottom : Within callSize frame.area.bottom := moderate.area.bottom.mono (by decide)
    refine Plan.isModerate_ofCalls
      (List.forall_mem_cons.mpr ⟨?_, List.forall_mem_singleton.mpr ?_⟩)
    · exact ⟨⟨left, bottom⟩, ⟨moderate.area.right.mono (by decide), bottom⟩, within_thinLine⟩
    · exact ⟨⟨left, moderate.area.top.mono (by decide)⟩, ⟨left, bottom⟩, within_thinLine⟩
  have title : Plan.IsModerate
      (.ofCalls (labelCalls frame.options.label frame.canvasWidth theme)) := by
    have middle := within_half (moderate.canvasWidth.mono (by decide))
    refine Plan.isModerate_ofCalls fun call known => ?_
    unfold labelCalls at known
    split at known
    · cases known
    · rw [List.mem_singleton.mp known]
      exact ⟨⟨middle.mono (by decide), within_of_fitsSize (by decide)⟩, moderate.settable,
        sizes.title⟩
  intro call known
  obtain isClear | inRest := List.mem_cons.mp known
  · cases isClear
    trivial
  · split at inRest
    · cases inRest
    · rename_i plot made
      have shown := moderate.plot plot made
      have ticks : Plan.IsModerate
          (if frame.options.showGrid then gridPlan frame.series plot theme {} else []) := by
        split
        · exact isModerate_gridPlan moderate.series shown sizes
        · exact fun call known => (nomatch known)
      have marks := isModerate_seriesPlan moderate.series shown frame.options
      have nothing : Plan.IsModerate (.ofCalls (highlightCalls none theme)) :=
        fun call known => (nomatch known)
      exact ((((ticks.append marks).append surround).append title).append nothing) call inRest

/-- The plan of a chart gives up just when its grid is not dated. -/
theorem fault?_framePlan (moderate : frame.IsModerate)
    (kind : frame.options.kind = .line ∨ frame.options.kind = .bar) :
    (framePlan frame theme {} none).fault? = none ↔ frame.IsDated := by
  have finite : ∀ time ∈ tickTimes frame.series, time.isFinite = true := by
    intro time known
    obtain ⟨point, inPoints, rfl⟩ := exists_point_of_mem_tickTimes known
    exact (moderate.series point inPoints).1.finite
  have afterClear (rest : Plan) : Plan.fault? (.ok .clear :: rest) = rest.fault? := rfl
  unfold IsDated isDrawable framePlan
  rw [afterClear]
  cases frame.plot with
  | none => exact ⟨fun _ drawable => (nomatch drawable), fun _ => rfl⟩
  | some plot =>
    dsimp only
    rw [Plan.fault?_append, Plan.fault?_append, Plan.fault?_append, Plan.fault?_append,
      fault?_seriesPlan frame.series plot kind]
    simp only [Plan.fault?_ofCalls, and_true, Option.isSome_some, true_implies]
    split
    · rename_i grid
      rw [fault?_gridPlan finite]
      exact ⟨fun dated _ => dated, fun dated => dated grid⟩
    · rename_i noGrid
      exact ⟨fun _ grid => absurd grid noGrid, fun _ => rfl⟩

end Frame

end SeriesChart
