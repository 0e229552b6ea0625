/-
This file proves that calls of ordinary size can be painted on every picture. A place is
rounded to a pixel as long as it is finite, and so is every place that a polygon or a disc
derives from its own; a text can be set if its characters have places in the font. A plan
of such calls is carried out just when none of its labels is missing.
-/

import SeriesChart.Proofs.Plot.Placement
import SeriesChart.Proofs.Raster.Painting

namespace SeriesChart

/-! ### Computations that have results -/

section Succeeds

variable {State Result Next : Type}

/-- The computation has a result, wherever it starts. -/
def Succeeds (action : EStateM Fault State Result) : Prop :=
  ∀ state, ∃ result after, action state = .ok result after

theorem succeeds_pure (result : Result) : Succeeds (pure result : EStateM Fault State Result) :=
  fun state => ⟨result, state, rfl⟩

theorem succeeds_get : Succeeds (get : EStateM Fault State State) :=
  fun state => ⟨state, state, rfl⟩

theorem succeeds_modify (change : State → State) :
    Succeeds (modify change : EStateM Fault State Unit) :=
  fun state => ⟨(), change state, rfl⟩

theorem succeeds_bind {action : EStateM Fault State Result}
    {next : Result → EStateM Fault State Next} (first : Succeeds action)
    (further : ∀ result, Succeeds (next result)) : Succeeds (action >>= next) := by
  intro state
  obtain ⟨result, after, done⟩ := first state
  rw [bind_of_ok done]
  exact further result after

/-- What comes after a part without a state, if that part has a result. -/
theorem succeeds_bindLift {part : Except Fault Result}
    {next : Result → EStateM Fault State Next} (known : ∃ result, part = .ok result)
    (further : ∀ result, Succeeds (next result)) :
    Succeeds ((part : EStateM Fault State Result) >>= next) := by
  obtain ⟨result, rfl⟩ := known
  exact further result

end Succeeds

/-! ### Lines, rectangles and discs -/

/-- The size of the numbers of a call. It leaves room for the sides of a bar at its place. -/
def callSize : ℤ := 125

section Device

variable {device : Device} (scaled : Within canvasSize device.ratio)

include scaled

theorem exists_pixel {length : Float} (within : Within callSize length) :
    ∃ pixel, device.pixel length = .ok pixel :=
  toWhole_of_isFinite (within_mul within scaled (by decide) (by decide)).finite _

theorem exists_place {x y : Float} (inX : Within callSize x) (inY : Within callSize y) :
    ∃ place, device.place x y = .ok place := by
  obtain ⟨column, columnRead⟩ := exists_pixel scaled inX
  obtain ⟨row, rowRead⟩ := exists_pixel scaled inY
  unfold Device.place
  rw [columnRead, rowRead]
  exact ⟨(column, row), rfl⟩

theorem exists_brush {width : Float} (within : Within callSize width) :
    ∃ brush, device.brush width = .ok brush := by
  obtain ⟨pixels, read⟩ := exists_pixel scaled within
  unfold Device.brush
  rw [read]
  exact ⟨_, rfl⟩

theorem succeeds_paintPolyline (places : List (Float × Float)) (color : Color) {width : Float}
    (within : Within callSize width) : Succeeds (device.paintPolyline places color width) := by
  unfold Device.paintPolyline
  split
  · exact succeeds_bindLift (exists_brush scaled within) fun brush => succeeds_modify _
  · exact succeeds_pure _

theorem succeeds_paintLine {x0 y0 x1 y1 width : Float} (color : Color)
    (inX0 : Within callSize x0) (inY0 : Within callSize y0) (inX1 : Within callSize x1)
    (inY1 : Within callSize y1) (within : Within callSize width) :
    Succeeds (device.paintLine x0 y0 x1 y1 color width) := by
  unfold Device.paintLine
  refine succeeds_bindLift (exists_place scaled inX0 inY0) fun start =>
    succeeds_bindLift (exists_place scaled inX1 inY1) fun stop =>
      succeeds_bindLift (exists_brush scaled within) fun brush => ?_
  split
  · exact succeeds_modify _
  · split
    · exact succeeds_modify _
    · exact succeeds_paintPolyline scaled _ color within

theorem succeeds_paintRect {x y width height : Float} (color : Color)
    (inX : Within callSize x) (inY : Within callSize y)
    (inRight : Within callSize (x + width)) (inBottom : Within callSize (y + height)) :
    Succeeds (device.paintRect x y width height color) := by
  unfold Device.paintRect
  split
  · exact succeeds_pure _
  · exact succeeds_bindLift (exists_place scaled inX inY) fun start =>
      succeeds_bindLift (exists_place scaled inRight inBottom) fun stop => succeeds_modify _

end Device

/-- The size of the places of a picture. -/
def pixelSize : ℤ := 225

theorem exists_discExtent {center radius : Float} (inCenter : Within pixelSize center)
    (inRadius : Within pixelSize radius) : ∃ extent, discExtent center radius = .ok extent := by
  obtain ⟨first, firstRead⟩ := toWhole_of_isFinite
    (within_sub inCenter inRadius (by decide) (by decide)).finite .down
  obtain ⟨last, lastRead⟩ := toWhole_of_isFinite
    (within_add inCenter inRadius (by decide) (by decide)).finite .up
  unfold discExtent
  show ∃ extent, (Binary.toWhole .down (center - radius) >>= _) = _
  rw [firstRead]
  show ∃ extent, (Binary.toWhole .up (center + radius) >>= _) = _
  rw [lastRead]
  exact ⟨_, rfl⟩

theorem succeeds_fillDisc {x y radius : Float} (color : Color) (inX : Within pixelSize x)
    (inY : Within pixelSize y) (inRadius : Within pixelSize radius) :
    Succeeds (Canvas.fillDisc x y radius color) := by
  unfold Canvas.fillDisc
  split
  · exact succeeds_pure _
  · exact succeeds_bindLift (exists_discExtent inX inRadius) fun columns =>
      succeeds_bindLift (exists_discExtent inY inRadius) fun rows => succeeds_modify _

/-! ### Polygons -/

/-- The ends of an edge are of ordinary size. -/
structure Edge.IsModerate (edge : Edge Float) : Prop where
  x0 : Within pixelSize edge.x0
  y0 : Within pixelSize edge.y0
  x1 : Within pixelSize edge.x1
  y1 : Within pixelSize edge.y1

theorem isModerate_of_mem_edgesOf {corners : List (Float × Float)}
    (moderate : ∀ corner ∈ corners, Within pixelSize corner.1 ∧ Within pixelSize corner.2)
    {edge : Edge Float} (known : edge ∈ edgesOf corners) : edge.IsModerate := by
  obtain ⟨first, firstMem, second, secondMem, rfl⟩ := ends_of_mem_edgesOf known
  exact ⟨(moderate first firstMem).1, (moderate first firstMem).2, (moderate second secondMem).1,
    (moderate second secondMem).2⟩

/-- A line that an edge crosses lies between its ends, so the crossing is a proportion of the
edge. -/
theorem within_crossingAt {edge : Edge Float} (moderate : edge.IsModerate) {line : Float}
    (crossed : edge.crosses line = true) : Within 232 (edge.crossingAt line) := by
  have between : line.isFinite = true ∧ worth edge.y0 ≠ worth edge.y1 ∧
      |worth line - worth edge.y0| ≤ |worth edge.y1 - worth edge.y0| ∧
      |worth line| ≤ 2 ^ pixelSize := by
    have y0 := abs_le.mp moderate.y0.le
    have y1 := abs_le.mp moderate.y1.le
    simp only [Edge.crosses, Bool.or_eq_true, Bool.and_eq_true, decide_eq_true_eq] at crossed
    obtain ⟨above, below⟩ | ⟨above, below⟩ := crossed
    · have finite := isFinite_of_between moderate.y0.finite moderate.y1.finite above below
      rw [le_iff_worth moderate.y0.finite finite] at above
      rw [lt_iff_worth finite moderate.y1.finite] at below
      refine ⟨finite, by linarith, ?_, abs_le.mpr ⟨by linarith, by linarith⟩⟩
      rw [abs_of_nonneg (by linarith), abs_of_nonneg (by linarith)]
      linarith
    · have finite := isFinite_of_between moderate.y1.finite moderate.y0.finite above below
      rw [le_iff_worth moderate.y1.finite finite] at above
      rw [lt_iff_worth finite moderate.y0.finite] at below
      refine ⟨finite, by linarith, ?_, abs_le.mpr ⟨by linarith, by linarith⟩⟩
      rw [abs_of_nonpos (by linarith), abs_of_nonpos (by linarith)]
      linarith
  obtain ⟨finite, different, step, small⟩ := between
  -- A crossed edge is not level, and the line is no further from its start than its end is.
  have across := within_sub moderate.x1 moderate.x0 (by decide) (by decide)
  have lineWithin : Within pixelSize line := ⟨finite, small⟩
  have part := within_sub lineWithin moderate.y0 (by decide) (by decide)
  have product := isNear_mul part.finite across.finite
  rw [mul_comm] at product
  have proportion := within_proportion across lineWithin moderate.y0 moderate.y1 (by decide)
    (by decide) (by decide) (by decide : (0 : ℤ) ≤ pixelSize + 1 + 0) (by decide) different
    (by rwa [zpow_zero, one_mul]) product
  exact (within_add (moderate.x0.mono (by decide)) proportion (by decide) (by decide)).mono
    (by decide)

/-- The centres of pixels between two crossings have numbers. -/
theorem exists_span {edges : List (Edge Float)} (moderate : ∀ edge ∈ edges, edge.IsModerate)
    {row : Int} {span : Except Fault (Int × Int)} (known : span ∈ spansOfRow edges row) :
    ∃ columns, span = .ok columns := by
  unfold spansOfRow at known
  obtain ⟨pair, paired, rfl⟩ := List.mem_map.mp known
  have crossing {place : Float} (known : place ∈ crossings edges (centerLine row)) :
      (place - Scalar.half).isFinite = true := by
    unfold crossings at known
    rw [List.mem_mergeSort] at known
    obtain ⟨edge, edgeKnown, rfl⟩ := List.mem_map.mp known
    obtain ⟨inEdges, crossed⟩ := List.mem_filter.mp edgeKnown
    exact (within_sub (within_crossingAt (moderate edge inEdges) crossed)
      (within_of_fitsSize (by decide)) (by decide) (by decide)).finite
  obtain ⟨inFirst, inSecond⟩ := mem_of_mem_pairUp paired
  obtain ⟨first, firstRead⟩ := toWhole_of_isFinite (crossing inFirst) .up
  obtain ⟨last, lastRead⟩ := toWhole_of_isFinite (crossing inSecond) .down
  unfold spanBetween
  show ∃ columns, (Binary.toWhole .up (pair.1 - Scalar.half) >>= _) = _
  rw [firstRead]
  show ∃ columns, (Binary.toWhole .down (pair.2 - Scalar.half) >>= _) = _
  rw [lastRead]
  exact ⟨_, rfl⟩

theorem succeeds_fillSpans (row : Int) (color : Color) {spans : List (Except Fault (Int × Int))}
    (known : ∀ span ∈ spans, ∃ columns, span = .ok columns) :
    Succeeds (Canvas.fillSpans row color spans) := by
  induction spans with
  | nil => exact succeeds_pure _
  | cons span rest inductionHypothesis =>
    unfold Canvas.fillSpans
    exact succeeds_bindLift (known span List.mem_cons_self) fun columns =>
      succeeds_bind (succeeds_modify _) fun _ =>
        inductionHypothesis fun other inRest => known other (List.mem_cons_of_mem _ inRest)

theorem succeeds_fillRows {edges : List (Edge Float)} (moderate : ∀ edge ∈ edges, edge.IsModerate)
    (color : Color) (count : Nat) (row : Int) :
    Succeeds (Canvas.fillRows edges color count row) := by
  induction count generalizing row with
  | zero => exact succeeds_pure _
  | succ count inductionHypothesis =>
    exact succeeds_bind (succeeds_fillSpans row color fun span => exists_span moderate) fun _ =>
      inductionHypothesis _

theorem exists_rowRange (height : Nat) {rows : List Float}
    (finite : ∀ row ∈ rows, row.isFinite = true) : ∃ range, rowRange height rows = .ok range := by
  cases rows with
  | nil => exact ⟨_, rfl⟩
  | cons first rest =>
    obtain ⟨top, topRead⟩ := toWhole_of_isFinite (finite _ (smallest_spec finite).1) .down
    obtain ⟨bottom, bottomRead⟩ := toWhole_of_isFinite (finite _ (largest_spec finite).1) .up
    unfold rowRange
    show ∃ range, (Binary.toWhole .down (smallest first rest) >>= _) = _
    rw [topRead]
    show ∃ range, (Binary.toWhole .up (largest first rest) >>= _) = _
    rw [bottomRead]
    exact ⟨_, rfl⟩

theorem succeeds_fillPolygon {corners : List (Float × Float)} (color : Color)
    (moderate : ∀ corner ∈ corners, Within pixelSize corner.1 ∧ Within pixelSize corner.2) :
    Succeeds (Canvas.fillPolygon corners color) := by
  have rows : ∀ row ∈ corners.map Prod.snd, row.isFinite = true := by
    intro row known
    obtain ⟨corner, inCorners, rfl⟩ := List.mem_map.mp known
    exact (moderate corner inCorners).2.finite
  unfold Canvas.fillPolygon
  split
  · exact succeeds_bind succeeds_get fun canvas =>
      succeeds_bindLift (exists_rowRange canvas.height rows) fun range =>
        succeeds_fillRows (fun edge => isModerate_of_mem_edgesOf moderate) color _ _
  · exact succeeds_pure _

/-! ### Texts -/

/-- Every character of the text has a place in the font. -/
def IsSettable (text : String) : Prop := ∀ character ∈ text.toList, isLatin character = true

instance (text : String) : Decidable (IsSettable text) :=
  List.decidableBAll (fun character => isLatin character = true) text.toList

/-- All characters of such a text are set, up to its end. -/
theorem latinCharacters_eq {text : String} (settable : IsSettable text) :
    latinCharacters text = .ok (text.toList.takeWhile (· ≠ '\x00')) := by
  have none : text.toList.dropWhile isLatin = [] := List.dropWhile_eq_nil_iff.mpr settable
  unfold latinCharacters
  dsimp only
  rw [none]

theorem exists_latinCharacters {text : String} (settable : IsSettable text) :
    ∃ characters, latinCharacters text = .ok characters :=
  ⟨_, latinCharacters_eq settable⟩

theorem exists_wholeSize {size : Float} (finite : size.isFinite = true) :
    ∃ whole, Font.wholeSize (.float size) = .ok whole := by
  obtain ⟨nearest, read⟩ := toWhole_of_isFinite finite .nearestEven
  unfold Font.wholeSize
  show ∃ whole, (Binary.toWhole .nearestEven size >>= _) = _
  rw [read]
  exact ⟨_, rfl⟩

/-- The extent of a text and its letters are there. -/
theorem exists_extent {text : String} (settable : IsSettable text) :
    (∃ extent, Font.bitmap.extent text = .ok extent) ∧
      ∃ letters, Font.bitmap.letters text = .ok letters := by
  obtain ⟨characters, read⟩ := exists_latinCharacters settable
  refine ⟨?_, ?_⟩
  · show ∃ extent, (latinCharacters text >>= _) = _
    rw [read]
    exact ⟨_, rfl⟩
  · show ∃ letters, (latinCharacters text >>= _) = _
    rw [read]
    exact ⟨_, rfl⟩

theorem exists_measure {text : String} (settable : IsSettable text) {size : Float}
    (finite : size.isFinite = true) (weight : Int) :
    ∃ extent, Font.bitmap.measure text (.float size) weight = .ok extent := by
  obtain ⟨whole, sizeRead⟩ := exists_wholeSize finite
  obtain ⟨extent, extentRead⟩ := (exists_extent settable).1
  unfold Font.measure
  rw [sizeRead]
  show ∃ extent, (if text = "" then _ else Font.bitmap.extent text >>= _) = _
  split
  · exact ⟨_, rfl⟩
  · rw [extentRead]
    exact ⟨_, rfl⟩

theorem exists_mask {text : String} (settable : IsSettable text) :
    ∃ mask, Font.bitmap.mask text = .ok mask := by
  obtain ⟨⟨extent, extentRead⟩, letters, lettersRead⟩ := exists_extent settable
  unfold Font.mask
  rw [extentRead, lettersRead]
  exact ⟨_, rfl⟩

theorem succeeds_drawText {text : String} (settable : IsSettable text) {size : Float}
    (finite : size.isFinite = true) (x y : Int) (color : Color) (weight : Int) :
    Succeeds (Canvas.drawText .bitmap x y text color (.float size) weight) := by
  unfold Canvas.drawText
  split
  · exact succeeds_pure _
  · exact succeeds_bindLift (exists_wholeSize finite) fun whole =>
      succeeds_bindLift (exists_mask settable) fun mask => succeeds_modify _

/-- A device with the built-in fonts sets texts of every size in the one font. -/
theorem fontOf_builtIn {device : Device} (builtIn : device.fonts = .builtIn) {size : Float}
    (finite : size.isFinite = true) : device.fontOf (.float size) = .ok .bitmap := by
  obtain ⟨whole, read⟩ := exists_wholeSize finite
  unfold Device.fontOf
  rw [read, builtIn]
  rfl

theorem succeeds_paintText {device : Device} (scaled : Within canvasSize device.ratio)
    (builtIn : device.fonts = .builtIn) {x y : Float} {text : String} (color : Color)
    {style : TextStyle} (inX : Within callSize x) (inY : Within callSize y)
    (settable : IsSettable text) (size : Within callSize style.fontSize) :
    Succeeds (device.paintText x y text color style) := by
  have finite := (within_mul size scaled (by decide) (by decide)).finite
  unfold Device.paintText
  split
  · exact succeeds_pure _
  · dsimp only
    rw [lift_bind_of_ok (fontOf_builtIn builtIn finite)]
    exact succeeds_bindLift (exists_measure settable finite _) fun extent =>
      succeeds_bindLift (exists_place scaled inX inY) fun place =>
        succeeds_drawText settable finite _ _ color _

/-! ### Calls -/

/-- The places of the call are of ordinary size, and its text can be set. -/
def DrawCall.IsModerate : DrawCall → Prop
  | .clear => True
  | .strokeLine x0 y0 x1 y1 _ width =>
    (Within callSize x0 ∧ Within callSize y0) ∧ (Within callSize x1 ∧ Within callSize y1) ∧
      Within callSize width
  | .strokePolyline _ _ width => Within callSize width
  | .fillPolygon corners _ =>
    ∀ corner ∈ corners, Within callSize corner.1 ∧ Within callSize corner.2
  | .fillCircle x y radius _ => Within callSize x ∧ Within callSize y ∧ Within callSize radius
  | .fillRect x y width height _ =>
    (Within callSize x ∧ Within callSize y) ∧ Within callSize (x + width) ∧
      Within callSize (y + height)
  | .fillText x y text _ style =>
    (Within callSize x ∧ Within callSize y) ∧ IsSettable text ∧ Within callSize style.fontSize

/-- All calls of the plan are of ordinary size. -/
def Plan.IsModerate (plan : Plan) : Prop := ∀ call, .ok call ∈ plan → call.IsModerate

section Device

variable {device : Device} (scaled : Within canvasSize device.ratio)
  (valid : device.background.isValid = true) (builtIn : device.fonts = .builtIn)

include scaled

theorem within_scaled {length : Float} (within : Within callSize length) :
    Within pixelSize (length * device.ratio) :=
  within_mul within scaled (by decide) (by decide)

include valid builtIn

/-- A call of ordinary size can be painted on every picture. -/
theorem succeeds_paint {call : DrawCall} (moderate : call.IsModerate) :
    Succeeds (device.paint call) := by
  cases call with
  | clear => exact fun canvas => ⟨(), _, Canvas.clear_of_isValid valid canvas⟩
  | strokeLine x0 y0 x1 y1 color width =>
    obtain ⟨⟨inX0, inY0⟩, ⟨inX1, inY1⟩, within⟩ := moderate
    exact succeeds_paintLine scaled color inX0 inY0 inX1 inY1 within
  | strokePolyline places color width => exact succeeds_paintPolyline scaled places color moderate
  | fillPolygon corners color =>
    refine succeeds_fillPolygon color fun corner known => ?_
    obtain ⟨place, inCorners, rfl⟩ := List.mem_map.mp known
    obtain ⟨inX, inY⟩ := moderate place inCorners
    exact ⟨within_scaled scaled inX, within_scaled scaled inY⟩
  | fillCircle x y radius color =>
    obtain ⟨inX, inY, inRadius⟩ := moderate
    exact succeeds_fillDisc color (within_scaled scaled inX) (within_scaled scaled inY)
      (within_scaled scaled inRadius)
  | fillRect x y width height color =>
    obtain ⟨⟨inX, inY⟩, inRight, inBottom⟩ := moderate
    exact succeeds_paintRect scaled color inX inY inRight inBottom
  | fillText x y text color style =>
    obtain ⟨⟨inX, inY⟩, settable, size⟩ := moderate
    exact succeeds_paintText scaled builtIn color inX inY settable size

/-- A plan of calls of ordinary size is carried out just when it does not give up. -/
theorem paintPlan_succeeds_iff {plan : Plan} (moderate : plan.IsModerate) (canvas : Canvas) :
    (∃ painted, device.paintPlan plan canvas = .ok () painted) ↔ plan.fault? = none := by
  -- A call succeeds on whatever picture the calls before it have left.
  induction plan generalizing canvas with
  | nil => exact ⟨fun _ => rfl, fun _ => ⟨canvas, rfl⟩⟩
  | cons step rest inductionHypothesis =>
    cases step with
    | error fault =>
      refine ⟨fun ⟨painted, done⟩ => ?_, fun none => ?_⟩
      · cases done
      · cases none
    | ok call =>
      obtain ⟨_, after, done⟩ := succeeds_paint scaled valid builtIn
        (moderate call List.mem_cons_self) canvas
      rw [show device.paintPlan (.ok call :: rest) canvas = device.paintPlan rest after from
        bind_of_ok done]
      exact inductionHypothesis (fun other known => moderate other (List.mem_cons_of_mem _ known))
        after

end Device

end SeriesChart
