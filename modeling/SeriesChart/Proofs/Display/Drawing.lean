/-
This file proves which charts can be drawn. As long as the numbers of a chart are of
ordinary size, neither its scales nor its ticks, its marks, its label nor its pixels stand
in the way: there is a picture just when the machine can hold one of its size and every
tick of a time has a date. Not every series that is accepted has such times.
-/

import SeriesChart.Proofs.Display.Freshness
import SeriesChart.Proofs.Scene.Frame

namespace SeriesChart

/-! ### Charts of ordinary size -/

/-- The options are valid, and the height and the label of the chart can be shown. -/
structure Options.IsModerate (options : Options) : Prop where
  kind : options.kind = .line ∨ options.kind = .bar
  tall : Within canvasSize (Float.ofInt options.height)
  settable : IsSettable options.label

/-- The value reads as a length above zero, of ordinary size. -/
structure Value.IsLength (value : Value) (length : Float) : Prop where
  read : value.toFloat = .ok length
  positive : 0.0 < length
  within : Within canvasSize length

/-! ### Clear sheets -/

theorem nonneg_of_bytesWith {shape : List Int} {bytes total : Nat}
    (counted : shape.foldlM ArrayForm.bytesWith bytes = .ok total) : ∀ size ∈ shape, 0 ≤ size := by
  induction shape generalizing bytes with
  | nil => exact fun _ known => (nomatch known)
  | cons size rest inductionHypothesis =>
    obtain ⟨next, taken, counted⟩ := except_bind_eq_ok counted
    refine List.forall_mem_cons.mpr ⟨?_, inductionHypothesis counted⟩
    refine Int.not_lt.mp fun negative => ?_
    unfold ArrayForm.bytesWith at taken
    rw [if_neg negative.ne, if_pos negative] at taken
    cases taken

/-- What the machine can hold has no negative size. -/
theorem ArrayForm.nonneg_of_check {form : ArrayForm} (held : form.check = .ok ()) :
    ∀ size ∈ form.shape, 0 ≤ size := by
  obtain ⟨total, counted, _⟩ := except_bind_eq_ok held
  unfold ArrayForm.bytes at counted
  split at counted
  · cases counted
  · exact nonneg_of_bytesWith counted

/-- A clear picture can be made just when the machine can hold it. -/
theorem Canvas.create_succeeds_iff {width height : Int} {color : Color}
    (valid : color.isValid = true) :
    (∃ canvas, Canvas.create width height color = .ok canvas) ↔
      ArrayForm.check ⟨.byte, [height, width, 4]⟩ = .ok () := by
  constructor
  · rintro ⟨canvas, made⟩
    unfold Canvas.create at made
    by_cases negative : width < 0 ∨ height < 0
    · rw [if_pos negative] at made
      cases made
    · rw [if_neg negative] at made
      obtain ⟨_, held, _⟩ := except_bind_eq_ok made
      exact held
  · intro held
    have nonnegative := ArrayForm.nonneg_of_check held
    have tall : 0 ≤ height := nonnegative height List.mem_cons_self
    have wide : 0 ≤ width := nonnegative width (List.mem_cons_of_mem _ List.mem_cons_self)
    unfold Canvas.create EStateM.run
    rw [if_neg (by omega), held, Canvas.clear_of_isValid valid]
    exact ⟨_, rfl⟩

/-- The machine can hold a picture of a size in logical pixels. -/
def HasMemoryFor (width height ratio : Float) : Prop :=
  ∃ columns rows, Binary.toWhole .nearestEven (width * ratio) = .ok columns ∧
    Binary.toWhole .nearestEven (height * ratio) = .ok rows ∧
    ArrayForm.check ⟨.byte, [rows, columns, 4]⟩ = .ok ()

theorem not_le_zero_of_pos {number : Float} (finite : number.isFinite = true)
    (positive : 0.0 < number) : ¬number ≤ 0.0 := by
  have zeroFinite : (0.0 : Float).isFinite = true := by decide
  rw [le_iff_worth finite zeroFinite]
  exact ((lt_iff_worth zeroFinite finite).mp positive).not_ge

section Sheet

variable {width ratio : Float} {height : Int} {background : Color} {fontFamily : String}
  {fonts : Fonts} (wide : width.isFinite = true) (widthPositive : 0.0 < width)
  (fine : ratio.isFinite = true) (ratioPositive : 0.0 < ratio)
  (tall : (Float.ofInt height).isFinite = true) (heightPositive : 0 < height)

include wide widthPositive fine ratioPositive tall heightPositive

theorem Sheet.create_eq :
    create (.float width) (.int height) (.float ratio) background fontFamily fonts = do
      let columns ← Binary.toWhole .nearestEven (width * ratio)
      let rows ← Binary.toWhole .nearestEven (Float.ofInt height * ratio)
      return ⟨⟨width, Float.ofInt height, ratio, background, fontFamily, fonts⟩,
        ← Canvas.create columns rows background⟩ := by
  have ratioAbove : (Value.float ratio).isAtMostZero = .ok false :=
    congrArg Except.ok (decide_eq_false (not_le_zero_of_pos fine ratioPositive))
  have widthAbove : (Value.float width).isNegative = .ok false :=
    Value.isNegative_of_isAtMostZero
      (congrArg Except.ok (decide_eq_false (not_le_zero_of_pos wide widthPositive)))
  have heightAbove : (Value.int height).isNegative = .ok false :=
    congrArg Except.ok (decide_eq_false (by omega))
  have heightRead : (Value.int height).toFloat = .ok (Float.ofInt height) := ofInt_of_isFinite tall
  unfold create
  rw [ratioAbove, widthAbove, heightAbove, heightRead]
  rfl

/-- A clear sheet can be made just when the machine can hold its picture. -/
theorem Sheet.create_succeeds_iff (valid : background.isValid = true) :
    (∃ blank, create (.float width) (.int height) (.float ratio) background fontFamily fonts =
        .ok blank) ↔ HasMemoryFor width (Float.ofInt height) ratio := by
  rw [Sheet.create_eq wide widthPositive fine ratioPositive tall heightPositive]
  constructor
  · rintro ⟨blank, made⟩
    obtain ⟨columns, columnsRead, made⟩ := except_bind_eq_ok made
    obtain ⟨rows, rowsRead, made⟩ := except_bind_eq_ok made
    obtain ⟨canvas, painted, _⟩ := except_bind_eq_ok made
    exact ⟨columns, rows, columnsRead, rowsRead,
      (Canvas.create_succeeds_iff valid).mp ⟨canvas, painted⟩⟩
  · rintro ⟨columns, rows, columnsRead, rowsRead, held⟩
    obtain ⟨canvas, painted⟩ := (Canvas.create_succeeds_iff valid).mpr held
    rw [columnsRead, rowsRead]
    show ∃ blank, (Canvas.create columns rows background >>= _) = _
    rw [painted]
    exact ⟨_, rfl⟩

end Sheet

/-- A chart of ordinary size is painted just when its grid is dated, whatever was on the picture. -/
theorem Stage.painting_succeeds_iff {stage : Stage} {device : Device}
    (padding : stage.look.padding = .standard) (formats : stage.look.formats = {})
    (sizes : stage.look.theme.IsModerate) (series : stage.series.IsModerate)
    (options : stage.options.IsModerate) (wide : Within canvasSize device.width)
    (scaled : Within canvasSize device.ratio) (valid : device.background.isValid = true)
    (builtIn : device.fonts = .builtIn) (canvas : Canvas) :
    (∃ painted, stage.painting device none canvas = .ok () painted) ↔
      (stage.frameFor device).IsDated := by
  have moderate : (stage.frameFor device).IsModerate := by
    unfold frameFor
    rw [padding]
    exact Frame.isModerate_ofWidth series wide options.tall options.settable
  have planned := (paintPlan_succeeds_iff scaled valid builtIn
    (Frame.isModerate_framePlan moderate sizes) canvas).trans
      (Frame.fault?_framePlan moderate options.kind)
  unfold painting cleanPlan
  rw [formats]
  split
  · rw [← planned]
    constructor
    · rintro ⟨painted, done⟩
      obtain ⟨_, clean, base, _⟩ := bind_eq_ok done
      exact ⟨clean, base⟩
    · rintro ⟨clean, base⟩
      rw [bind_of_ok base]
      exact ⟨clean, rfl⟩
  -- Clearing cannot fail, and a frame with nothing to draw has no grid that could lack a date.
  · rename_i empty
    exact ⟨fun _ drawable => absurd drawable empty,
      fun _ => ⟨_, Canvas.clear_of_isValid valid canvas⟩⟩

namespace Seat

/-! ### Sheets for pictures -/

theorem usableWidth_of_pos {host : Host ChartId} {width : Float} (positive : 0.0 < width)
    (given : host.width = .float width) : usableWidth host = .ok width := by
  unfold usableWidth
  rw [given]
  show Except.ok (if 0.0 < width then width else 0.0) = _
  rw [if_pos positive]

theorem usableRatio_of_pos {host : Host ChartId} {ratio : Float} (positive : 0.0 < ratio)
    (finite : ratio.isFinite = true) (given : host.ratio = .float ratio) :
    usableRatio host = .ok ratio := by
  have notBelow := not_le_zero_of_pos finite positive
  have nonzero : (ratio == 0.0) = false := Bool.eq_false_iff.mpr fun same =>
    notBelow (le_of_worth_same same)
  unfold usableRatio
  rw [given]
  show (if !(ratio == 0.0) then _ else _ : Except Fault Float) = _
  rw [nonzero]
  show Except.ok (if ratio ≤ 0.0 then 1.0 else ratio) = _
  rw [if_neg notBelow]

/-- A chart is drawn anew just when a clear sheet can be made and painted. -/
theorem drawnSheet_succeeds_iff (seat : Seat) :
    (∃ sheet, seat.drawnSheet = .ok sheet) ↔
      ∃ blank, seat.blank = .ok blank ∧
        ∃ painted, seat.chart.stage.painting blank.device none blank.canvas = .ok () painted := by
  cases made : seat.blank with
  | error fault =>
    rw [drawnSheet_of_refused made]
    exact ⟨fun ⟨_, drawn⟩ => (nomatch drawn), fun ⟨_, same, _⟩ => (nomatch same)⟩
  | ok blank =>
    rw [drawnSheet_of_made made]
    cases painted : seat.chart.stage.painting blank.device none blank.canvas with
    | error fault canvas =>
      refine ⟨fun ⟨_, drawn⟩ => (nomatch drawn), fun ⟨other, same, image, done⟩ => ?_⟩
      cases same
      rw [painted] at done
      cases done
    | ok _ canvas => exact ⟨fun _ => ⟨blank, rfl, canvas, painted⟩, fun _ => ⟨_, rfl⟩⟩

variable {data width ratio : Value} {source : OptionsSource} {theme : Theme} {series : Series}
  {options : Options} {across scale : Float}

/-- A picture is what a new chart shows once it is attached to a host of its own. -/
theorem pictureOfChart_eq_ok_iff {chart : Chart} {host : Host ChartId} {canvas : Canvas}
    (above : width.isAtMostZero = .ok false)
    (made : Chart.create 0 data source { theme, keepsBase := false } = .ok chart)
    (created : Host.create width ratio = .ok host) :
    pictureOfChart data width source ratio theme = .ok canvas ↔
      ∃ last, attach 0 ⟨chart, host⟩ = .ok () last ∧ last.chart.canvas? = some canvas := by
  unfold pictureOfChart
  rw [above, made, created]
  dsimp only [bind, Except.bind]
  rw [if_neg Bool.false_ne_true]
  cases attach 0 ⟨chart, host⟩ with
  | error fault last => exact ⟨fun done => (nomatch done), fun ⟨_, done, _⟩ => (nomatch done)⟩
  | ok done last =>
    have onlyLast : (∃ seat, (.ok done last : EStateM.Result Fault Seat Unit) = .ok () seat ∧
        seat.chart.canvas? = some canvas) ↔ last.chart.canvas? = some canvas := by
      refine ⟨?_, fun shown => ⟨last, rfl, shown⟩⟩
      rintro ⟨_, same, shown⟩
      cases same
      exact shown
    rw [onlyLast]
    dsimp only
    cases last.chart.canvas? with
    | none => exact ⟨fun done => (nomatch done), fun shown => (nomatch shown)⟩
    | some picture =>
      exact ⟨fun done => congrArg some (Except.ok.inj done), fun shown => by cases shown; rfl⟩

/-- The picture of a chart is there just when a new chart of its points and options can be drawn on
a host of its own. -/
theorem pictureOfChart_succeeds_iff_drawnSheet (resolved : source.resolve = .ok options)
    (normalized : Series.ofData options.recordKeys data = .ok series)
    (above : width.isAtMostZero = .ok false) (widthRead : width.toFloat = .ok across)
    (ratioRead : ratio.toFloat = .ok scale) :
    (∃ canvas, pictureOfChart data width source ratio theme = .ok canvas) ↔
      ∃ sheet, (placed ⟨.fresh 0 series options { theme, keepsBase := false },
        { width := .float across, ratio := .float scale }⟩ 0).drawnSheet = .ok sheet := by
  let look : Look := { theme, keepsBase := false }
  let host : Host ChartId := { width := .float across, ratio := .float scale }
  have made : Chart.create 0 data source look = .ok (.fresh 0 series options look) := by
    unfold Chart.create
    rw [resolved]
    show (Series.ofData options.recordKeys data >>= _) = _
    rw [normalized]
    rfl
  have created : (Host.create width ratio : Except Fault (Host ChartId)) = .ok host := by
    unfold Host.create
    rw [Value.isNegative_of_isAtMostZero above, widthRead, ratioRead]
    rfl
  have occupied := occupied_fresh 0 0 series options look (.float across) (.float scale)
  simp only [pictureOfChart_eq_ok_iff above made created, attach_eq]
  obtain ⟨fault, last, refused, ended⟩ | ⟨sheet, last, drawn, ended, view, _⟩ :=
    refresh_cases occupied rfl
  · rw [ended, refused]
    exact ⟨fun ⟨_, _, done, _⟩ => (nomatch done), fun ⟨_, drawn⟩ => (nomatch drawn)⟩
  · have shown : last.chart.canvas? = some sheet.canvas := congrArg ChartView.picture view
    rw [ended, drawn]
    exact ⟨fun _ => ⟨sheet, rfl⟩, fun _ => ⟨sheet.canvas, last, rfl, shown⟩⟩

end Seat

/-! ### Pictures -/

variable {data width ratio : Value} {source : OptionsSource} {theme : Theme} {series : Series}
  {options : Options} {across scale : Float}

/-- Accepted data of ordinary size have a picture just when the machine can hold it and the grid, if
there is one, is dated. -/
theorem pictureOfChart_succeeds_iff (resolved : source.resolve = .ok options)
    (normalized : Series.ofData options.recordKeys data = .ok series)
    (valid : options.IsModerate) (moderate : series.IsModerate) (sizes : theme.IsModerate)
    (above : width.isAtMostZero = .ok false) (wide : width.IsLength across)
    (fine : ratio.IsLength scale) :
    (∃ canvas, pictureOfChart data width source ratio theme = .ok canvas) ↔
      HasMemoryFor across (Float.ofInt options.height) scale ∧
        (Frame.ofWidth series options across .standard).IsDated := by
  let look : Look := { theme, keepsBase := false }
  let host : Host ChartId := { width := .float across, ratio := .float scale }
  let seat : Seat := Seat.placed ⟨.fresh 0 series options look, host⟩ 0
  have sheet : seat.blank = Sheet.create (.float across) (.int options.height) (.float scale)
      theme.background theme.fontFamily :=
    Seat.blank_eq (Seat.usableWidth_of_pos wide.positive rfl)
      (Seat.usableRatio_of_pos fine.positive fine.within.finite rfl)
  have painted {blank : Sheet} (made : seat.blank = .ok blank) :
      (∃ painted, seat.chart.stage.painting blank.device none blank.canvas = .ok () painted) ↔
        (Frame.ofWidth series options across .standard).IsDated := by
    have clear := (Seat.isBlank_of_blank made).valid
    rw [sheet] at made
    have device := (Sheet.create_eq_ok made).1
    rw [device] at clear ⊢
    exact Stage.painting_succeeds_iff rfl rfl sizes moderate valid wide.within fine.within clear rfl
      _
  rw [Seat.pictureOfChart_succeeds_iff_drawnSheet resolved normalized above wide.read fine.read,
    Seat.drawnSheet_succeeds_iff,
    ← Sheet.create_succeeds_iff wide.within.finite wide.positive fine.within.finite fine.positive
      valid.tall.finite options.height_pos sizes.background, ← sheet]
  constructor
  · rintro ⟨blank, made, done⟩
    exact ⟨⟨blank, made⟩, (painted made).mp done⟩
  · rintro ⟨⟨blank, made⟩, dated⟩
    exact ⟨blank, made, (painted made).mpr dated⟩

/-- Two points, a week apart. -/
def weekApart : Value := .list [.list [.int 0, .int 1], .list [.int 604800, .int 2]]

/-- The points of a week in the first year of the clock have a picture of three pixels by two. -/
theorem exists_picture_of_weekApart :
    ∃ canvas, pictureOfChart weekApart (.int 300) .none (.float 0.01) {} = .ok canvas := by
  let series : Series := ⟨[⟨0.0, 1.0⟩, ⟨604800.0, 2.0⟩]⟩
  have normalized : Series.ofData Options.standard.recordKeys weekApart = .ok series := by
    decide +kernel
  have valid : Options.standard.IsModerate :=
    ⟨Or.inl rfl, within_of_fitsSize (by decide), by decide⟩
  have moderate : series.IsModerate := List.forall_mem_cons.mpr
    ⟨⟨within_of_fitsSize rfl, within_of_fitsSize (by decide)⟩, List.forall_mem_singleton.mpr
      ⟨within_of_fitsSize (by decide), within_of_fitsSize (by decide)⟩⟩
  have wide : (Value.int 300).IsLength 300.0 :=
    ⟨by decide +kernel, by decide, within_of_fitsSize (by decide)⟩
  have fine : (Value.float 0.01).IsLength 0.01 := ⟨rfl, by decide, within_of_fitsSize (by decide)⟩
  refine (pictureOfChart_succeeds_iff rfl normalized valid moderate Theme.isModerate_standard rfl
    wide fine).mpr ⟨⟨3, 2, by decide +kernel, by decide +kernel, by decide⟩, fun _ _ => ?_⟩
  have times : tickTimes series = [0.0, 604800.0] := by decide +kernel
  show ∀ time ∈ tickTimes series, _
  rw [times]
  exact List.forall_mem_cons.mpr ⟨⟨⟨1970, 1, 1⟩, by decide +kernel⟩,
    List.forall_mem_singleton.mpr ⟨⟨1970, 1, 8⟩, by decide +kernel⟩⟩

/-- A point in a year that no date has. -/
def yearlessPoint : Value := .list [.list [.int 1000000000000000, .int 10]]

/-- A point may be accepted and still not be drawn: here the label of its tick cannot be written. -/
theorem refused_yearlessPoint :
    Series.ofData Options.standard.recordKeys yearlessPoint = .ok ⟨[⟨1000000000000000.0, 10.0⟩]⟩ ∧
      pictureOfChart yearlessPoint (.int 100) .none (.float 0.001) {} =
        .error (.invalid (.yearOutOfRange 31690708)) := by
  refine ⟨by decide +kernel, ?_⟩
  let answer := pictureOfChart yearlessPoint (.int 100) .none (.float 0.001) {}
  have told : (match answer with
      | .ok _ => none
      | .error fault => some fault) = some (.invalid (.yearOutOfRange 31690708)) := by
    decide +kernel
  cases ended : answer with
  | ok canvas =>
    rw [ended] at told
    cases told
  | error fault =>
    rw [ended] at told
    cases told
    exact ended

end SeriesChart
