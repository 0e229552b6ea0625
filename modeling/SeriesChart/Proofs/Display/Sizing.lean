/-
This file proves that a sheet that fits its host is as good as a new one. Two lengths that
compare as equal need not be the same float, as zero has two forms; but what a sheet is
made of has no minus sign. So a sheet that is kept because it fits has the device and the
size that a new sheet would have.
-/

import SeriesChart.Proofs.Display.Steps
import SeriesChart.Proofs.Number.Unsigned
import SeriesChart.Proofs.Raster.Painting

namespace SeriesChart

/-! ### What is read from a host -/

theorem hasNoMinus_one : HasNoMinus 1.0 := hasNoMinus_of_pos (by decide)

theorem hasNoMinus_greatest_zero (number : Float) : HasNoMinus (Scalar.greatest 0.0 number) := by
  unfold Scalar.greatest
  split
  · rename_i above
    exact hasNoMinus_of_pos above
  · exact hasNoMinus_zero

namespace Seat

theorem hasNoMinus_usableWidth {host : Host ChartId} {width : Float}
    (read : usableWidth host = .ok width) : HasNoMinus width := by
  obtain ⟨number, _, equal⟩ := except_bind_eq_ok read
  cases equal
  exact hasNoMinus_greatest_zero number

theorem hasNoMinus_usableRatio {host : Host ChartId} {ratio : Float}
    (read : usableRatio host = .ok ratio) : HasNoMinus ratio := by
  have usable (number : Float) : HasNoMinus (if number ≤ 0.0 then 1.0 else number) := by
    split
    · exact hasNoMinus_one
    · rename_i above
      exact hasNoMinus_of_not_le above
  obtain ⟨isGiven, _, read⟩ := except_bind_eq_ok read
  cases isGiven with
  | true =>
    obtain ⟨number, _, equal⟩ := except_bind_eq_ok (show (host.ratio.toFloat >>= _) = _ from read)
    cases equal
    exact usable number
  | false =>
    cases read
    exact usable 1.0

end Seat

/-! ### New sheets -/

/-- A new picture has the wanted size and the colour everywhere, and the colour is one. -/
theorem Canvas.create_eq_ok {width height : Int} {color : Color} {canvas : Canvas}
    (made : Canvas.create width height color = .ok canvas) :
    color.isValid = true ∧ (canvas.width = width ∧ canvas.height = height) ∧
      canvas = .filled canvas.width canvas.height color.pixel := by
  unfold Canvas.create at made
  by_cases negative : width < 0 ∨ height < 0
  · rw [if_pos negative] at made
    cases made
  · rw [if_neg negative] at made
    obtain ⟨_, _, made⟩ := except_bind_eq_ok made
    unfold EStateM.run at made
    cases cleared : Canvas.clear color (.filled width.toNat height.toNat .clear) with
    | error fault after =>
      rw [cleared] at made
      cases made
    | ok _ after =>
      rw [cleared] at made
      cases made
      have valid := Canvas.isValid_of_clear cleared
      rw [Canvas.clear_of_isValid valid] at cleared
      cases cleared
      refine ⟨valid, ⟨?_, ?_⟩, rfl⟩
      · show ((width.toNat : Nat) : Int) = width
        omega
      · show ((height.toNat : Nat) : Int) = height
        omega

namespace Sheet

variable {width ratio : Float} {height : Int} {background : Color} {fontFamily : String}
  {fonts : Fonts}

/-- The sheet is as it was made: its size is that of its device, and it is clear. -/
structure IsBlank (sheet : Sheet) : Prop where
  valid : sheet.device.background.isValid = true
  columns : sheet.device.pixel sheet.device.width = .ok sheet.canvas.width
  rows : sheet.device.pixel sheet.device.height = .ok sheet.canvas.height
  cleared : sheet.canvas =
    .filled sheet.canvas.width sheet.canvas.height sheet.device.background.pixel

theorem create_eq_ok {sheet : Sheet}
    (made : create (.float width) (.int height) (.float ratio) background fontFamily fonts =
      .ok sheet) :
    sheet.device = ⟨width, Float.ofInt height, ratio, background, fontFamily, fonts⟩ ∧
      sheet.IsBlank := by
  unfold create at made
  obtain ⟨_, made⟩ := refuse_eq_ok made
  obtain ⟨_, made⟩ := refuse_eq_ok made
  obtain ⟨_, made⟩ := refuse_eq_ok made
  obtain ⟨_, widthRead, made⟩ := except_bind_eq_ok made
  cases widthRead
  obtain ⟨tall, heightRead, made⟩ := except_bind_eq_ok made
  obtain ⟨_, ratioRead, made⟩ := except_bind_eq_ok made
  cases ratioRead
  obtain ⟨columns, columnsRead, made⟩ := except_bind_eq_ok made
  obtain ⟨rows, rowsRead, made⟩ := except_bind_eq_ok made
  obtain ⟨canvas, painted, made⟩ := except_bind_eq_ok made
  cases made
  have nearest : tall = Float.ofInt height := by
    change Binary.ofInt height = .ok tall at heightRead
    simp only [Binary.ofInt] at heightRead
    split at heightRead
    · cases heightRead
    · cases heightRead
      rfl
  obtain ⟨valid, ⟨widths, heights⟩, filled⟩ := Canvas.create_eq_ok painted
  subst nearest widths heights
  exact ⟨rfl, valid, columnsRead, rowsRead, filled⟩

/-- A new sheet depends on its height only through the float nearest to it. -/
theorem create_congr {other : Int} (positive : 0 < height) (otherPositive : 0 < other)
    (same : Float.ofInt height = Float.ofInt other) :
    create (.float width) (.int height) (.float ratio) background fontFamily fonts =
      create (.float width) (.int other) (.float ratio) background fontFamily fonts := by
  have reads : (Value.int height).toFloat = (Value.int other).toFloat := by
    show Binary.ofInt height = Binary.ofInt other
    unfold Binary.ofInt
    rw [same]
  have signs : (Value.int height).isNegative = (Value.int other).isNegative := by
    show Except.ok (decide (height < 0)) = .ok (decide (other < 0))
    rw [decide_eq_false (by omega), decide_eq_false (by omega)]
  unfold create
  rw [reads, signs]

/-- The sheet could be a new one, as far as its device and its size go. -/
def IsMadeFor (look : Look) (sheet : Sheet) : Prop :=
  ∃ width ratio height blank, HasNoMinus width ∧ HasNoMinus ratio ∧ 0 < height ∧
    create (.float width) (.int height) (.float ratio) look.theme.background look.theme.fontFamily
      look.fonts = .ok blank ∧
    blank.device = sheet.device ∧ sheet.canvas.HasSize blank.canvas.width blank.canvas.height

theorem IsMadeFor.withCanvas {look : Look} {sheet : Sheet} (made : sheet.IsMadeFor look)
    {canvas : Canvas} (sized : canvas.HasSize sheet.canvas.width sheet.canvas.height) :
    IsMadeFor look ⟨sheet.device, canvas⟩ := by
  obtain ⟨width, ratio, height, blank, unsigned, ratioUnsigned, positive, new, device, size⟩ := made
  exact ⟨width, ratio, height, blank, unsigned, ratioUnsigned, positive, new, device,
    sized.1.trans size.1, sized.2.trans size.2⟩

end Sheet

/-! ### Sheets that fit -/

namespace Seat

/-- A new sheet of the size of the host. -/
def blank (seat : Seat) : Except Fault Sheet := do
  let width ← usableWidth seat.host
  let ratio ← usableRatio seat.host
  seat.chart.stage.blankSheet width ratio

/-- The sheet of the chart has the device and the size of a new one. -/
def IsFitted (seat : Seat) : Prop :=
  ∃ blank sheet, seat.blank = .ok blank ∧ seat.chart.stage.sheet = some sheet ∧
    sheet.device = blank.device ∧ sheet.canvas.HasSize blank.canvas.width blank.canvas.height

theorem blank_eq {seat : Seat} {width ratio : Float} (widthRead : usableWidth seat.host = .ok width)
    (ratioRead : usableRatio seat.host = .ok ratio) :
    seat.blank = seat.chart.stage.blankSheet width ratio := by
  unfold blank
  rw [widthRead, ratioRead]
  rfl

theorem blank_eq_ok {seat : Seat} {blank : Sheet} (made : seat.blank = .ok blank) :
    ∃ width ratio, usableWidth seat.host = .ok width ∧ usableRatio seat.host = .ok ratio ∧
      seat.chart.stage.blankSheet width ratio = .ok blank := by
  obtain ⟨width, widthRead, made⟩ := except_bind_eq_ok made
  obtain ⟨ratio, ratioRead, made⟩ := except_bind_eq_ok made
  exact ⟨width, ratio, widthRead, ratioRead, made⟩

/-- What can be made could be kept later. -/
theorem isMadeFor_of_blank {seat : Seat} {blank : Sheet} (made : seat.blank = .ok blank) :
    blank.IsMadeFor seat.chart.stage.look := by
  obtain ⟨width, ratio, widthRead, ratioRead, made⟩ := blank_eq_ok made
  exact ⟨width, ratio, _, blank, hasNoMinus_usableWidth widthRead,
    hasNoMinus_usableRatio ratioRead, seat.chart.stage.options.height_pos, made, rfl, rfl, rfl⟩

theorem IsFitted.made {seat : Seat} (fitted : seat.IsFitted) {sheet : Sheet}
    (placed : seat.chart.stage.sheet = some sheet) :
    sheet.IsMadeFor seat.chart.stage.look := by
  obtain ⟨blank, other, made, otherPlaced, device, sized⟩ := fitted
  obtain rfl : sheet = other := Option.some.inj (placed.symm.trans otherPlaced)
  have remade := (isMadeFor_of_blank made).withCanvas sized
  rw [← device] at remade
  exact remade

theorem isBlank_of_blank {seat : Seat} {blank : Sheet} (made : seat.blank = .ok blank) :
    blank.IsBlank := by
  obtain ⟨width, ratio, _, _, made⟩ := blank_eq_ok made
  exact (Sheet.create_eq_ok made).2

/-- A sheet that fits has the device and the size of a new one. -/
theorem blankSheet_of_fits {stage : Stage} {sheet : Sheet} {width ratio : Float}
    (made : sheet.IsMadeFor stage.look)
    (fitting : fits sheet width ratio stage.options.height = true) (unsigned : HasNoMinus width)
    (ratioUnsigned : HasNoMinus ratio) :
    ∃ blank, stage.blankSheet width ratio = .ok blank ∧ sheet.device = blank.device ∧
      sheet.canvas.HasSize blank.canvas.width blank.canvas.height := by
  obtain ⟨oldWidth, oldRatio, oldHeight, blank, oldUnsigned, oldRatioUnsigned, positive, new,
    device, sized⟩ := made
  have parts := (Sheet.create_eq_ok new).1
  rw [device] at parts
  unfold fits at fitting
  rw [parts] at fitting
  simp only [Bool.and_eq_true] at fitting
  obtain ⟨⟨widths, heights⟩, ratios⟩ := fitting
  have sameWidth : oldWidth = width := eq_of_worth_same oldUnsigned unsigned widths
  have sameRatio : oldRatio = ratio := eq_of_worth_same oldRatioUnsigned ratioUnsigned ratios
  have sameHeight : Float.ofInt oldHeight = Float.ofInt stage.options.height :=
    eq_of_worth_same (hasNoMinus_ofInt (Int.le_of_lt positive))
      (hasNoMinus_ofInt (Int.le_of_lt stage.options.height_pos)) heights
  refine ⟨blank, ?_, device.symm, sized⟩
  unfold Stage.blankSheet
  rw [← Sheet.create_congr positive stage.options.height_pos sameHeight, ← sameWidth, ← sameRatio]
  exact new

/-- Nothing but making a new sheet can be refused. -/
theorem blank_of_newSheet {seat : Seat} {fault : Fault} (refused : seat.newSheet = .error fault) :
    seat.blank = .error fault := by
  unfold newSheet at refused
  unfold blank
  cases widthRead : usableWidth seat.host with
  | error widthFault =>
    rw [widthRead] at refused
    cases refused
    rfl
  | ok width =>
    rw [widthRead] at refused
    cases ratioRead : usableRatio seat.host with
    | error ratioFault =>
      rw [ratioRead] at refused
      cases refused
      rfl
    | ok ratio =>
      rw [ratioRead] at refused
      change (if seat.chart.stage.sheet.any (fits · width ratio seat.chart.stage.options.height)
        then pure none
        else seat.chart.stage.blankSheet width ratio >>= fun blank => pure (some blank)) =
          .error fault at refused
      show seat.chart.stage.blankSheet width ratio = .error fault
      split at refused
      · cases refused
      · cases made : seat.chart.stage.blankSheet width ratio with
        | error madeFault =>
          rw [made] at refused
          cases refused
          rfl
        | ok blank =>
          rw [made] at refused
          cases refused

/-- Fitting the sheet succeeds just when a new one could be made, and leaves one as good as that. It
changes nothing else, and it drops the picture that is kept if it changes the sheet. -/
theorem fitSheet_cases (seat : Seat)
    (made : ∀ sheet, seat.chart.stage.sheet = some sheet →
      sheet.IsMadeFor seat.chart.stage.look) :
    (∃ fault, seat.blank = .error fault ∧ fitSheet seat = .error fault seat) ∨
      ∃ last, fitSheet seat = .ok () last ∧ last.IsFitted ∧
        (last = seat ∨ ∃ sheet, last = seat.withSheet sheet) := by
  rw [fitSheet_eq]
  cases new : seat.newSheet with
  | error fault =>
    exact Or.inl ⟨fault, blank_of_newSheet new, rfl⟩
  | ok found =>
    obtain ⟨width, ratio, widthRead, ratioRead, ⟨rfl, sheet, placed, fitting⟩ | ⟨blank, rfl, created⟩⟩ :=
      newSheet_eq_ok new
    · obtain ⟨blank, created, device, sized⟩ := blankSheet_of_fits (made sheet placed) fitting
        (hasNoMinus_usableWidth widthRead) (hasNoMinus_usableRatio ratioRead)
      refine Or.inr ⟨seat, rfl, ⟨blank, sheet, ?_, placed, device, sized⟩, Or.inl rfl⟩
      rw [blank_eq widthRead ratioRead, created]
    · refine Or.inr ⟨seat.withSheet blank, rfl, ⟨blank, blank, ?_, rfl, rfl, rfl, rfl⟩,
        Or.inr ⟨blank, rfl⟩⟩
      exact (blank_eq widthRead ratioRead).trans created

end Seat

end SeriesChart
