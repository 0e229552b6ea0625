/-
This file proves what holds of every painting. No call changes the size of the picture it
is painted on. Clearing leaves one pixel everywhere, so a plan that begins by clearing
does not show what was on the picture before.
-/

import SeriesChart.Proofs.Computation
import SeriesChart.Sheet

namespace SeriesChart

/-! ### The size of a picture -/

namespace Canvas

/-- The picture has so many columns and rows. -/
def HasSize (width height : Nat) (canvas : Canvas) : Prop :=
  canvas.width = width ∧ canvas.height = height

theorem hasSize_self (canvas : Canvas) : canvas.HasSize canvas.width canvas.height := ⟨rfl, rfl⟩

variable {width height : Nat} {canvas : Canvas}

theorem HasSize.composite (sized : canvas.HasSize width height) (box : Box) (color : Color)
    (coverage : Nat → Nat → Float32) : (canvas.composite box color coverage).HasSize width height := by
  refine ⟨?_, ?_⟩
  · rw [width_composite]
    exact sized.1
  · rw [height_composite]
    exact sized.2

theorem HasSize.fillInside (sized : canvas.HasSize width height) (columns rows : Int × Int)
    (color : Color) (inside : Nat → Nat → Bool) :
    (canvas.fillInside columns rows color inside).HasSize width height := by
  simp only [Canvas.fillInside]
  split
  · exact sized.composite _ _ _
  · exact sized

theorem HasSize.drawLine (sized : canvas.HasSize width height) (places : List (Int × Int))
    (color : Color) (brush : Int) : (canvas.drawLine places color brush).HasSize width height := by
  unfold Canvas.drawLine
  split
  · exact sized
  · show HasSize width height (if _ then _ else _)
    split
    · exact sized.composite _ _ _
    · exact sized

/-! ### The pixels of a picture -/

theorem eq_of_pixels {first second : Canvas} (widths : first.width = second.width)
    (heights : first.height = second.height) (pixels : first.pixels = second.pixels) :
    first = second := by
  obtain ⟨firstWidth, firstHeight, firstPixels, firstSize⟩ := first
  obtain ⟨secondWidth, secondHeight, secondPixels, secondSize⟩ := second
  cases widths
  cases heights
  cases pixels
  rfl

/-- There is a pixel in every place of a picture. -/
theorem exists_pixelAt {canvas : Canvas} {row column : Nat} (inRow : row < canvas.height)
    (inColumn : column < canvas.width) : ∃ pixel, canvas.pixelAt? row column = some pixel := by
  have placed : row * canvas.width + column < canvas.pixels.size := by
    have next : (row + 1) * canvas.width ≤ canvas.height * canvas.width :=
      Nat.mul_le_mul_right canvas.width inRow
    rw [canvas.size_eq, Nat.mul_comm canvas.width]
    rw [Nat.add_mul] at next
    omega
  refine ⟨canvas.pixels[row * canvas.width + column], ?_⟩
  rw [pixelAt?, if_pos ⟨inRow, inColumn⟩]
  exact Array.getElem?_eq_getElem placed

/-- Pictures of one size with the same pixel in every place are the same. -/
theorem eq_of_pixelAt {first second : Canvas} (widths : first.width = second.width)
    (heights : first.height = second.height)
    (pixels : ∀ row column, row < first.height → column < first.width →
      first.pixelAt? row column = second.pixelAt? row column) : first = second := by
  refine eq_of_pixels widths heights (Array.ext_getElem? fun index => ?_)
  by_cases inside : index < first.width * first.height
  · have positive : 0 < first.width := by
      rcases Nat.eq_zero_or_pos first.width with none | some
      · rw [none, Nat.zero_mul] at inside
        omega
      · exact some
    have row : index / first.width < first.height := Nat.div_lt_of_lt_mul inside
    have column : index % first.width < first.width := Nat.mod_lt index positive
    have place : index / first.width * first.width + index % first.width = index :=
      Nat.div_add_mod' index first.width
    have same := pixels _ _ row column
    rw [pixelAt?, pixelAt?, ← widths, ← heights, if_pos ⟨row, column⟩, if_pos ⟨row, column⟩,
      place] at same
    exact same
  · rw [Array.getElem?_eq_none (by rw [first.size_eq]; omega),
      Array.getElem?_eq_none (by rw [second.size_eq, ← widths, ← heights]; omega)]

end Canvas

/-! ### Clearing -/

/-- The bytes of a colour. -/
def Color.pixel (color : Color) : Pixel where
  red := color.red.toNat.toUInt8
  green := color.green.toNat.toUInt8
  blue := color.blue.toNat.toUInt8
  alpha := color.alpha.toNat.toUInt8

namespace Canvas

theorem clearChannel_of_isChannel {value : Int} (inRange : Color.isChannel value = true)
    (write : UInt8 → Pixel → Pixel) (canvas : Canvas) :
    clearChannel value write canvas = .ok () (canvas.map (write value.toNat.toUInt8)) := by
  have byte : channelByte value = .ok value.toNat.toUInt8 := if_pos inRange
  unfold clearChannel
  rw [byte]
  rfl

theorem clearChannel_eq_ok {value : Int} {write : UInt8 → Pixel → Pixel} {canvas cleared : Canvas}
    (equal : clearChannel value write canvas = .ok () cleared) : Color.isChannel value = true := by
  by_cases inRange : Color.isChannel value = true
  · exact inRange
  · have refused : channelByte value = .error (.overflow (.outOfBounds value "uint8")) :=
      if_neg inRange
    unfold clearChannel at equal
    rw [refused] at equal
    cases equal

/-- A colour whose channels are bytes is left in every place. -/
theorem clear_of_isValid {color : Color} (valid : color.isValid = true) (canvas : Canvas) :
    clear color canvas = .ok () (filled canvas.width canvas.height color.pixel) := by
  simp only [Color.isValid, Bool.and_eq_true] at valid
  obtain ⟨⟨⟨red, green⟩, blue⟩, alpha⟩ := valid
  unfold clear
  rw [bind_of_ok (clearChannel_of_isChannel red _ _),
    bind_of_ok (clearChannel_of_isChannel green _ _),
    bind_of_ok (clearChannel_of_isChannel blue _ _), clearChannel_of_isChannel alpha]
  congr 1
  refine eq_of_pixels rfl rfl ?_
  show (((canvas.pixels.map _).map _).map _).map _ =
    Array.replicate (canvas.width * canvas.height) color.pixel
  rw [Array.map_map, Array.map_map, Array.map_map, ← canvas.size_eq]
  show canvas.pixels.map (fun _ => color.pixel) = _
  exact Array.map_const'

theorem isValid_of_clear {color : Color} {canvas cleared : Canvas}
    (equal : clear color canvas = .ok () cleared) : color.isValid = true := by
  unfold clear at equal
  obtain ⟨_, afterRed, redStep, equal⟩ := bind_eq_ok equal
  obtain ⟨_, afterGreen, greenStep, equal⟩ := bind_eq_ok equal
  obtain ⟨_, afterBlue, blueStep, alphaStep⟩ := bind_eq_ok equal
  simp only [Color.isValid, Bool.and_eq_true]
  exact ⟨⟨⟨clearChannel_eq_ok redStep, clearChannel_eq_ok greenStep⟩, clearChannel_eq_ok blueStep⟩,
    clearChannel_eq_ok alphaStep⟩

theorem keeps_size_clear (width height : Nat) (color : Color) :
    Keeps (HasSize width height) (clear color) := by
  have channel (value : Int) (write : UInt8 → Pixel → Pixel) :
      Keeps (HasSize width height) (clearChannel value write) :=
    keeps_bind (keeps_lift _) fun _ => keeps_modify fun _ sized => sized
  exact keeps_bind (channel _ _) fun _ => keeps_bind (channel _ _) fun _ =>
    keeps_bind (channel _ _) fun _ => channel _ _

end Canvas

/-! ### Calls keep the size -/

section Size

variable (width height : Nat)

theorem keeps_size_fillDisc {Number : Type} [Scalar Number] (x y radius : Number) (color : Color) :
    Keeps (Canvas.HasSize width height) (Canvas.fillDisc x y radius color) := by
  unfold Canvas.fillDisc
  split
  · exact keeps_pure _
  · exact keeps_bind (keeps_lift _) fun columns => keeps_bind (keeps_lift _) fun rows =>
      keeps_modify fun canvas sized => sized.fillInside _ _ _ _

theorem keeps_size_fillSpans (row : Int) (color : Color)
    (spans : List (Except Fault (Int × Int))) :
    Keeps (Canvas.HasSize width height) (Canvas.fillSpans row color spans) := by
  induction spans with
  | nil => exact keeps_pure _
  | cons span rest inductionHypothesis =>
    unfold Canvas.fillSpans
    exact keeps_bind (keeps_lift _) fun ends =>
      keeps_bind (keeps_modify fun canvas sized => sized.composite _ _ _) fun _ =>
        inductionHypothesis

theorem keeps_size_fillRows {Number : Type} [Scalar Number] (edges : List (Edge Number))
    (color : Color) (count : Nat) (row : Int) :
    Keeps (Canvas.HasSize width height) (Canvas.fillRows edges color count row) := by
  induction count generalizing row with
  | zero => exact keeps_pure _
  | succ count inductionHypothesis =>
    exact keeps_bind (keeps_size_fillSpans width height row color _) fun _ => inductionHypothesis _

theorem keeps_size_fillPolygon {Number : Type} [Scalar Number] (corners : List (Number × Number))
    (color : Color) : Keeps (Canvas.HasSize width height) (Canvas.fillPolygon corners color) := by
  unfold Canvas.fillPolygon
  split
  · exact keeps_bind keeps_get fun canvas => keeps_bind (keeps_lift _) fun rows =>
      keeps_size_fillRows width height _ color _ _
  · exact keeps_pure _

theorem keeps_size_drawText (font : Font) (x y : Int) (text : String) (color : Color)
    (size : Value) (weight : Int) :
    Keeps (Canvas.HasSize width height) (Canvas.drawText font x y text color size weight) := by
  unfold Canvas.drawText
  split
  · exact keeps_pure _
  · exact keeps_bind (keeps_lift _) fun _ => keeps_bind (keeps_lift _) fun mask =>
      keeps_modify fun canvas sized => sized.composite _ _ _

variable (device : Device)

theorem keeps_size_paintPolyline (places : List (Float × Float)) (color : Color) (line : Float) :
    Keeps (Canvas.HasSize width height) (device.paintPolyline places color line) := by
  unfold Device.paintPolyline
  split
  · exact keeps_bind (keeps_lift _) fun brush => keeps_modify fun canvas sized => sized.drawLine _ _ _
  · exact keeps_pure _

theorem keeps_size_paintLine (x0 y0 x1 y1 : Float) (color : Color) (line : Float) :
    Keeps (Canvas.HasSize width height) (device.paintLine x0 y0 x1 y1 color line) := by
  unfold Device.paintLine
  refine keeps_bind (keeps_lift _) fun start => keeps_bind (keeps_lift _) fun stop =>
    keeps_bind (keeps_lift _) fun brush => ?_
  split
  · exact keeps_modify fun canvas sized => sized.composite _ _ _
  · split
    · exact keeps_modify fun canvas sized => sized.composite _ _ _
    · exact keeps_size_paintPolyline width height device _ color line

theorem keeps_size_paintRect (x y across down : Float) (color : Color) :
    Keeps (Canvas.HasSize width height) (device.paintRect x y across down color) := by
  unfold Device.paintRect
  split
  · exact keeps_pure _
  · exact keeps_bind (keeps_lift _) fun start => keeps_bind (keeps_lift _) fun stop =>
      keeps_modify fun canvas sized => sized.composite _ _ _

theorem keeps_size_paintText (x y : Float) (text : String) (color : Color) (style : TextStyle) :
    Keeps (Canvas.HasSize width height) (device.paintText x y text color style) := by
  unfold Device.paintText
  split
  · exact keeps_pure _
  · exact keeps_bind (keeps_lift _) fun font => keeps_bind (keeps_lift _) fun extent =>
      keeps_bind (keeps_lift _) fun place => keeps_size_drawText width height _ _ _ text color _ _

/-- No call changes the size of the picture. -/
theorem keeps_size_paint (call : DrawCall) :
    Keeps (Canvas.HasSize width height) (device.paint call) := by
  cases call with
  | clear => exact Canvas.keeps_size_clear width height _
  | strokeLine => exact keeps_size_paintLine width height device _ _ _ _ _ _
  | strokePolyline => exact keeps_size_paintPolyline width height device _ _ _
  | fillPolygon => exact keeps_size_fillPolygon width height _ _
  | fillCircle => exact keeps_size_fillDisc width height _ _ _ _
  | fillRect => exact keeps_size_paintRect width height device _ _ _ _ _
  | fillText => exact keeps_size_paintText width height device _ _ _ _ _

theorem keeps_size_paintPlan (plan : Plan) :
    Keeps (Canvas.HasSize width height) (device.paintPlan plan) := by
  induction plan with
  | nil => exact keeps_pure _
  | cons step rest inductionHypothesis =>
    exact keeps_bind (keeps_lift step) fun call =>
      keeps_bind (keeps_size_paint width height device call) fun _ => inductionHypothesis

end Size

/-! ### Plans that begin by clearing -/

namespace Device

/-- After clearing nothing is left of what was there before. -/
theorem paintPlan_clear (device : Device) (valid : device.background.isValid = true) (rest : Plan)
    (canvas : Canvas) :
    device.paintPlan (.ok .clear :: rest) canvas =
      device.paintPlan rest (.filled canvas.width canvas.height device.background.pixel) :=
  bind_of_ok (Canvas.clear_of_isValid valid canvas)

theorem isValid_of_paintPlan {device : Device} {rest : Plan} {canvas painted : Canvas}
    (equal : device.paintPlan (.ok .clear :: rest) canvas = .ok () painted) :
    device.background.isValid = true := by
  obtain ⟨_, cleared, step, _⟩ := bind_eq_ok
    (show (Canvas.clear device.background >>= fun _ => device.paintPlan rest) canvas = _ from equal)
  exact Canvas.isValid_of_clear step

end Device

end SeriesChart
