/-
This file says which pictures can be handed out as image files, and draws a chart for no
other purpose. An image has rows of pixels of four bytes each and at least one pixel.
-/

import SeriesChart.Display.Chart

namespace SeriesChart

/-! ### Images -/

namespace ArrayForm

/-- The width and the height of the image of an array of this form. -/
def imageSize (form : ArrayForm) : Except Fault (Nat × Nat) :=
  if form.element ≠ .byte then .error (.invalid .imageType)
  else
    match form.shape with
    | [height, width, 4] =>
      if height = 0 ∨ width = 0 then .error (.invalid .imageEmpty)
      else .ok (width.toNat, height.toNat)
    | _ => .error (.invalid .imageShape)

/-- The form of the array of a picture. -/
def ofCanvas (canvas : Canvas) : ArrayForm := ⟨.byte, [canvas.height, canvas.width, 4]⟩

/-- The image of an array with one value everywhere. -/
def filledImage (form : ArrayForm) (fill : Int) : Except Fault Canvas := do
  form.checkFilled fill
  let (width, height) ← form.imageSize
  let byte := fill.toNat.toUInt8
  return Canvas.filled width height ⟨byte, byte, byte, byte⟩

end ArrayForm

/-- The picture of a chart as an image. -/
def Chart.image (chart : Chart) : Except Fault Canvas :=
  match chart.canvas? with
  | none => .error (.invalid .nothingToExport)
  | some canvas => do
    let _ ← (ArrayForm.ofCanvas canvas).imageSize
    return canvas

/-! ### Charts without a host of their own -/

/-- The picture of a chart of the given width, which must be above zero. -/
def pictureOfChart (data : Value) (width : Value) (options : OptionsSource) (ratio : Value)
    (theme : Theme) (fonts : Fonts := .builtIn) : Except Fault Canvas := do
  if ← width.isAtMostZero then throw (.invalid .chartWidth)
  let chart ← Chart.create 0 data options { theme, fonts, keepsBase := false }
  let host ← Host.create width ratio
  match Seat.attach 0 ⟨chart, host⟩ with
  | .error fault _ => throw fault
  | .ok _ seat =>
    match seat.chart.canvas? with
    | some canvas => return canvas
    | none => throw (.invalid .nothingToExport)

end SeriesChart
