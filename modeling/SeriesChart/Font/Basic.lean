/-
This file says what a font is to the rest of the program: it tells how far a text reaches,
and which letters its picture is put together from. A text is measured and painted through
the same extent, so that the mask of a text has the measured size and the bolder copies of
a text widen both alike.
-/

import SeriesChart.Raster.Mask
import SeriesChart.Value.Number

namespace SeriesChart

/-! ### Fonts -/

/-- The picture of a letter and where its top left cell goes. -/
structure Letter where
  x : Int
  y : Int
  mask : Mask
  deriving DecidableEq, Repr

/-- A font. A text that it cannot set is refused. -/
structure Font where
  /-- How far a text reaches across and down. -/
  extent : String → Except Fault (Int × Int)
  /-- The letters of a text, in the order in which they are put down. -/
  letters : String → Except Fault (List Letter)

/-- The fonts of a machine. -/
structure Fonts where
  /-- The font of a family in a size. -/
  find : String → Int → Font

namespace Font

/-- The picture of a text, at least one cell wide and high. Where letters meet, the later one
counts. -/
def mask (font : Font) (text : String) : Except Fault Mask := do
  let (width, height) ← font.extent text
  let letters ← font.letters text
  return letters.foldl (fun mask letter => mask.paste letter.x letter.y letter.mask)
    (Mask.blank (max 1 width).toNat (max 1 height).toNat)

/-- The size of a font in whole pixels, at least one. Fonts are remembered by the sizes that were
asked for, so a size must be something that can be remembered. -/
def wholeSize (size : Value) : Except Fault Int := do
  size.checkMemorable
  return max 1 (← size.toNearest)

/-- The width and the height of a text. The size of the font is looked at first, also for the empty
text. -/
def measure (font : Font) (text : String) (size : Value) (weight : Int) :
    Except Fault (Int × Int) := do
  let _ ← wholeSize size
  if text = "" then return (0, 0)
  let (width, height) ← font.extent text
  return (max 0 width + max 0 (weight - 1), max 1 height)

/-! ### A font of one picture -/

/-- The box of a text: its corners relative to the place where the text is put. -/
structure TextBox where
  left : Float
  top : Float
  right : Float
  bottom : Float

/-- The font that sets every text as the same picture, which fills the given box. -/
def ofPicture (box : TextBox) (picture : Mask) : Font where
  extent _ := do
    let width ← Binary.toWhole .towardZero (box.right - box.left)
    return (width, ← Binary.toWhole .towardZero (box.bottom - box.top))
  letters _ := do
    let x ← Binary.toWhole .towardZero (-box.left)
    return [⟨x, ← Binary.toWhole .towardZero (-box.top), picture⟩]

end Font

/-! ### Painting texts -/

/-- Paints a text with its top left corner at a place. The empty text paints nothing. -/
def Canvas.drawText (font : Font) (x y : Int) (text : String) (color : Color) (size : Value)
    (weight : Int) : Painting := do
  unless text = "" do
    let _ ← Font.wholeSize size
    let mask ← font.mask text
    modify fun canvas => canvas.drawMask x y (mask.embolden weight) color

end SeriesChart
