/-
This file lays a colour over a picture. How much of the colour a pixel takes is its
coverage times the opacity of the colour; what was there before shows through the rest.
All of it is computed in single precision, in a fixed order, and rounded to bytes at the
end. A colour that covers no pixel of a box at all leaves the box alone. Otherwise every
pixel of the box is computed anew, which takes the colour from a pixel without opacity.
-/

import SeriesChart.Number.Binary
import SeriesChart.Raster.Canvas

namespace SeriesChart

/-! ### Bytes -/

/-- The byte nearest to a number, ties to even; a number outside the range of bytes goes to its
nearer end, and what is no number to zero. -/
def nearestByte (value : Float32) : UInt8 :=
  if value ≥ 255.0 then 255
  else
    let floor := value.toUInt8
    let fraction := value - floor.toFloat32
    if fraction > 0.5 || (fraction == 0.5 && floor % 2 == 1) then floor + 1 else floor

/-! ### One pixel -/

/-- A colour as single precision numbers: three channels from 0 to 255 and an opacity from nought to
one. -/
structure Paint where
  red : Float32
  green : Float32
  blue : Float32
  opacity : Float32

/-- The paint of a colour. -/
def Paint.ofColor (color : Color) : Paint where
  red := Binary.toSingle (Float.ofInt color.red)
  green := Binary.toSingle (Float.ofInt color.green)
  blue := Binary.toSingle (Float.ofInt color.blue)
  opacity := Binary.toSingle (Float.ofInt color.alpha / 255.0)

/-- Below this opacity a pixel is as good as clear. -/
def leastOpacity : Float32 := Binary.toSingle 0.000001

/-- The pixel with a paint laid over it, of which the pixel takes the given part. -/
def Pixel.blend (pixel : Pixel) (paint : Paint) (taken : Float32) : Pixel :=
  let before := pixel.alpha.toFloat32 / 255.0
  let kept := before * (1.0 - taken)
  let opacity := taken + kept
  let divisor := if opacity > leastOpacity then opacity else 1.0
  let channel (new : Float32) (old : UInt8) : UInt8 :=
    nearestByte ((new * taken + old.toFloat32 * kept) / divisor)
  { red := channel paint.red pixel.red
    green := channel paint.green pixel.green
    blue := channel paint.blue pixel.blue
    alpha := nearestByte (opacity * 255.0) }

/-! ### Boxes of pixels -/

namespace Canvas

/-- The picture with a colour laid over a box. The coverage is told for every row and column. -/
def composite (canvas : Canvas) (box : Box) (color : Color) (coverage : Nat → Nat → Float32) :
    Canvas :=
  let paint := Paint.ofColor color
  if box.any fun row column => coverage row column * paint.opacity > 0.0 then
    canvas.modifyBox box fun row column pixel =>
      pixel.blend paint (coverage row column * paint.opacity)
  else canvas

/-- The picture with a colour laid evenly over a box. -/
def fillBox (canvas : Canvas) (box : Box) (color : Color) : Canvas :=
  canvas.composite box color fun _ _ => 1.0

@[simp] theorem width_composite (canvas : Canvas) (box : Box) (color : Color)
    (coverage : Nat → Nat → Float32) :
    (canvas.composite box color coverage).width = canvas.width := by
  simp only [composite]; split <;> rfl

@[simp] theorem height_composite (canvas : Canvas) (box : Box) (color : Color)
    (coverage : Nat → Nat → Float32) :
    (canvas.composite box color coverage).height = canvas.height := by
  simp only [composite]; split <;> rfl

/-- Outside the box nothing changes. -/
theorem pixelAt?_composite_outside (canvas : Canvas) (box : Box) (color : Color)
    (coverage : Nat → Nat → Float32) {row column : Nat} (outside : box.holds row column = false) :
    (canvas.composite box color coverage).pixelAt? row column = canvas.pixelAt? row column := by
  simp only [composite]
  split
  · rw [pixelAt?_modifyBox, outside]; simp
  · rfl

/-! ### Lines and boxes -/

/-- A horizontal line between two columns, both of which belong to it. -/
def drawHorizontal (canvas : Canvas) (x0 x1 y : Int) (color : Color) : Canvas :=
  canvas.fillBox (canvas.clip (min x0 x1) y (max x0 x1 + 1) (y + 1)) color

/-- A vertical line between two rows, both of which belong to it. -/
def drawVertical (canvas : Canvas) (x y0 y1 : Int) (color : Color) : Canvas :=
  canvas.fillBox (canvas.clip x (min y0 y1) (x + 1) (max y0 y1 + 1)) color

/-- The box between two corners, both of which belong to it. -/
def drawBox (canvas : Canvas) (x0 y0 x1 y1 : Int) (color : Color) : Canvas :=
  canvas.fillBox (canvas.clip (min x0 x1) (min y0 y1) (max x0 x1 + 1) (max y0 y1 + 1)) color

end Canvas

end SeriesChart
