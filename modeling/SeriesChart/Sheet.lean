/-
This file paints drawings on pictures. A sheet is a picture together with how many of its
pixels make one logical pixel; every coordinate of a call is scaled and rounded before
it is painted. Straight lines one pixel wide are painted directly, and all other
lines by walking along them.
-/

import SeriesChart.Font.Bitmap
import SeriesChart.Options.Theme
import SeriesChart.Raster.Disc
import SeriesChart.Raster.Polygon
import SeriesChart.Raster.Stroke
import SeriesChart.Scene.DrawCall

namespace SeriesChart

/-! ### Devices -/

/-- What calls are painted for: the size in logical pixels, how many pixels make one of them, what
the picture is cleared with, and what texts are set in. -/
structure Device where
  width : Float
  height : Float
  ratio : Float
  background : Color
  fontFamily : String
  fonts : Fonts

namespace Device

/-- The pixel nearest to a length. -/
def pixel (device : Device) (length : Float) : Except Fault Int :=
  Binary.toWhole .nearestEven (length * device.ratio)

/-- The pixels nearest to a place. -/
def place (device : Device) (x y : Float) : Except Fault (Int × Int) := do
  let column ← device.pixel x
  return (column, ← device.pixel y)

/-- How many pixels wide a line is, one at least. -/
def brush (device : Device) (width : Float) : Except Fault Int :=
  return max 1 (← device.pixel width)

/-- The least number of thirty-two bits with a sign. -/
def leastWord : Int := -(twoTo 31 : Int)

/-- The pixel nearest to a length as a number of thirty-two bits. What has none, being too large or
no number, becomes the least of them. -/
def wordPixel (device : Device) (length : Float) : Int :=
  match device.pixel length with
  | .ok pixel => if leastWord ≤ pixel ∧ pixel < -leastWord then pixel else leastWord
  | .error _ => leastWord

/-! ### Lines and areas -/

/-- Paints a line through places. A single place is no line. -/
def paintPolyline (device : Device) (places : List (Float × Float)) (color : Color)
    (width : Float) : Painting := do
  if 2 ≤ places.length then
    let brush ← device.brush width
    let pixels := places.map fun place => (device.wordPixel place.1, device.wordPixel place.2)
    modify fun canvas => canvas.drawLine pixels color brush

/-- Paints a straight line. -/
def paintLine (device : Device) (x0 y0 x1 y1 : Float) (color : Color) (width : Float) :
    Painting := do
  let (column0, row0) ← device.place x0 y0
  let (column1, row1) ← device.place x1 y1
  let brush ← device.brush width
  if brush ≤ 1 ∧ row0 = row1 then
    modify fun canvas => canvas.drawHorizontal column0 column1 row0 color
  else if brush ≤ 1 ∧ column0 = column1 then
    modify fun canvas => canvas.drawVertical column0 row0 row1 color
  else device.paintPolyline [(x0, y0), (x1, y1)] color width

/-- Paints a polygon. Its corners are not rounded. -/
def paintPolygon (device : Device) (corners : List (Float × Float)) (color : Color) : Painting :=
  Canvas.fillPolygon (corners.map fun corner => (corner.1 * device.ratio, corner.2 * device.ratio))
    color

/-- Paints a rectangle, at least one pixel wide and high unless it has no area at all. -/
def paintRect (device : Device) (x y width height : Float) (color : Color) : Painting := do
  unless width ≤ 0.0 ∨ height ≤ 0.0 do
    let (left, top) ← device.place x y
    let (right, bottom) ← device.place (x + width) (y + height)
    modify fun canvas => canvas.drawBox left top (max (left + 1) right - 1)
      (max (top + 1) bottom - 1) color

/-! ### Texts -/

/-- How many copies of a bold text are laid over each other. -/
def weightOf (bold : Bool) : Int := if bold then 2 else 1

/-- How far the left edge of a text lies before its anchor. -/
def alignShift (align : TextAlign) (width : Int) : Int :=
  match align with
  | .left => 0
  | .center => width / 2
  | .right => width

/-- How far the top edge of a text lies above its anchor. -/
def baselineShift (baseline : TextBaseline) (height : Int) : Int :=
  match baseline with
  | .top => 0
  | .middle => height / 2
  | .bottom => height

/-- The font that texts of a size are set in. -/
def fontOf (device : Device) (size : Value) : Except Fault Font :=
  return device.fonts.find device.fontFamily (← Font.wholeSize size)

/-- Paints a text. The empty text paints nothing. -/
def paintText (device : Device) (x y : Float) (text : String) (color : Color) (style : TextStyle) :
    Painting := do
  unless text = "" do
    let size : Value := .float (style.fontSize * device.ratio)
    let weight := weightOf style.bold
    let font ← device.fontOf size
    let (width, height) ← font.measure text size weight
    let (column, row) ← device.place x y
    Canvas.drawText font (column - alignShift style.align width)
      (row - baselineShift style.baseline height) text color size weight

/-! ### Calls -/

/-- Paints one call. -/
def paint (device : Device) : DrawCall → Painting
  | .clear => Canvas.clear device.background
  | .strokeLine x0 y0 x1 y1 color width => device.paintLine x0 y0 x1 y1 color width
  | .strokePolyline places color width => device.paintPolyline places color width
  | .fillPolygon corners color => device.paintPolygon corners color
  | .fillCircle x y radius color =>
    Canvas.fillDisc (x * device.ratio) (y * device.ratio) (radius * device.ratio) color
  | .fillRect x y width height color => device.paintRect x y width height color
  | .fillText x y text color style => device.paintText x y text color style

/-- Paints a plan up to its first fault. -/
def paintPlan (device : Device) (plan : Plan) : Painting := plan.carryOut device.paint

end Device

/-! ### Sheets -/

/-- A picture and what it is painted for. -/
structure Sheet where
  device : Device
  canvas : Canvas

namespace Sheet

/-- A clear sheet. Its size and its ratio may be any values that read as floats. -/
def create (width height ratio : Value) (background : Color) (fontFamily : String)
    (fonts : Fonts := .builtIn) : Except Fault Sheet := do
  if ← ratio.isAtMostZero then throw (.invalid .pixelRatio)
  if ← width.isNegative then throw (.invalid .contextSize)
  if ← height.isNegative then throw (.invalid .contextSize)
  let width ← width.toFloat
  let height ← height.toFloat
  let device : Device := { width, height, background, fontFamily, fonts, ratio := ← ratio.toFloat }
  let columns ← device.pixel width
  return ⟨device, ← Canvas.create columns (← device.pixel height) background⟩

/-- Paints on the picture of a sheet. -/
def onCanvas (painting : Painting) : EStateM Fault Sheet Unit := fun sheet =>
  match painting.run sheet.canvas with
  | .ok _ canvas => .ok () { sheet with canvas }
  | .error fault canvas => .error fault { sheet with canvas }

/-- The pixel nearest to a place. A place left of or above the picture counts from its far end. -/
def pixelNear (sheet : Sheet) (x y : Float) : Except Fault (Option Pixel) := do
  let (column, row) ← sheet.device.place x y
  let wrapped (place : Int) (size : Nat) : Int := if place < 0 then place + size else place
  let column := wrapped column sheet.canvas.width
  let row := wrapped row sheet.canvas.height
  return if column < 0 ∨ row < 0 then none else sheet.canvas.pixelAt? row.toNat column.toNat

/-- Puts a picture of the same size in the place of the one that is there. -/
def putPicture (picture : Canvas) : Painting := do
  let canvas ← get
  if picture.height = canvas.height ∧ picture.width = canvas.width then
    Canvas.blit picture 0 0
  else throw (.invalid .snapshotShape)

end Sheet

end SeriesChart
