/-
This file fills discs. A pixel belongs to a disc when its centre is no further from the
middle than the radius; centres lie half a pixel inside their pixels, so that a disc
around a corner of pixels is symmetric. Whole numbers are added and multiplied exactly,
and only what comes of it is compared as a float.
-/

import SeriesChart.Number.Scalar
import SeriesChart.Raster.Composite
import SeriesChart.Value.Number

namespace SeriesChart

section Inside

variable {Number : Type} [Scalar Number]

/-- The centre of the pixel of a row and a column lies in the disc around a place, of which the
square of the radius is given. -/
def isInDisc (x y square : Number) (row column : Nat) : Bool :=
  let across := Scalar.ofInt column + Scalar.half - x
  let down := Scalar.ofInt row + Scalar.half - y
  decide (across * across + down * down ≤ square)

/-- The first place and the place after the last that a disc may touch along one axis, before they
are cut off at the edges of the picture. -/
def discExtent (center radius : Number) : Except Fault (Int × Int) := do
  let first ← Scalar.toInt .down (center - radius)
  let last ← Scalar.toInt .up (center + radius)
  return (first, last + 1)

end Inside

namespace Canvas

/-- The picture with a disc filled, given what it may touch along both axes. -/
def fillInside (canvas : Canvas) (columns rows : Int × Int) (color : Color)
    (inside : Nat → Nat → Bool) : Canvas :=
  let box := canvas.clip columns.1 rows.1 columns.2 rows.2
  if box.any inside then
    canvas.composite box color fun row column => if inside row column then 1.0 else 0.0
  else canvas

/-- Fills a disc. A radius of zero or below fills nothing. -/
def fillDisc {Number : Type} [Scalar Number] (x y radius : Number) (color : Color) : Painting := do
  unless radius ≤ Scalar.zero do
    let columns ← discExtent x radius
    let rows ← discExtent y radius
    modify fun canvas => canvas.fillInside columns rows color (isInDisc x y (radius * radius))

/-! ### Discs of given values -/

/-- What a disc may touch along one axis. Two whole numbers have no need of floats. -/
def discExtentAt (center radius : Value) : Except Fault (Int × Int) := do
  match center, radius with
  | .int center, .int radius => return (center - radius, center + radius + 1)
  | center, radius =>
    let center ← center.toFloat
    discExtent center (← radius.toFloat)

/-- The square of a number as a float. -/
def squareOf : Value → Except Fault Float
  | .int number => Binary.ofInt (number * number)
  | number => do
    let number ← number.toFloat
    return number * number

/-- Fills a disc whose place and radius are whole numbers or floats. Numbers are taken to floats
only when there are pixels to be compared with them. -/
def fillDiscAt (x y radius : Value) (color : Color) : Painting := do
  unless ← radius.isAtMostZero do
    let columns ← discExtentAt x radius
    let rows ← discExtentAt y radius
    let canvas ← get
    unless (canvas.clip columns.1 rows.1 columns.2 rows.2).isEmpty do
      let x ← x.toFloat
      let y ← y.toFloat
      set (canvas.fillInside columns rows color (isInDisc x y (← squareOf radius)))

end Canvas

end SeriesChart
