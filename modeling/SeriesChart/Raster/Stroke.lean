/-
This file draws lines of whole pixels. A segment is walked from its start to its end, one
pixel at a time, along the pixels nearest to the straight line; a square brush is stamped
at every place. The pixels that are hit by any segment of a line are collected first and
painted together, so that a translucent line is no darker where it meets itself.
-/

import SeriesChart.Raster.Composite

namespace SeriesChart

/-! ### The walk along a segment -/

/-- A place on a segment, and how far the walk has strayed from the line. -/
structure Walker where
  x : Int
  y : Int
  stray : Int
  deriving DecidableEq, Repr

/-- A segment between two places. -/
structure Segment where
  x0 : Int
  y0 : Int
  x1 : Int
  y1 : Int
  deriving DecidableEq, Repr

namespace Segment

/-- The extent across. -/
def across (segment : Segment) : Int := (segment.x1 - segment.x0).natAbs

/-- The extent down. -/
def down (segment : Segment) : Int := (segment.y1 - segment.y0).natAbs

/-- The direction of a step across. -/
def stepX (segment : Segment) : Int := if segment.x0 < segment.x1 then 1 else -1

/-- The direction of a step down. -/
def stepY (segment : Segment) : Int := if segment.y0 < segment.y1 then 1 else -1

/-- The start of the walk. -/
def start (segment : Segment) : Walker :=
  ⟨segment.x0, segment.y0, segment.across - segment.down⟩

/-- One step: across, down, or both. Both are decided by the place before the step. -/
def step (segment : Segment) (walker : Walker) : Walker :=
  let movesX := -segment.down ≤ 2 * walker.stray
  let movesY := 2 * walker.stray ≤ segment.across
  { x := if movesX then walker.x + segment.stepX else walker.x
    y := if movesY then walker.y + segment.stepY else walker.y
    stray := walker.stray - (if movesX then segment.down else 0) +
      (if movesY then segment.across else 0) }

/-- The walker has come to the end. -/
def isAtEnd (segment : Segment) (walker : Walker) : Bool :=
  walker.x = segment.x1 && walker.y = segment.y1

/-- The places from a walker on to the end, after those already visited, the last one first. -/
def walkFrom (segment : Segment) : Nat → Walker → List (Int × Int) → List (Int × Int)
  | 0, walker, visited => (walker.x, walker.y) :: visited
  | fuel + 1, walker, visited =>
    let visited := (walker.x, walker.y) :: visited
    if segment.isAtEnd walker then visited else segment.walkFrom fuel (segment.step walker) visited

/-- The places of a segment in order. Every step shortens the way in at least one direction, so
there are at most as many steps as the two extents together. -/
def walk (segment : Segment) : List (Int × Int) :=
  (segment.walkFrom (segment.across + segment.down).toNat segment.start []).reverse

end Segment

/-! ### The brush -/

/-- Pixels of a picture that are to be painted. -/
structure Hits where
  width : Nat
  height : Nat
  marks : Array Bool

namespace Hits

/-- No pixel. -/
def none (width height : Nat) : Hits := ⟨width, height, Array.replicate (width * height) false⟩

/-- The pixel of a row and a column is to be painted. -/
def holds (hits : Hits) (row column : Nat) : Bool :=
  hits.marks.getD (row * hits.width + column) false

/-- Marks `count` places from a place on. -/
def markRun (start : Nat) : Nat → Array Bool → Array Bool
  | 0, marks => marks
  | count + 1, marks => markRun start count (marks.setIfInBounds (start + count) true)

/-- Marks the runs of `count` rows from a row on. -/
def markRows (width left run top : Nat) : Nat → Array Bool → Array Bool
  | 0, marks => marks
  | count + 1, marks =>
    markRows width left run top count (markRun ((top + count) * width + left) run marks)

/-- Stamps a square around a place; what reaches over an edge is cut off. -/
def stamp (hits : Hits) (radius : Int) (place : Int × Int) : Hits :=
  let top := (place.2 - radius).toNat
  let bottom := min hits.height (place.2 + radius + 1).toNat
  let left := (place.1 - radius).toNat
  let right := min hits.width (place.1 + radius + 1).toNat
  if right ≤ left then hits
  else { hits with marks := markRows hits.width left (right - left) top (bottom - top) hits.marks }

end Hits

/-- How far a brush reaches around its middle. -/
def brushRadius (width : Int) : Int := max 0 (width / 2)

/-! ### Lines -/

/-- The segments between the neighbours of a list of places. -/
def segmentsOf (places : List (Int × Int)) : List Segment :=
  List.zipWith (fun first second => ⟨first.1, first.2, second.1, second.2⟩) places places.tail

/-- The pixels that the segments of a line hit. -/
def lineHits (width height : Nat) (places : List (Int × Int)) (brush : Int) : Hits :=
  (segmentsOf places).foldl
    (fun hits segment => segment.walk.foldl (Hits.stamp · (brushRadius brush)) hits)
    (Hits.none width height)

/-- A line through places, drawn with a brush of the given width. A single place is no line. -/
def Canvas.drawLine (canvas : Canvas) (places : List (Int × Int)) (color : Color) (brush : Int) :
    Canvas :=
  if places.length < 2 then canvas
  else
    let hits := lineHits canvas.width canvas.height places brush
    if hits.marks.contains true then
      canvas.composite canvas.wholeBox color fun row column =>
        if hits.holds row column then 1.0 else 0.0
    else canvas

/-! ### Lines of given columns and rows -/

/-- Refuses a whole number that does not fit thirty-two bits with a sign. -/
def checkPlace (place : Int) : Except Fault Unit :=
  let limit : Int := twoTo 31
  if -limit ≤ place && place < limit then .ok ()
  else .error (.overflow (.outOfBounds place "int32"))

/-- Draws a line whose columns and rows are given apart. There are as many places as columns; rows
left over are passed over, and a row that lacks is refused unless a single place is no line. -/
def Canvas.drawLineAt (columns rows : List Int) (color : Color) (brush : Int) : Painting := do
  columns.forM fun place => Fault.lift (checkPlace place)
  rows.forM fun place => Fault.lift (checkPlace place)
  if 2 ≤ columns.length then
    if rows.length < columns.length then throw (.beyondEnd rows.length rows.length)
    modify (·.drawLine (columns.zip rows) color brush)

end SeriesChart
