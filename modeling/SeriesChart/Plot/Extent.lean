/-
This file finds the part of the data space that a chart shows: all of the times, and the
values with some headroom. The headroom is a part of the magnitude of each extreme, so
that every value lies inside also when the extremes are negative.
-/

import SeriesChart.Number.Extremes
import SeriesChart.Series

namespace SeriesChart

/-! ### Extents -/

/-- The extent of the times and of the values. -/
structure Extent (Number : Type) where
  minX : Number
  maxX : Number
  minY : Number
  maxY : Number

namespace Extent

variable {Number : Type} [Scalar Number]

/-- The times have no extent. -/
def isFlatX (extent : Extent Number) : Bool := Scalar.same extent.maxX extent.minX

/-- The values have no extent. -/
def isFlatY (extent : Extent Number) : Bool := Scalar.same extent.maxY extent.minY

/-- The headroom of a chart: a tenth. -/
def standardHeadroom : Number := (Scalar.ofInt 1 : Number) / Scalar.ofInt 10

/-- The extent of points, given as pairs of a time and a value. There is none without points. -/
def ofPoints (points : List (Number × Number)) (headroom : Number) : Option (Extent Number) :=
  match points with
  | [] => none
  | first :: rest =>
    let lowest := smallest first.2 (rest.map Prod.snd)
    let highest := largest first.2 (rest.map Prod.snd)
    some
      { minX := smallest first.1 (rest.map Prod.fst)
        maxX := largest first.1 (rest.map Prod.fst)
        minY := lowest - Scalar.magnitude lowest * headroom
        maxY := highest + Scalar.magnitude highest * headroom }

end Extent

/-- The points as pairs of a time and a value. -/
def Series.pairs (series : Series) : List (Float × Float) :=
  series.points.map fun point => (point.timestamp, point.value)

/-- The extent of a series. A series without points has none. -/
def Series.extent (series : Series) (headroom : Float := Extent.standardHeadroom) :
    Except Fault (Extent Float) :=
  match Extent.ofPoints series.pairs headroom with
  | some extent => .ok extent
  | none => .error (.invalid .emptySeries)

end SeriesChart
