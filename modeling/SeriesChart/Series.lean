/-
This file holds the points that a chart shows: a time in seconds from the start of 1970
and a value each, in the order they were given. Nothing is sorted and nothing is checked
here; what reads records has done that before.
-/

namespace SeriesChart

/-- One point of a chart. -/
structure Point where
  timestamp : Float
  value : Float
  deriving DecidableEq, Repr

/-- The points of a chart in the order they were given. -/
structure Series where
  points : List Point := []
  deriving DecidableEq, Repr

namespace Series

/-- The times, in order. -/
def timestamps (series : Series) : List Float := series.points.map Point.timestamp

/-- The values, in order. -/
def values (series : Series) : List Float := series.points.map Point.value

/-- The number of points. -/
def length (series : Series) : Nat := series.points.length

/-- There is no point. -/
def isEmpty (series : Series) : Bool := series.points.isEmpty

@[simp] theorem length_timestamps (series : Series) :
    series.timestamps.length = series.length := by
  simp [timestamps, length]

@[simp] theorem length_values (series : Series) : series.values.length = series.length := by
  simp [values, length]

end Series

end SeriesChart
