/-
This file holds colours: four channels, the last of which says how opaque the colour is.
A colour that comes from options has every channel from 0 to 255; a theme is taken as it
is, so a channel is any whole number here and the range is a predicate.
-/

namespace SeriesChart

/-- Red, green, blue and opacity. -/
structure Color where
  red : Int
  green : Int
  blue : Int
  alpha : Int
  deriving DecidableEq, Repr

namespace Color

/-- A channel as a byte can hold it. -/
def isChannel (value : Int) : Bool := 0 ≤ value && value ≤ 255

/-- Every channel is in range. -/
def isValid (color : Color) : Bool :=
  isChannel color.red && isChannel color.green && isChannel color.blue && isChannel color.alpha

/-- The colour that shows nothing. -/
def transparent : Color := ⟨0, 0, 0, 0⟩

end Color

end SeriesChart
