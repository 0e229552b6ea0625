/-
This file writes a float with a fixed number of decimal places and a comma between
groups of three whole digits. The float is taken as the exact number it is; its nearest
multiple of the last place is chosen, a tie going to the even one, and only then written.
The sign of a number that rounds to zero stays.
-/

import SeriesChart.Number.Binary

namespace SeriesChart

/-! ### Groups of three -/

/-- Digits from the last to the first, with a comma after every third that has one more. -/
def groupReversed : List Char → List Char
  | first :: second :: third :: next :: rest =>
    first :: second :: third :: ',' :: groupReversed (next :: rest)
  | digits => digits

/-- Digits with a comma between groups of three. -/
def groupDigits (digits : List Char) : List Char :=
  (groupReversed digits.reverse).reverse

/-! ### Places -/

/-- A whole number of last places as digits before and after the point. -/
def placesText (places count : Nat) : List Char :=
  let digits := Nat.toDigits 10 count
  let padded := List.replicate (places + 1 - digits.length) '0' ++ digits
  let whole := groupDigits (padded.take (padded.length - places))
  if places = 0 then whole else whole ++ '.' :: padded.drop (padded.length - places)

/-- How many last places the magnitude of a finite float has, to the nearest, ties to even. -/
def countPlaces (places significand : Nat) (exponent : Int) : Nat :=
  (Rounding.nearestEven.quotient (significand * twoTo exponent.toNat * tenTo places)
    (Binary.denominator exponent)).toNat

/-- No float has more places than this. -/
def finestPlace : Nat := 1074

/-- A float with the given number of places. -/
def fixedText (places : Nat) (value : Float) : String :=
  match Binary.ofFloat value with
  | .undefined => "nan"
  | .infinite negative => if negative then "-inf" else "inf"
  | .finite negative significand exponent =>
    let counted := min places finestPlace
    (if negative then "-" else "") ++
      String.ofList (placesText counted (countPlaces counted significand exponent) ++
        List.replicate (places - counted) '0')

end SeriesChart
