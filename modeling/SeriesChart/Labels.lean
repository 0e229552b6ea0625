/-
This file writes the labels of a chart: amounts with a fixed number of places, and dates,
long and short. The date of a number of seconds is that of universal time, after rounding
to microseconds; only dates of the years 1 to 9999 can be written. A chart asks for its
labels through a record of three functions, which a caller may replace.
-/

import SeriesChart.Number.FixedPlaces
import SeriesChart.Records.Point

namespace SeriesChart

open Calendar

/-! ### Amounts -/

/-- The largest whole numbers of sixty-four and of thirty-two bits with a sign. -/
def largestLong : Nat := twoTo 63 - 1
def largestShort : Nat := twoTo 31 - 1

/-- The number of places that a text tells, in digits of any script. A count that does not fit
sixty-four bits is refused while it is read, and one that does not fit thirty-two bits after. -/
def placesOf (written : String) : Except Fault Nat := do
  let values := written.toList.map Text.digitValue?
  let digits := (values.takeWhile Option.isSome).filterMap id
  if digits = [] then throw (.invalid .missingPrecision)
  let count := digits.foldl (fun count digit => 10 * count + digit) 0
  if largestLong < count then throw (.invalid .tooManyPlaces)
  if digits.length < values.length then
    throw (.invalid (.formatSpecifier (",." ++ written ++ "f")))
  if largestShort < count then throw (.invalid .tooManyWrittenPlaces)
  return count

/-- How many places an amount has. -/
def standardPlaces : Value := .int 2

/-- An amount with the given number of places; an absent one is zero. -/
def amountLabel (value : Value) (places : Value := standardPlaces) : Except Fault String := do
  let amount ← match value with
    | .absent => pure 0.0
    | value => value.toFloat
  return fixedText (← placesOf places.plain) amount

/-! ### Dates -/

/-- Seconds as whole microseconds: the whole seconds, and the fraction times a million as a float,
to the nearest. -/
def microsOfSeconds (seconds : Float) : Except Fault Int := do
  let whole ← Binary.toWhole .towardZero seconds
  let fraction := (seconds - Float.ofInt whole) * 1000000.0
  return whole * 1000000 + (← Binary.toWhole .nearestEven fraction)

/-- The date in universal time of a number of seconds. The clock counts seconds in sixty-four bits
and years, from 1900 on, in thirty-two. -/
def dateOfSeconds (seconds : Float) : Except Fault Date := do
  let micros ← microsOfSeconds seconds
  let whole := micros / microsPerSecond
  let secondLimit : Int := twoTo 63
  if whole < -secondLimit || secondLimit ≤ whole then throw (.overflow .secondsOutOfRange)
  let date := Date.ofDayNumber (whole / secondsPerDay)
  let yearLimit : Int := twoTo 31
  if date.year - 1900 < -yearLimit || yearLimit ≤ date.year - 1900 then throw .calendarOverflow
  if date.year < firstYear || lastYear < date.year then
    throw (.invalid (.yearOutOfRange (date.year.bmod (twoTo 32))))
  return date

/-- The time in universal time of a number of seconds. It is refused where its date is. -/
def timeOfSeconds (seconds : Float) : Except Fault DateTime := do
  let _ ← dateOfSeconds seconds
  return .ofEpochMicros (← microsOfSeconds seconds)

/-- The time in universal time that a value stands for. -/
def asDateTime (instant : Value) : Except Fault DateTime := do
  timeOfSeconds (← instant.epochSeconds)

/-- A date with its year, which is not padded. -/
def longDateText (date : Date) : String :=
  toString date.year ++ "-" ++ Moment.padded 2 date.month ++ "-" ++ Moment.padded 2 date.day

/-- A date without its year. -/
def shortDateText (date : Date) : String :=
  Moment.padded 2 date.month ++ "/" ++ Moment.padded 2 date.day

/-- A time as a date, written in the given way; an absent time is left blank. -/
def instantLabel (write : Date → String) (instant : Value) : Except Fault String :=
  match instant with
  | .absent => .ok ""
  | instant => do return write (← dateOfSeconds (← instant.epochSeconds))

/-- A time as a date with its year. -/
def dateLabel (instant : Value) : Except Fault String := instantLabel longDateText instant

/-- A time as a date without its year. -/
def shortDateLabel (instant : Value) : Except Fault String := instantLabel shortDateText instant

/-! ### The labels of a chart -/

/-- How a chart writes its amounts and its dates. -/
structure LabelFormats where
  amount : Float → Except Fault String := fun value => amountLabel (.float value)
  shortDate : Float → Except Fault String := fun instant => shortDateLabel (.float instant)
  date : Float → Except Fault String := fun instant => dateLabel (.float instant)

end SeriesChart
