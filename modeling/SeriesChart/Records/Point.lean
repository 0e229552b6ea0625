/-
This file makes points of a time and a value as records hold them. A time may be a date, a
time of day on a date, a text in the international format, a moment, or a plain number of
seconds; it becomes the seconds since the start of 1970, read as universal time unless an
offset says otherwise. A value may be anything that reads as a float. Both must be finite.
-/

import SeriesChart.Calendar.IsoText
import SeriesChart.Value.Number

namespace SeriesChart

open Calendar

/-! ### Times -/

/-- Microseconds as seconds: one division, rounded once. -/
def secondsOfMicros (micros : Int) : Float :=
  let magnitude := Float.ofScientific micros.natAbs true 6
  if micros < 0 then -magnitude else magnitude

/-- Nanoseconds as seconds: one division, rounded once, and then rounded to whole microseconds. -/
def secondsOfNanos (nanos : Int) : Float :=
  let magnitude := Float.ofScientific nanos.natAbs true 9
  let seconds := if nanos < 0 then -magnitude else magnitude
  match Binary.ofFloat seconds with
  | .finite negative significand exponent =>
    let micros := Rounding.nearestEven.quotient
      (Binary.numerator negative significand exponent * 1000000) (Binary.denominator exponent)
    secondsOfMicros micros
  | _ => seconds

/-- The time that a text stands for. A Z at its end says universal time even after a bare date. -/
def timeOfText? (text : String) : Option DateTime :=
  let characters := Text.stripBoth Text.isBlank text.toList
  IsoText.read? <|
    if characters.getLast? = some 'Z' then characters.dropLast ++ "+00:00".toList else characters

namespace Value

/-- A number of seconds, which must be finite. -/
def finiteSeconds (value : Value) : Except Fault Float := do
  let seconds ← value.toFloat
  if seconds.isFinite then return seconds
  throw (.data (.timeNotFinite value.shown))

/-- The seconds from the start of 1970 to the time that a value stands for. -/
def epochSeconds (value : Value) : Except Fault Float :=
  match value with
  | .dateTime time => .ok (secondsOfMicros time.epochMicros)
  | .stamp (some time) => .ok (secondsOfNanos time.nanos)
  | .stamp none => .error (.invalid .unknownTimestamp)
  | .date day => .ok (secondsOfMicros (DateTime.midnight day).epochMicros)
  | .moment counted =>
    match counted.epochMicros? with
    | none => .error (.data .unknownTime)
    | some micros => .ok (Float.ofInt micros / 1000000.0)
  | .int _ | .float _ | .decimal _ | .word _ | .cell _ => value.finiteSeconds
  | .text written =>
    match timeOfText? written with
    | some time => .ok (secondsOfMicros time.epochMicros)
    | none => .error (.data (.unreadableTime value.shown))
  | other => .error (.data (.unsupportedTime other.typeText))

/-! ### Values -/

/-- The finite number that a value stands for. Truth values and absent values are none, although
they could be counted. What is no number is shown in the fault, if it can be shown. -/
def toMeasure (value : Value) : Except Fault Float :=
  let notNumeric : Except Fault Float := value.refuse fun shown => .data (.valueNotNumeric shown)
  match value with
  | .bool _ | .absent => notNumeric
  | value =>
    match value.toFloat with
    | .ok number =>
      if number.isFinite then .ok number else .error (.data (.valueNotFinite value.shown))
    | .error (.mistyped _) | .error (.invalid _) => notNumeric
    | .error fault => .error fault

end Value

/-! ### Points -/

/-- The point of a time and a value. The time is looked at first. -/
def Point.ofValues (timestamp value : Value) : Except Fault Point := do
  let seconds ← timestamp.epochSeconds
  return ⟨seconds, ← value.toMeasure⟩

end SeriesChart
