/-
This file takes values to numbers. A float is made of any number and of a text or bytes
that read as one; a whole number likewise, where the fraction of a float is cut off. What
cannot become a number is refused for its type; a text of the wrong form, and a number
that the result cannot hold, are refused for their value.
-/

import SeriesChart.Value.Quoted

namespace SeriesChart.Value

open Calendar

/-! ### Texts -/

/-- The float that the characters of a value stand for. -/
def readFloat (value : Value) (characters : List Char) : Except Fault Float :=
  match Numeral.readFloat? characters with
  | some result => .ok result
  | none => .error (.invalid (.unreadableFloat value.shown))

/-- Bytes as characters; those outside ASCII are no part of any number. -/
def charactersOf (raw : List UInt8) : List Char :=
  raw.map fun byte => if byte < 128 then Char.ofNat byte.toNat else '?'

/-- A moment as the value it stands for: a date or a time within the years in use, a bare count
otherwise. -/
def ofMoment (moment : Moment) : Value :=
  match moment.count with
  | none => .absent
  | some count =>
    let time := DateTime.ofEpochMicros (Moment.nanosOf moment.unit count / 1000)
    match moment.unit with
    | .nano => .int count
    | .year | .month | .week | .day => if time.date.isValid then .date time.date else .int count
    | _ => if time.date.isValid then .dateTime { time with offset := none } else .int count

/-! ### Floats -/

/-- The float that a value stands for. -/
def toFloat (value : Value) : Except Fault Float :=
  let refused (value : Value) : Except Fault Float :=
    .error (.mistyped (.notFloat value.typeName))
  match value with
  | .bool flag => .ok (if flag then 1.0 else 0.0)
  | .int number | .word number => Binary.ofInt number
  | .float number | .cell number => .ok number
  | .decimal number => number.toFloat
  | .text written => readFloat value written.toList
  | .bytes raw => readFloat value (charactersOf raw)
  | .moment counted =>
    match ofMoment counted with
    | .int number => Binary.ofInt number
    | other => refused other
  | .array grid => grid.toFloat
  | other => refused other

/-! ### Whole numbers -/

/-- The whole number that a value stands for; a fraction is cut off. -/
def toInt (value : Value) : Except Fault Int :=
  let refused (value : Value) : Except Fault Int :=
    .error (.mistyped (.notInteger value.typeName))
  match value with
  | .bool flag => .ok (if flag then 1 else 0)
  | .int number | .word number => .ok number
  | .float number | .cell number => Binary.toWhole .towardZero number
  | .decimal number => number.toInt
  | .text written => Numeral.readInt value.shown written.toList
  | .bytes raw => Numeral.readInt value.shown (charactersOf raw)
  | .moment counted =>
    match ofMoment counted with
    | .int number => .ok number
    | other => refused other
  | .array grid => do Binary.toWhole .towardZero (← grid.toFloat)
  | other => refused other

/-- The nearest whole number of a value that is a number, ties to even. -/
def toNearest (value : Value) : Except Fault Int :=
  match value with
  | .bool flag => .ok (if flag then 1 else 0)
  | .int number | .word number => .ok number
  | .float number | .cell number => Binary.toWhole .nearestEven number
  | .decimal (.finite negative digits exponent) =>
    .ok (Rounding.nearestEven.quotient (Binary.signed negative (digits * tenTo exponent.toNat))
      (tenTo (-exponent).toNat))
  | .decimal number => number.toInt
  | other => .error (.mistyped (.notRoundable other.typeName))

/-! ### Comparison -/

/-- The float that others must stay below. An array of one cell counts as its cell. -/
def toLimit (value : Value) : Except Fault Float :=
  match value with
  | .bool _ | .int _ | .word _ | .float _ | .cell _ | .decimal _ => value.toFloat
  | .array grid => .ok (grid.cells.getD 0 0.0)
  | other => .error (.mistyped (.notComparable "<" "float" other.typeName))

theorem toLimit_float (value : Float) : (Value.float value).toLimit = .ok value := rfl

/-- The value, which must be a number, is below zero. -/
def isNegative (value : Value) : Except Fault Bool :=
  match value with
  | .bool _ => .ok false
  | .int number | .word number => .ok (number < 0)
  | .float number | .cell number => .ok (number < 0.0)
  | .decimal number => number.isNegative
  | .array grid => grid.decideBy (· < 0.0)
  | .table _ => .error (.invalid .truthOfTable)
  | other => .error (.mistyped (.notComparable "<" other.typeName "int"))

/-- The value, which must be a number, is zero or below. -/
def isAtMostZero (value : Value) : Except Fault Bool :=
  match value with
  | .bool flag => .ok !flag
  | .int number | .word number => .ok (number ≤ 0)
  | .float number | .cell number => .ok (number ≤ 0.0)
  | .decimal number => number.isAtMostZero
  | .array grid => grid.decideBy (· ≤ 0.0)
  | .table _ => .error (.invalid .truthOfTable)
  | other => .error (.mistyped (.notComparable "<=" other.typeName "int"))

end SeriesChart.Value
