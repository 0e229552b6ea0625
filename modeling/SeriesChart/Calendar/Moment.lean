/-
This file holds moments that are counted in a unit of their own choice, from years down to
nanoseconds, and moments that are unknown. Counts start with 1970. A moment is read from a
text of its own precision and written back with it.
-/

import SeriesChart.Calendar.LongForm

namespace SeriesChart.Calendar

/-! ### Units -/

/-- What a moment counts. -/
inductive MomentUnit where
  | year
  | month
  | week
  | day
  | hour
  | minute
  | second
  | milli
  | micro
  | nano
  deriving DecidableEq, Repr

namespace MomentUnit

/-- All units, from the coarsest to the finest. -/
def all : List MomentUnit :=
  [.year, .month, .week, .day, .hour, .minute, .second, .milli, .micro, .nano]

/-- The symbol of a unit. -/
def symbol : MomentUnit → String
  | .year => "Y"
  | .month => "M"
  | .week => "W"
  | .day => "D"
  | .hour => "h"
  | .minute => "m"
  | .second => "s"
  | .milli => "ms"
  | .micro => "us"
  | .nano => "ns"

/-- The unit of a symbol. -/
def ofSymbol? (symbol : String) : Option MomentUnit := all.find? (·.symbol = symbol)

theorem ofSymbol?_symbol (unit : MomentUnit) : ofSymbol? unit.symbol = some unit := by
  cases unit <;> decide

/-- The nanoseconds of a unit of fixed length. -/
def nanos : MomentUnit → Int
  | .year | .month => 0
  | .week => 604800000000000
  | .day => 86400000000000
  | .hour => 3600000000000
  | .minute => 60000000000
  | .second => 1000000000
  | .milli => 1000000
  | .micro => 1000
  | .nano => 1

end MomentUnit

/-- A count of units, or an unknown moment. -/
structure Moment where
  unit : MomentUnit
  count : Option Int
  deriving DecidableEq, Repr

namespace Moment

/-! ### Instants -/

/-- The instant of a count, in nanoseconds. -/
def nanosOf (unit : MomentUnit) (count : Int) : Int :=
  match unit with
  | .year => Date.dayNumber ⟨1970 + count, 1, 1⟩ * nanosPerDay
  | .month =>
    Date.dayNumber ⟨1970 + count / 12, (count % 12).toNat + 1, 1⟩ * nanosPerDay
  | unit => count * unit.nanos

/-- A count as a word of sixty-four bits holds it: what does not fit goes around. -/
def wrapped (count : Int) : Int := count.bmod (twoTo 64)

/-- The instant of a known moment, in microseconds, rounded down. -/
def epochMicros? (moment : Moment) : Option Int :=
  moment.count.map fun count => wrapped (nanosOf moment.unit count / 1000)

/-- The count of the unit that an instant lies in. -/
def countOf (unit : MomentUnit) (nanos : Int) : Int :=
  let date := Date.ofDayNumber (nanos / nanosPerDay)
  match unit with
  | .year => date.year - 1970
  | .month => (date.year - 1970) * 12 + date.month - 1
  | unit => nanos / unit.nanos

/-! ### Reading -/

/-- The moment that a text of the given unit stands for. -/
def ofText? (unit : MomentUnit) (text : String) : Option Moment := do
  if text = "NaT" then some ⟨unit, none⟩
  else
    let form ← LongForm.read? text.toList
    some ⟨unit, some (wrapped (countOf unit form.instant))⟩

/-! ### Writing -/

/-- A number with at least the given count of digits. -/
def padded (width value : Nat) : String :=
  let digits := toString value
  String.ofList (List.replicate (width - digits.length) '0') ++ digits

/-- A year of four characters at least, the first of them a minus when it lies before year zero. -/
def yearText (year : Int) : String :=
  if year < 0 then "-" ++ padded 3 year.natAbs else padded 4 year.natAbs

/-- How many digits follow the second. -/
def fractionDigits : MomentUnit → Nat
  | .milli => 3
  | .micro => 6
  | .nano => 9
  | _ => 0

/-- The time of day with the fields that the unit has. -/
def clockText (unit : MomentUnit) (nanos : Nat) : String :=
  let seconds := nanos / 1000000000
  let hours := "T" ++ padded 2 (seconds / 3600)
  let minutes := ":" ++ padded 2 (seconds / 60 % 60)
  let digits := fractionDigits unit
  let fraction := if digits = 0 then ""
    else "." ++ padded digits (nanos % 1000000000 / tenTo (9 - digits))
  match unit with
  | .hour => hours
  | .minute => hours ++ minutes
  | _ => hours ++ minutes ++ ":" ++ padded 2 (seconds % 60) ++ fraction

/-- A moment as text, with the precision of its unit. -/
def text (moment : Moment) : String :=
  match moment.count with
  | none => "NaT"
  | some count =>
    let nanos := nanosOf moment.unit count
    let date := Date.ofDayNumber (nanos / nanosPerDay)
    let yearAndMonth := yearText date.year ++ "-" ++ padded 2 date.month
    match moment.unit with
    | .year => yearText date.year
    | .month => yearAndMonth
    | .week | .day => yearAndMonth ++ "-" ++ padded 2 date.day
    | unit => yearAndMonth ++ "-" ++ padded 2 date.day ++
        clockText unit (nanos % nanosPerDay).toNat

end Moment

end SeriesChart.Calendar
