/-
This file holds times of day on dates, with or without an offset from universal time, and
the instants they stand for. An instant is a whole number of microseconds from the start
of 1970; a time without an offset is read as universal time.
-/

import SeriesChart.Calendar.Date

namespace SeriesChart.Calendar

/-! ### Times -/

def microsPerSecond : Int := 1000000
def secondsPerDay : Int := 86400
def microsPerDay : Int := secondsPerDay * microsPerSecond

/-- A time of day on a date. The offset, if known, is in microseconds east of universal time. -/
structure DateTime where
  date : Date
  hour : Nat
  minute : Nat
  second : Nat
  microsecond : Nat
  offset : Option Int
  deriving DecidableEq, Repr

namespace DateTime

/-- Midnight of a date, without an offset. -/
def midnight (date : Date) : DateTime := ⟨date, 0, 0, 0, 0, none⟩

/-- The fields are in their ranges and the offset is shorter than a day. -/
def isValid (time : DateTime) : Bool :=
  time.date.isValid && time.hour < 24 && time.minute < 60 && time.second < 60 &&
    time.microsecond < 1000000 &&
    match time.offset with
    | none => true
    | some offset => -microsPerDay < offset && offset < microsPerDay

/-- The seconds of the day. -/
def secondOfDay (time : DateTime) : Nat := time.hour * 3600 + time.minute * 60 + time.second

/-- The instant of a time. -/
def epochMicros (time : DateTime) : Int :=
  (time.date.dayNumber * secondsPerDay + time.secondOfDay) * microsPerSecond + time.microsecond -
    time.offset.getD 0

theorem epochMicros_midnight (date : Date) :
    (midnight date).epochMicros = date.dayNumber * microsPerDay := by
  simp [epochMicros, midnight, secondOfDay, microsPerDay, Int.mul_assoc]

/-- The time of an instant, in universal time. -/
def ofEpochMicros (micros : Int) : DateTime :=
  let second := (micros % microsPerDay / microsPerSecond).toNat
  { date := Date.ofDayNumber (micros / microsPerDay)
    hour := second / 3600
    minute := second / 60 % 60
    second := second % 60
    microsecond := (micros % microsPerSecond).toNat
    offset := some 0 }

end DateTime

end SeriesChart.Calendar
