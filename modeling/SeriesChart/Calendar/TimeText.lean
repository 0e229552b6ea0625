/-
This file writes times. The shown form of a time names its type and the numbers that make
it up; the plain form is the international one. An offset is written in hours and minutes,
with its seconds and their fraction only where they count.
-/

import SeriesChart.Calendar.Stamp

namespace SeriesChart.Calendar

/-! ### Spans and offsets -/

/-- The arguments of a span of time: days and the seconds left over, as far as they count. -/
def spanText (micros : Int) : String :=
  let days := micros / microsPerDay
  let seconds := micros % microsPerDay / microsPerSecond
  let rest := micros % microsPerSecond
  let part (name : String) (count : Int) : List String :=
    if count = 0 then [] else [s!"{name}={count}"]
  let parts := part "days" days ++ part "seconds" seconds ++ part "microseconds" rest
  "datetime.timedelta(" ++ (if parts = [] then "0" else ", ".intercalate parts) ++ ")"

/-- An offset as a time zone. -/
def zoneText (offset : Int) : String :=
  if offset = 0 then "datetime.timezone.utc"
  else "datetime.timezone(" ++ spanText offset ++ ")"

/-! ### Dates and times -/

/-- A time with its type: seconds and microseconds stand only where they count. -/
def dateTimeShown (time : DateTime) : String :=
  let date := [toString time.date.year, toString time.date.month, toString time.date.day]
  let clock := [toString time.hour, toString time.minute]
  let seconds := if time.second = 0 ∧ time.microsecond = 0 then [] else [toString time.second]
  let micros := if time.microsecond = 0 then [] else [toString time.microsecond]
  let zone := match time.offset with
    | none => []
    | some offset => ["tzinfo=" ++ zoneText offset]
  "datetime.datetime(" ++ ", ".intercalate (date ++ clock ++ seconds ++ micros ++ zone) ++ ")"

/-- A date in the international format. -/
def dateText (date : Date) : String :=
  Moment.padded 4 date.year.natAbs ++ "-" ++ Moment.padded 2 date.month ++ "-" ++
    Moment.padded 2 date.day

/-- An offset in hours and minutes, with seconds and their fraction where they count. -/
def offsetText (offset : Int) : String :=
  let micros := offset.natAbs
  let seconds := micros / 1000000
  (if offset < 0 then "-" else "+") ++ Moment.padded 2 (seconds / 3600) ++ ":" ++
    Moment.padded 2 (seconds / 60 % 60) ++
    (if seconds % 60 = 0 ∧ micros % 1000000 = 0 then ""
      else ":" ++ Moment.padded 2 (seconds % 60)) ++
    (if micros % 1000000 = 0 then "" else "." ++ Moment.padded 6 (micros % 1000000))

/-- A time in the international format with a blank in its middle. -/
def dateTimeText (time : DateTime) : String :=
  dateText time.date ++ " " ++ Moment.padded 2 time.hour ++ ":" ++ Moment.padded 2 time.minute ++
    ":" ++ Moment.padded 2 time.second ++
    (if time.microsecond = 0 then "" else "." ++ Moment.padded 6 time.microsecond) ++
    (match time.offset with
      | none => ""
      | some offset => offsetText offset)

/-! ### Stamps and moments -/

/-- A time stamp as its clock showed it: the fraction of a second has six or nine digits. -/
def stampText (stamp : Stamp) : String :=
  let (time, rest) := stamp.localTime
  dateTimeText time ++
    (if rest = 0 then ""
      else (if time.microsecond = 0 then ".000000" else "") ++ Moment.padded 3 rest)

/-- A time stamp with its type. A clock with a known offset stands behind it twice. -/
def stampShown (stamp : Stamp) : String :=
  let zone := match stamp.offset with
    | none => "'"
    | some offset =>
      let shown := offsetText offset
      String.ofList (shown.toList.filter (· ≠ ':')) ++ "', tz='UTC" ++
        (if offset = 0 then "" else shown) ++ "'"
  "Timestamp('" ++ stampText stamp ++ zone ++ ")"

/-- A moment with its type. Its unit is told where the text alone leaves it open. -/
def momentShown (moment : Moment) : String :=
  let unit :=
    if moment.count.isNone || moment.unit = .hour then ",'" ++ moment.unit.symbol ++ "'" else ""
  "np.datetime64('" ++ moment.text ++ "'" ++ unit ++ ")"

end SeriesChart.Calendar
