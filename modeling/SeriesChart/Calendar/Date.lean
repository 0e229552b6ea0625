/-
This file numbers the days of the calendar. Dates are those of the Gregorian calendar
carried on before its start, with a year zero; day zero is the first of January 1970.
The year of a day is estimated from the mean length of a year and then corrected by one,
so that it rests on the count of days before a year alone.
-/

namespace SeriesChart.Calendar

/-! ### Years and months -/

/-- Every fourth year, but of the full centuries only every fourth. -/
def isLeapYear (year : Int) : Bool :=
  year % 4 = 0 && (year % 100 ≠ 0 || year % 400 = 0)

/-- The days from the start of year one to the start of a year. -/
def daysBeforeYear (year : Int) : Int :=
  365 * (year - 1) + (year - 1) / 4 - (year - 1) / 100 + (year - 1) / 400

theorem daysBeforeYear_succ (year : Int) :
    daysBeforeYear (year + 1) = daysBeforeYear year + (if isLeapYear year then 366 else 365) := by
  unfold daysBeforeYear isLeapYear
  split <;> rename_i leap <;>
    simp only [Bool.and_eq_true, Bool.or_eq_true, decide_eq_true_eq] at leap <;> omega

/-- The lengths of the months of a year. -/
def monthLengths (leap : Bool) : List Nat :=
  [31, if leap then 29 else 28, 31, 30, 31, 30, 31, 31, 30, 31, 30, 31]

/-- The length of a month, counted from one; zero for a month that does not exist. -/
def monthLength (leap : Bool) (month : Nat) : Nat :=
  if month = 0 then 0 else (monthLengths leap).getD (month - 1) 0

/-- The days of a year before a month. -/
def daysBeforeMonth (leap : Bool) (month : Nat) : Nat :=
  ((monthLengths leap).take (month - 1)).foldl (· + ·) 0

/-! ### Dates -/

/-- A date of the calendar. -/
structure Date where
  year : Int
  month : Nat
  day : Nat
  deriving DecidableEq, Repr

/-- The first and the last year of the dates in use. -/
def firstYear : Int := 1
def lastYear : Int := 9999

/-- The date exists and its year is in use. -/
def Date.isValid (date : Date) : Bool :=
  firstYear ≤ date.year && date.year ≤ lastYear && 1 ≤ date.day &&
    date.day ≤ monthLength (isLeapYear date.year) date.month

/-- The days from the start of year one to day zero. -/
def epochDay : Int := 719162

theorem daysBeforeYear_epoch : daysBeforeYear 1970 = epochDay := by decide

/-- The number of a day, counted from day zero. -/
def Date.dayNumber (date : Date) : Int :=
  daysBeforeYear date.year + daysBeforeMonth (isLeapYear date.year) date.month + date.day - 1 -
    epochDay

/-- The year that a day lies in, counted from the start of year one. -/
def yearOfDay (day : Int) : Int :=
  let estimate := day * 400 / 146097 + 1
  if day < daysBeforeYear estimate then estimate - 1
  else if daysBeforeYear (estimate + 1) ≤ day then estimate + 1
  else estimate

theorem yearOfDay_bounds (day : Int) :
    daysBeforeYear (yearOfDay day) ≤ day ∧ day < daysBeforeYear (yearOfDay day + 1) := by
  unfold yearOfDay
  simp only
  split
  · rename_i before
    unfold daysBeforeYear at *
    omega
  · split
    · rename_i notBefore after
      unfold daysBeforeYear at *
      omega
    · omega

/-- The month and the day of the month, from the days left in a year. -/
def monthOfDay : List Nat → Nat → Nat → Nat × Nat
  | [], month, day => (month, day + 1)
  | length :: lengths, month, day =>
    if day < length then (month, day + 1) else monthOfDay lengths (month + 1) (day - length)

/-- The date of a day. -/
def Date.ofDayNumber (number : Int) : Date :=
  let day := number + epochDay
  let year := yearOfDay day
  let (month, dayOfMonth) :=
    monthOfDay (monthLengths (isLeapYear year)) 1 (day - daysBeforeYear year).toNat
  ⟨year, month, dayOfMonth⟩

/-! ### Weeks -/

/-- The day of the week, Monday being zero. Day zero was a Thursday. -/
def weekday (dayNumber : Int) : Int := (dayNumber + 3) % 7

/-- The Monday of the first week of a year, which is the week that holds the fourth of January. -/
def firstMonday (year : Int) : Int :=
  let fourth := Date.dayNumber ⟨year, 1, 4⟩
  fourth - weekday fourth

/-- A year has 53 weeks when it starts on a Thursday, or is a leap year that starts on a
Wednesday. -/
def hasLongYear (year : Int) : Bool :=
  let first := weekday (Date.dayNumber ⟨year, 1, 1⟩)
  first = 3 || (first = 2 && isLeapYear year)

/-- The date of a day of a week, counted from Monday as one. -/
def Date.ofWeek? (year : Int) (week day : Nat) : Option Date :=
  if week = 0 || 53 < week || (week = 53 && !hasLongYear year) then none
  else if day = 0 || 7 < day then none
  else
    let date := Date.ofDayNumber (firstMonday year + (week - 1) * 7 + (day - 1))
    if date.isValid then some date else none

end SeriesChart.Calendar
