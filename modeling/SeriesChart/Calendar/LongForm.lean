/-
This file reads dates and times in the long form of the international format: a year of
any number of digits, with a sign before year zero, and then fields of two digits behind
the marks that announce them. The fields may end anywhere after the year; what is left out
has its first value. After the time of day an offset from universal time may follow. Each
reader returns what it has read together with the rest of the text.
-/

import SeriesChart.Calendar.DateTime
import SeriesChart.Number.Numeral

namespace SeriesChart.Calendar

def nanosPerSecond : Int := 1000000000
def nanosPerDay : Int := secondsPerDay * nanosPerSecond

/-- A date, the nanoseconds since its midnight, and the minutes that the place lies east of
universal time, if they are told. -/
structure LongForm where
  date : Date
  nanos : Nat
  offset : Option Int
  deriving DecidableEq, Repr

namespace LongForm

/-! ### Fields -/

/-- The number of two digits that a text starts with. -/
def twoDigits? : List Char → Option (Nat × List Char)
  | tens :: units :: rest =>
    if tens.isDigit && units.isDigit then some (Numeral.valueOfDigits [tens, units], rest)
    else none
  | _ => none

/-- The number of two digits behind a mark. Without the mark nothing is read. -/
def field? (mark : Char) (leftOut : Nat) : List Char → Option (Nat × List Char)
  | first :: rest => if first = mark then twoDigits? rest else some (leftOut, first :: rest)
  | [] => some (leftOut, [])

theorem field?_mark (mark : Char) (leftOut : Nat) (rest : List Char) :
    field? mark leftOut (mark :: rest) = twoDigits? rest := by
  simp [field?]

/-! ### The date -/

/-- A year: digits, behind a minus if it lies before year zero. -/
def year (text : List Char) : Int × List Char :=
  let digits (text : List Char) : Int := Numeral.valueOfDigits (text.takeWhile Char.isDigit)
  match text with
  | '-' :: rest => (-digits rest, rest.dropWhile Char.isDigit)
  | text => (digits text, text.dropWhile Char.isDigit)

/-- A date that exists, in any year. -/
def date? (text : List Char) : Option (Date × List Char) := do
  let (year, rest) := year text
  let (month, rest) ← field? '-' 1 rest
  let (day, rest) ← field? '-' 1 rest
  if 1 ≤ day ∧ day ≤ monthLength (isLeapYear year) month then some (⟨year, month, day⟩, rest)
  else none

/-! ### The time of day -/

/-- The nanoseconds of the fraction of a second: nine places count. -/
def fraction : List Char → Nat × List Char
  | '.' :: rest =>
    let counted := (rest.takeWhile Char.isDigit).take 9
    (Numeral.valueOfDigits counted * tenTo (9 - counted.length), rest.dropWhile Char.isDigit)
  | text => (0, text)

/-- The nanoseconds since midnight, behind a T or a blank. -/
def clock? : List Char → Option (Nat × List Char)
  | [] => some (0, [])
  | mark :: rest => do
    if mark ≠ 'T' ∧ mark ≠ ' ' then none
    let (hours, rest) ← twoDigits? rest
    let (minutes, rest) ← field? ':' 0 rest
    let (seconds, rest) ← field? ':' 0 rest
    if 24 ≤ hours ∨ 60 ≤ minutes ∨ 60 ≤ seconds then none
    let (nanos, rest) := fraction rest
    some (((hours * 60 + minutes) * 60 + seconds) * nanosPerSecond.toNat + nanos, rest)

/-! ### The offset -/

/-- The offset that a text ends with: none at all, a Z, or a sign with hours and minutes. -/
def offset? : List Char → Option (Option Int)
  | [] => some none
  | ['Z'] => some (some 0)
  | sign :: rest => do
    if sign ≠ '+' ∧ sign ≠ '-' then none
    let (hours, rest) ← twoDigits? rest
    let (minutes, rest) ← match rest with
      | [] => some (0, [])
      | ':' :: rest => twoDigits? rest
      | rest => twoDigits? rest
    if rest ≠ [] ∨ 24 ≤ hours ∨ 60 ≤ minutes then none
    let magnitude : Int := hours * 60 + minutes
    some (some (if sign = '-' then -magnitude else magnitude))

/-! ### The whole text -/

/-- What a text says. -/
def read? (text : List Char) : Option LongForm := do
  let (date, rest) ← date? text
  let (nanos, rest) ← clock? rest
  some ⟨date, nanos, ← offset? rest⟩

/-- The instant of what was read, in nanoseconds since the start of 1970. -/
def instant (form : LongForm) : Int :=
  form.date.dayNumber * nanosPerDay + form.nanos -
    form.offset.getD 0 * 60 * nanosPerSecond

end LongForm

end SeriesChart.Calendar
