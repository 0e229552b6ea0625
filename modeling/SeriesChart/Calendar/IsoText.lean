/-
This file reads dates and times in the international format, in both its styles: with
dashes and colons, and without. Dates may count months or weeks. Where the date ends is
decided first, from the length of the text and a few of its characters; one character of
any kind follows; then come the time of day and, after a sign or a Z, the offset.
Positions count the bytes of a text in UTF-8, and reading past its end gives the null
character.
-/

import SeriesChart.Calendar.DateTime
import SeriesChart.Number.Power

namespace SeriesChart.Calendar.IsoText

/-! ### Characters and digits -/

/-- What stands at the bytes of a character after its first one. It is part of no date. -/
def continuation : Char := '\u0080'

/-- The characters of a text, each at the position of its first byte. -/
def placed (text : List Char) : Array Char :=
  (text.flatMap fun character =>
    character :: List.replicate (character.utf8Size - 1) continuation).toArray

/-- The character at a position, or the null character past the end. -/
def charAt (text : Array Char) (position : Nat) : Char := text.getD position '\x00'

/-- The number in the `count` digits at a position. -/
def digitsAt (text : Array Char) : Nat → Nat → Option Nat
  | 0, _ => some 0
  | count + 1, position => do
    let before ← digitsAt text count position
    let last := charAt text (position + count)
    if last.isDigit then some (10 * before + (last.toNat - 48)) else none

/-- The number of digits from a position on, at most `limit`. -/
def countDigits (text : Array Char) : Nat → Nat → Nat
  | 0, _ => 0
  | limit + 1, position =>
    if (charAt text position).isDigit then countDigits text limit (position + 1) + 1 else 0

/-! ### The date -/

/-- Where the date ends. A text of seven characters is a date as a whole. -/
def dateEnd (text : Array Char) : Option Nat :=
  let length := text.size
  if length = 7 then some 7
  else if charAt text 4 = '-' then
    if charAt text 5 = 'W' then
      if length < 8 then none
      else if 8 < length && charAt text 8 = '-' then
        if length = 9 then none
        else if 10 < length && (charAt text 10).isDigit then some 8 else some 10
      else some 8
    else some 10
  else if charAt text 4 = 'W' then
    let digitsEnd := 7 + countDigits text length 7
    if digitsEnd < 9 then some digitsEnd
    else if digitsEnd % 2 = 0 then some 7 else some 8
  else some 8

/-- The date that ends at a position. -/
def dateBefore (text : Array Char) (stop : Nat) : Option Date := do
  let year ← digitsAt text 4 0
  let dashed := charAt text 4 = '-'
  let position := if dashed then 5 else 4
  if charAt text position = 'W' then
    let week ← digitsAt text 2 (position + 1)
    let dayPosition := position + 3
    if dayPosition < stop then
      if dashed then
        if charAt text dayPosition = '-' then
          Date.ofWeek? year week (← digitsAt text 1 (dayPosition + 1))
        else none
      else Date.ofWeek? year week (← digitsAt text 1 dayPosition)
    else Date.ofWeek? year week 1
  else
    let month ← digitsAt text 2 position
    if dashed then
      if charAt text (position + 2) = '-' then
        some ⟨year, month, ← digitsAt text 2 (position + 3)⟩
      else none
    else some ⟨year, month, ← digitsAt text 2 (position + 2)⟩

/-! ### The time of day -/

/-- Hours, minutes, seconds and microseconds, and whether something is left over. -/
structure Clock where
  hours : Nat := 0
  minutes : Nat := 0
  seconds : Nat := 0
  micros : Nat := 0
  leftOver : Bool := false

/-- Sets the field that is read next: hours, then minutes, then seconds. -/
def Clock.set (clock : Clock) (field value : Nat) : Clock :=
  match field with
  | 0 => { clock with hours := value }
  | 1 => { clock with minutes := value }
  | _ => { clock with seconds := value }

/-- The fraction of a second: up to six digits count, further ones are passed over. -/
def fractionAt (text : Array Char) (position stop : Nat) (clock : Clock) : Option Clock := do
  let counted := min 6 (stop - position)
  let digits ← digitsAt text counted position
  let position := position + counted
  let passed := countDigits text (text.size - position) position
  some { clock with
    micros := digits * tenTo (6 - counted)
    leftOver := charAt text (position + passed) ≠ '\x00' }

/-- The fields of a time between two positions, from the given field on. Whether colons part them is
settled after the first; without colons the next field follows at once. -/
def fieldsFrom (text : Array Char) (stop : Nat) (colons : Bool) (clock : Clock) :
    Nat → Nat → Nat → Option Clock
  | 0, _, position => fractionAt text position stop clock
  | remaining + 1, field, position => do
    let clock := clock.set field (← digitsAt text 2 position)
    let next := charAt text (position + 2)
    let position := position + 3
    let colons := if field = 0 then decide (next = ':') else colons
    if stop ≤ position then some { clock with leftOver := next ≠ '\x00' }
    else if colons && next = ':' then
      fieldsFrom text stop colons clock remaining (field + 1) position
    else if next = '.' || next = ',' then fractionAt text position stop clock
    else if colons then none
    else fieldsFrom text stop colons clock remaining (field + 1) (position - 1)

/-- The time of day between two positions. -/
def clockBetween (text : Array Char) (start stop : Nat) : Option Clock :=
  fieldsFrom text stop false {} 3 0 start

/-! ### The offset -/

/-- The first sign or Z from a position on, or the end of the text. -/
def offsetStart (text : Array Char) (start : Nat) : Nat :=
  start + ((text.toList.drop start).takeWhile
    fun character => character ≠ '+' && character ≠ '-' && character ≠ 'Z').length

/-- The offset from its sign on, in microseconds. Without whole seconds it is none at all. A Z ends
what is read: the text must end there, or a null character must follow. -/
def offsetAt (text : Array Char) (position : Nat) : Option Int := do
  if charAt text position = 'Z' then
    if charAt text (position + 1) = '\x00' then some 0 else none
  else
    let clock ← clockBetween text (position + 1) text.size
    if clock.leftOver then none
    else
      let seconds : Int := clock.hours * 3600 + clock.minutes * 60 + clock.seconds
      if seconds = 0 then some 0
      else
        let magnitude := seconds * microsPerSecond + clock.micros
        some (if charAt text position = '-' then -magnitude else magnitude)

/-! ### The whole text -/

/-- The time of day and the offset from a position on. -/
def timeFrom (text : Array Char) (start : Nat) (date : Date) : Option DateTime := do
  let stop := offsetStart text start
  let clock ← clockBetween text start stop
  let time (offset : Option Int) : DateTime :=
    ⟨date, clock.hours, clock.minutes, clock.seconds, clock.micros, offset⟩
  if stop = text.size then
    if clock.leftOver then none else some (time none)
  else some (time (some (← offsetAt text stop)))

/-- The time that a text stands for. -/
def read? (text : List Char) : Option DateTime := do
  let text := placed text
  if text.size < 7 then none
  else
    let stop ← dateEnd text
    let date ← dateBefore text stop
    let start := stop + (charAt text stop).utf8Size
    let time ← if text.size ≤ stop then some (.midnight date) else timeFrom text start date
    if time.isValid then some time else none

end SeriesChart.Calendar.IsoText
