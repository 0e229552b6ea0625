/-
This file shows that the reader of dates and times understands what is written with a year of four
digits. A text is put together from fields of fixed width, so every field stands at a place of its
own; what stands at the places decides what is read there.
-/

import SeriesChart.Calendar.TimeText
import SeriesChart.Proofs.Calendar.DayCount
import SeriesChart.Proofs.Calendar.Padding
import SeriesChart.Proofs.Number.Digits
import SeriesChart.Records.Point

namespace SeriesChart.Calendar

/-! ### Written times -/

/-- The digits of a date, with dashes between them. -/
def dateCharacters (date : Date) : List Char :=
  lastDigits 4 date.year.natAbs ++ '-' :: (lastDigits 2 date.month ++ '-' :: lastDigits 2 date.day)

/-- The digits of a time of day, with colons between them. -/
def clockCharacters (time : DateTime) : List Char :=
  lastDigits 2 time.hour ++ ':' :: (lastDigits 2 time.minute ++ ':' :: lastDigits 2 time.second)

/-- The sign and the digits of an offset of whole minutes. -/
def offsetCharacters (minutes : ℤ) : List Char :=
  (if minutes < 0 then '-' else '+') ::
    (lastDigits 2 (minutes.natAbs / 60) ++ ':' :: lastDigits 2 (minutes.natAbs % 60))

/-- A time in the international format. -/
def isoText (time : DateTime) : String :=
  dateText time.date ++ "T" ++ Moment.padded 2 time.hour ++ ":" ++ Moment.padded 2 time.minute ++
    ":" ++ Moment.padded 2 time.second ++
    (match time.offset with
      | none => ""
      | some offset => offsetText offset)

/-- An offset of whole minutes, in microseconds. -/
def microsOfMinutes (minutes : ℤ) : ℤ := minutes * 60 * microsPerSecond

/-- The fields of a valid time are in their ranges. -/
theorem DateTime.fields_of_valid {time : DateTime} (valid : time.isValid = true) :
    time.date.isValid = true ∧ time.hour < 24 ∧ time.minute < 60 ∧ time.second < 60 := by
  unfold isValid at valid
  simp only [Bool.and_eq_true, decide_eq_true_eq] at valid
  obtain ⟨⟨⟨⟨⟨onDate, hour⟩, minute⟩, second⟩, -⟩, -⟩ := valid
  exact ⟨onDate, hour, minute, second⟩

namespace IsoText

/-! ### What stands where -/

/-- The characters stand one after the other from a position of the text on. -/
def Stands (text : Array Char) : ℕ → List Char → Prop
  | _, [] => True
  | position, character :: rest =>
    charAt text position = character ∧ Stands text (position + 1) rest

theorem stands_append {text : Array Char} {position : ℕ} {first second : List Char} :
    Stands text position (first ++ second) ↔
      Stands text position first ∧ Stands text (position + first.length) second := by
  induction first generalizing position with
  | nil => exact (and_iff_right trivial).symm
  | cons character rest inductionHypothesis =>
    rw [List.cons_append, List.length_cons, Stands, Stands, inductionHypothesis, and_assoc,
      Nat.add_right_comm, Nat.add_assoc]

/-- A text stands in itself. -/
theorem stands_toArray (before text : List Char) :
    Stands (before ++ text).toArray before.length text := by
  induction text generalizing before with
  | nil => trivial
  | cons character rest inductionHypothesis =>
    refine ⟨?_, ?_⟩
    · show ((before ++ character :: rest).toArray).getD before.length '\x00' = character
      simp
    · have rest := inductionHypothesis (before ++ [character])
      rw [List.append_assoc, List.length_append] at rest
      exact rest

/-- Digits that stand somewhere are read there. -/
theorem digitsAt_of_stands {text : Array Char} {position count number : ℕ}
    (small : number < 10 ^ count) (stands : Stands text position (lastDigits count number)) :
    digitsAt text count position = some number := by
  induction count generalizing number with
  | zero => rw [Nat.lt_one_iff.mp small]; rfl
  | succ count inductionHypothesis =>
    have fewer : number / 10 < 10 ^ count := by
      rw [pow_succ] at small
      omega
    rw [lastDigits, stands_append, length_lastDigits] at stands
    obtain ⟨front, last, -⟩ := stands
    have digit : (Nat.digitChar (number % 10)).isDigit = true := by
      rw [Nat.isDigit_digitChar, decide_eq_true_eq]
      exact Nat.mod_lt _ (by decide)
    rw [digitsAt, inductionHypothesis fewer front]
    show (if (charAt text (position + count)).isDigit then _ else none) = _
    rw [last, if_pos digit, toNat_digitChar_mod]
    congr 1
    omega

/-- Where digits stand, there is a digit. -/
theorem isDigit_charAt {text : Array Char} {position count number : ℕ}
    (stands : Stands text position (lastDigits (count + 1) number)) :
    (charAt text position).isDigit = true := by
  cases digits : lastDigits (count + 1) number with
  | nil => exact absurd (congrArg List.length digits) (by simp)
  | cons first rest =>
    rw [digits] at stands
    rw [stands.1]
    exact isDigit_of_mem_lastDigits (digits ▸ List.mem_cons_self)

/-! ### The date -/

theorem stands_date {text : Array Char} {date : Date} :
    Stands text 0 (dateCharacters date) ↔
      Stands text 0 (lastDigits 4 date.year.natAbs) ∧ charAt text 4 = '-' ∧
        Stands text 5 (lastDigits 2 date.month) ∧ charAt text 7 = '-' ∧
          Stands text 8 (lastDigits 2 date.day) := by
  unfold dateCharacters
  rw [stands_append, Stands, stands_append, Stands, length_lastDigits, length_lastDigits]

/-- The fields of a valid date fit their places. -/
theorem fields_of_valid {date : Date} (valid : date.isValid = true) :
    (date.year.natAbs : ℤ) = date.year ∧ date.year.natAbs < 10 ^ 4 ∧ date.month < 10 ^ 2 ∧
      date.day < 10 ^ 2 := by
  obtain ⟨known, first, last⟩ := date.isValid_iff.mp valid
  have months := known.month_bounds
  have days := known.day_le
  unfold firstYear at first
  unfold lastYear at last
  omega

section Date

variable {text : Array Char} {date : Date} (stands : Stands text 0 (dateCharacters date))

include stands

theorem charAt_month : charAt text 5 ≠ 'W' := by
  intro week
  have digit := isDigit_charAt (stands_date.mp stands).2.2.1
  rw [week] at digit
  cases digit

theorem dateEnd_of_stands (notSeven : text.size ≠ 7) : dateEnd text = some 10 := by
  unfold dateEnd
  rw [if_neg notSeven, if_pos (stands_date.mp stands).2.1, if_neg (charAt_month stands)]

/-- The fields of a date are read from the places where they stand. -/
theorem dateBefore_of_stands (valid : date.isValid = true) (stop : ℕ) :
    dateBefore text stop = some date := by
  obtain ⟨yearStands, dash, monthStands, otherDash, dayStands⟩ := stands_date.mp stands
  obtain ⟨whole, fewYears, fewMonths, fewDays⟩ := fields_of_valid valid
  unfold dateBefore
  rw [digitsAt_of_stands fewYears yearStands]
  simp only [Option.bind_eq_bind, Option.bind_some, dash, charAt_month stands, otherDash, if_true,
    if_false, digitsAt_of_stands fewMonths monthStands, digitsAt_of_stands fewDays dayStands, whole]

end Date

/-! ### The time of day -/

theorem stands_clock {text : Array Char} {position : ℕ} {time : DateTime} :
    Stands text position (clockCharacters time) ↔
      Stands text position (lastDigits 2 time.hour) ∧ charAt text (position + 2) = ':' ∧
        Stands text (position + 3) (lastDigits 2 time.minute) ∧
          charAt text (position + 5) = ':' ∧
            Stands text (position + 6) (lastDigits 2 time.second) := by
  unfold clockCharacters
  rw [stands_append, Stands, stands_append, Stands, length_lastDigits, length_lastDigits]

section Fields

variable {text : Array Char} {stop field position value : ℕ} {clock : Clock}
  (read : digitsAt text 2 position = some value)

include read

/-- A colon leads from one field to the next. -/
theorem fieldsFrom_colon {colons : Bool} (usesColons : field = 0 ∨ colons = true)
    (mark : charAt text (position + 2) = ':') (inside : position + 3 < stop) (remaining : ℕ) :
    fieldsFrom text stop colons clock (remaining + 1) field position =
      fieldsFrom text stop true (clock.set field value) remaining (field + 1) (position + 3) := by
  have settled : (if field = 0 then true else colons) = true := by
    split
    · rfl
    · exact usesColons.resolve_left ‹_›
  rw [fieldsFrom, read]
  simp only [Option.bind_eq_bind, Option.bind_some, mark, settled, not_le.mpr inside, if_false,
    decide_true, Bool.and_self, if_true]

/-- The last field ends where the time does. -/
theorem fieldsFrom_last {colons : Bool} (ends : stop ≤ position + 3) (remaining : ℕ) :
    fieldsFrom text stop colons clock (remaining + 1) field position =
      some { clock.set field value with
        leftOver := decide (charAt text (position + 2) ≠ '\x00') } := by
  rw [fieldsFrom, read]
  simp only [Option.bind_eq_bind, Option.bind_some, ends, if_true]

end Fields

/-- The hour, the minute and the second are read from the places where they stand. -/
theorem clockBetween_of_stands {text : Array Char} {position : ℕ} {time : DateTime}
    (valid : time.isValid = true) (stands : Stands text position (clockCharacters time)) :
    clockBetween text position (position + 8) = some
      ⟨time.hour, time.minute, time.second, 0, decide (charAt text (position + 8) ≠ '\x00')⟩ := by
  obtain ⟨hour, colon, minute, otherColon, second⟩ := stands_clock.mp stands
  have fields := DateTime.fields_of_valid valid
  unfold clockBetween
  rw [fieldsFrom_colon (digitsAt_of_stands (by omega) hour) (Or.inl rfl) colon (by omega),
    fieldsFrom_colon (digitsAt_of_stands (by omega) minute) (Or.inr rfl) otherColon (by omega),
    fieldsFrom_last (digitsAt_of_stands (by omega) second) (by omega)]
  rfl

/-! ### The offset -/

theorem stands_offset {text : Array Char} {position : ℕ} {minutes : ℤ} :
    Stands text position (offsetCharacters minutes) ↔
      charAt text position = (if minutes < 0 then '-' else '+') ∧
        Stands text (position + 1) (lastDigits 2 (minutes.natAbs / 60)) ∧
          charAt text (position + 3) = ':' ∧
            Stands text (position + 4) (lastDigits 2 (minutes.natAbs % 60)) := by
  unfold offsetCharacters
  rw [Stands, stands_append, Stands, length_lastDigits]

/-- Past the end of a text there are null characters. -/
theorem charAt_of_size_le {text : Array Char} {position : ℕ} (behind : text.size ≤ position) :
    charAt text position = '\x00' := by
  unfold charAt
  rw [Array.getD_eq_getD_getElem?, Array.getElem?_eq_none behind, Option.getD_none]

/-- An offset at the end of a text is read with its sign. -/
theorem offsetAt_of_stands {text : Array Char} {position : ℕ} {minutes : ℤ}
    (short : minutes.natAbs < 1440) (stands : Stands text position (offsetCharacters minutes))
    (ends : text.size = position + 6) : offsetAt text position = some (microsOfMinutes minutes) := by
  obtain ⟨sign, hours, colon, rest⟩ := stands_offset.mp stands
  have notZulu : charAt text position ≠ 'Z' := by
    rw [sign]
    split <;> decide
  have none : charAt text (position + 6) = '\x00' := charAt_of_size_le ends.le
  have clock : clockBetween text (position + 1) text.size = some
      ⟨minutes.natAbs / 60, minutes.natAbs % 60, 0, 0, false⟩ := by
    unfold clockBetween
    rw [ends, fieldsFrom_colon (digitsAt_of_stands (by omega) hours) (Or.inl rfl) colon (by omega),
      fieldsFrom_last (digitsAt_of_stands (by omega) rest) (by omega)]
    show some (Clock.mk _ _ 0 0 (decide (charAt text (position + 6) ≠ '\x00'))) = _
    rw [none]
    rfl
  unfold offsetAt
  rw [if_neg notZulu, clock]
  simp only [Option.bind_eq_bind, Option.bind_some, Bool.false_eq_true, if_false, sign]
  unfold microsOfMinutes microsPerSecond
  split
  · congr 1
    omega
  · congr 1
    by_cases west : minutes < 0
    · rw [if_pos west, if_pos rfl]
      omega
    · rw [if_neg west, if_neg (by decide)]
      omega

/-! ### Whole texts -/

/-- The character is one of those that dates and times are written with. -/
def IsWritten (character : Char) : Prop :=
  character.isDigit = true ∨ character ∈ ['-', ':', 'T', '+']

theorem isWritten_of_mem_lastDigits {count number : ℕ} {character : Char}
    (known : character ∈ lastDigits count number) : IsWritten character :=
  Or.inl (isDigit_of_mem_lastDigits known)

/-- The digits of a year, however many there are, and those of a month and a day. -/
theorem isWritten_of_mem_dashed {year : List Char}
    (digits : ∀ character ∈ year, character.isDigit = true) {month day : ℕ} {character : Char}
    (known : character ∈ year ++ '-' :: (lastDigits 2 month ++ '-' :: lastDigits 2 day)) :
    IsWritten character := by
  simp only [List.mem_append, List.mem_cons] at known
  rcases known with digit | rfl | digit | rfl | digit
  · exact Or.inl (digits character digit)
  · exact Or.inr (by decide)
  · exact isWritten_of_mem_lastDigits digit
  · exact Or.inr (by decide)
  · exact isWritten_of_mem_lastDigits digit

theorem isWritten_of_mem_date {date : Date} {character : Char}
    (known : character ∈ dateCharacters date) : IsWritten character :=
  isWritten_of_mem_dashed (fun _ => isDigit_of_mem_lastDigits) known

/-- A time of day has digits and colons only. -/
theorem mem_clock {time : DateTime} {character : Char}
    (known : character ∈ clockCharacters time) : character.isDigit = true ∨ character = ':' := by
  unfold clockCharacters at known
  simp only [List.mem_append, List.mem_cons] at known
  rcases known with digit | colon | digit | colon | digit
  · exact Or.inl (isDigit_of_mem_lastDigits digit)
  · exact Or.inr colon
  · exact Or.inl (isDigit_of_mem_lastDigits digit)
  · exact Or.inr colon
  · exact Or.inl (isDigit_of_mem_lastDigits digit)

theorem isWritten_of_mem_offset {minutes : ℤ} {character : Char}
    (known : character ∈ offsetCharacters minutes) : IsWritten character := by
  unfold offsetCharacters at known
  simp only [List.mem_append, List.mem_cons] at known
  rcases known with rfl | digit | rfl | digit
  · refine Or.inr ?_
    split <;> decide
  · exact isWritten_of_mem_lastDigits digit
  · exact Or.inr (by decide)
  · exact isWritten_of_mem_lastDigits digit

/-- Such characters take one byte each. -/
theorem IsWritten.utf8Size_eq {character : Char} (written : IsWritten character) :
    character.utf8Size = 1 := by
  rw [Char.utf8Size_eq_one_iff]
  obtain digit | mark := written
  · have last := (Char.isDigit_iff_toNat.mp digit).2
    exact last.trans (by decide)
  · fin_cases mark <;> decide

theorem placed_eq {text : List Char} (written : ∀ character ∈ text, IsWritten character) :
    placed text = text.toArray := by
  unfold placed
  congr 1
  induction text with
  | nil => rfl
  | cons character rest inductionHypothesis =>
    have size := (written character List.mem_cons_self).utf8Size_eq
    rw [List.flatMap_cons, size, inductionHypothesis fun other known =>
      written other (List.mem_cons_of_mem _ known)]
    rfl

@[simp] theorem length_dateCharacters (date : Date) : (dateCharacters date).length = 10 := by
  simp [dateCharacters]

@[simp] theorem length_clockCharacters (time : DateTime) : (clockCharacters time).length = 8 := by
  simp [clockCharacters]

@[simp] theorem length_offsetCharacters (minutes : ℤ) : (offsetCharacters minutes).length = 6 := by
  simp [offsetCharacters]

theorem isValid_midnight {date : Date} (valid : date.isValid = true) :
    (DateTime.midnight date).isValid = true := by
  unfold DateTime.isValid DateTime.midnight
  rw [valid]
  rfl

/-- The date alone is midnight. -/
theorem read?_date {date : Date} (valid : date.isValid = true) :
    read? (dateCharacters date) = some (.midnight date) := by
  have stands : Stands (dateCharacters date).toArray 0 (dateCharacters date) :=
    stands_toArray [] _
  have size : (dateCharacters date).toArray.size = 10 := by simp
  unfold read?
  rw [placed_eq fun _ => isWritten_of_mem_date]
  dsimp only
  rw [size, if_neg (by decide), dateEnd_of_stands stands (by rw [size]; decide)]
  simp only [Option.bind_eq_bind, Option.bind_some, dateBefore_of_stands stands valid, le_refl,
    if_true, isValid_midnight valid]

/-- A date and a time of day with a T between them, and what follows. -/
def timeCharacters (time : DateTime) (tail : List Char) : List Char :=
  dateCharacters time.date ++ 'T' :: (clockCharacters time ++ tail)

theorem isWritten_of_mem_time {time : DateTime} {tail : List Char}
    (written : ∀ character ∈ tail, IsWritten character) {character : Char}
    (known : character ∈ timeCharacters time tail) : IsWritten character := by
  unfold timeCharacters at known
  simp only [List.mem_append, List.mem_cons] at known
  rcases known with known | rfl | known | known
  · exact isWritten_of_mem_date known
  · exact Or.inr (by decide)
  · obtain digit | rfl := mem_clock known
    · exact Or.inl digit
    · exact Or.inr (by decide)
  · exact written character known

theorem stands_time (time : DateTime) (tail : List Char) :
    Stands (timeCharacters time tail).toArray 0 (dateCharacters time.date) ∧
      charAt (timeCharacters time tail).toArray 10 = 'T' ∧
        Stands (timeCharacters time tail).toArray 11 (clockCharacters time) ∧
          Stands (timeCharacters time tail).toArray 19 tail := by
  have stands : Stands (timeCharacters time tail).toArray 0 (timeCharacters time tail) :=
    stands_toArray [] _
  obtain ⟨date, mark, rest⟩ := stands_append.mp stands
  obtain ⟨clock, rest⟩ := stands_append.mp rest
  rw [length_dateCharacters] at mark clock rest
  rw [length_clockCharacters] at rest
  exact ⟨date, mark, clock, rest⟩

theorem size_time (time : DateTime) (tail : List Char) :
    (timeCharacters time tail).toArray.size = 19 + tail.length := by
  unfold timeCharacters
  simp only [List.size_toArray, List.length_append, List.length_cons, length_dateCharacters,
    length_clockCharacters]
  omega

/-- Behind the date the offset starts where the time of day ends. -/
theorem offsetStart_time (time : DateTime) {tail : List Char}
    (ends : tail.takeWhile (fun character =>
      character ≠ '+' && character ≠ '-' && character ≠ 'Z') = []) :
    offsetStart (timeCharacters time tail).toArray 11 = 19 := by
  have behind : (timeCharacters time tail).drop 11 = clockCharacters time ++ tail := by
    have front : dateCharacters time.date ++ ['T'] ++ (clockCharacters time ++ tail) =
        timeCharacters time tail := List.append_assoc _ _ _
    rw [← front, List.drop_left' (by simp)]
  have passes : ∀ character ∈ clockCharacters time,
      (character ≠ '+' && character ≠ '-' && character ≠ 'Z') = true := by
    intro character known
    obtain digit | rfl := mem_clock known
    · have other {mark : Char} (noDigit : mark.isDigit = false) : character ≠ mark := by
        rintro rfl
        rw [noDigit] at digit
        cases digit
      simp [other]
    · decide
  unfold offsetStart
  rw [List.toList_toArray, behind, List.takeWhile_append_of_pos passes, ends, List.append_nil,
    length_clockCharacters]

section Times

variable {time : DateTime} (valid : time.isValid = true)

include valid

theorem isValid_date : time.date.isValid = true := (DateTime.fields_of_valid valid).1

/-- A text is read as the time that is read behind its date. -/
theorem read?_of_timeFrom {tail : List Char} (written : ∀ character ∈ tail, IsWritten character)
    (read : timeFrom (timeCharacters time tail).toArray 11 time.date = some time) :
    read? (timeCharacters time tail) = some time := by
  obtain ⟨date, mark, -⟩ := stands_time time tail
  have size := size_time time tail
  have start : 10 + (charAt (timeCharacters time tail).toArray 10).utf8Size = 11 := by
    rw [mark]
    rfl
  unfold read?
  rw [placed_eq fun _ => isWritten_of_mem_time written]
  dsimp only
  rw [if_neg (by omega), dateEnd_of_stands date (by omega)]
  simp only [Option.bind_eq_bind, Option.bind_some,
    dateBefore_of_stands date (isValid_date valid), start, read]
  rw [if_neg (by omega)]
  simp only [valid, if_true]

variable (whole : time.microsecond = 0)

include whole

theorem timeFrom_naive (naive : time.offset = none) :
    timeFrom (timeCharacters time []).toArray 11 time.date = some time := by
  obtain ⟨-, -, clock, -⟩ := stands_time time []
  have size : (timeCharacters time []).toArray.size = 19 := size_time time []
  have read : clockBetween (timeCharacters time []).toArray 11 19 = some
      ⟨time.hour, time.minute, time.second, 0, false⟩ := by
    rw [clockBetween_of_stands valid clock, charAt_of_size_le size.le]
    rfl
  have same : DateTime.mk time.date time.hour time.minute time.second 0 none = time := by
    rw [← whole, ← naive]
  unfold timeFrom
  rw [offsetStart_time time rfl]
  dsimp only
  rw [read, size]
  exact congrArg some same

theorem timeFrom_offset {minutes : ℤ} (short : minutes.natAbs < 1440)
    (told : time.offset = some (microsOfMinutes minutes)) :
    timeFrom (timeCharacters time (offsetCharacters minutes)).toArray 11 time.date =
      some time := by
  obtain ⟨-, -, clock, offset⟩ := stands_time time (offsetCharacters minutes)
  have size := size_time time (offsetCharacters minutes)
  rw [length_offsetCharacters] at size
  have ends : (offsetCharacters minutes).takeWhile (fun character =>
      character ≠ '+' && character ≠ '-' && character ≠ 'Z') = [] := by
    unfold offsetCharacters
    rw [List.takeWhile_cons_of_neg]
    split <;> decide
  have read := clockBetween_of_stands valid clock
  have same : DateTime.mk time.date time.hour time.minute time.second 0
      (some (microsOfMinutes minutes)) = time := by
    rw [← whole, ← told]
  unfold timeFrom
  rw [offsetStart_time time ends]
  dsimp only
  rw [show clockBetween _ 11 19 = _ from read, size]
  simp only [Option.bind_eq_bind, Option.bind_some, offsetAt_of_stands short offset size, same]
  exact if_neg (by decide)

end Times

end IsoText

/-! ### Texts as characters -/

theorem toList_dateText {date : Date} (valid : date.isValid = true) :
    (dateText date).toList = dateCharacters date := by
  obtain ⟨-, fewYears, fewMonths, fewDays⟩ := IsoText.fields_of_valid valid
  unfold dateText dateCharacters
  simp only [String.toList_append, toList_padded (by decide) fewYears,
    toList_padded (by decide) fewMonths, toList_padded (by decide) fewDays, List.append_assoc]
  rfl

theorem toList_offsetText {minutes : ℤ} (short : minutes.natAbs < 1440) :
    (offsetText (microsOfMinutes minutes)).toList = offsetCharacters minutes := by
  have west : microsOfMinutes minutes < 0 ↔ minutes < 0 := by
    unfold microsOfMinutes microsPerSecond
    omega
  have magnitude : (microsOfMinutes minutes).natAbs = minutes.natAbs * 60 * 1000000 := by
    unfold microsOfMinutes microsPerSecond
    omega
  have seconds : minutes.natAbs * 60 * 1000000 / 1000000 = minutes.natAbs * 60 := by omega
  have noMicros : minutes.natAbs * 60 * 1000000 % 1000000 = 0 := by omega
  have noSeconds : minutes.natAbs * 60 % 60 = 0 := by omega
  have hours : minutes.natAbs * 60 / 3600 = minutes.natAbs / 60 := by omega
  have rest : minutes.natAbs * 60 / 60 % 60 = minutes.natAbs % 60 := by omega
  unfold offsetText offsetCharacters
  simp only [west, magnitude, seconds, noMicros, noSeconds, hours, rest, and_self, if_true,
    String.toList_append, toList_padded (by decide) (by omega : minutes.natAbs / 60 < 10 ^ 2),
    toList_padded (by decide) (by omega : minutes.natAbs % 60 < 10 ^ 2)]
  split <;> rfl

section Times

variable {time : DateTime} (valid : time.isValid = true)

include valid

theorem toList_isoText : (isoText time).toList = IsoText.timeCharacters time
    (match time.offset with
      | none => ""
      | some offset => offsetText offset).toList := by
  obtain ⟨onDate, hour, minute, second⟩ := DateTime.fields_of_valid valid
  unfold isoText IsoText.timeCharacters clockCharacters
  simp only [String.toList_append, toList_dateText onDate,
    toList_padded (by decide) (by omega : time.hour < 10 ^ 2),
    toList_padded (by decide) (by omega : time.minute < 10 ^ 2),
    toList_padded (by decide) (by omega : time.second < 10 ^ 2), List.append_assoc]
  rfl

theorem toList_isoText_naive (naive : time.offset = none) :
    (isoText time).toList = IsoText.timeCharacters time [] := by
  rw [toList_isoText valid, naive]
  rfl

theorem toList_isoText_offset {minutes : ℤ} (short : minutes.natAbs < 1440)
    (told : time.offset = some (microsOfMinutes minutes)) :
    (isoText time).toList = IsoText.timeCharacters time (offsetCharacters minutes) := by
  rw [toList_isoText valid, told, ← toList_offsetText short]

end Times

/-! ### Texts of records -/

/-- Such characters are no blanks. -/
theorem IsoText.IsWritten.not_blank {character : Char} (written : IsoText.IsWritten character) :
    Text.isBlank character = false := by
  obtain digit | mark := written
  · obtain ⟨first, last⟩ := Numeral.bounds_of_isDigit digit
    have noSpace : character ≠ ' ' := by
      rintro rfl
      exact absurd first (by decide)
    unfold Text.isBlank Text.isAsciiBlank
    simp only [noSpace, decide_false, Bool.false_or, Bool.or_eq_false_iff, Bool.and_eq_false_iff,
      decide_eq_false_iff_not]
    omega
  · fin_cases mark <;> decide

theorem stripBoth_eq_self {characters : List Char}
    (solid : ∀ character ∈ characters, Text.isBlank character = false) :
    Text.stripBoth Text.isBlank characters = characters := by
  have stays {others : List Char} (solid : ∀ character ∈ others, Text.isBlank character = false) :
      others.dropWhile Text.isBlank = others := by
    refine List.dropWhile_eq_self_iff.mpr fun some blank => ?_
    rw [solid _ (List.getElem_mem some)] at blank
    cases blank
  unfold Text.stripBoth
  rw [stays solid, stays fun character known => solid character (List.mem_reverse.mp known),
    List.reverse_reverse]

section Texts

variable {text : String} {characters : List Char} (isText : text.toList = characters)
  (written : ∀ character ∈ characters, IsoText.IsWritten character)

include isText written

/-- What is written with these characters is read as it stands. -/
theorem timeOfText?_of_written : timeOfText? text = IsoText.read? characters := by
  have noZulu : ¬characters.getLast? = some 'Z' := fun last =>
    absurd (written 'Z' (List.mem_of_getLast? last)) (by unfold IsoText.IsWritten; decide)
  unfold timeOfText?
  rw [isText, stripBoth_eq_self fun character known => (written character known).not_blank]
  exact congrArg IsoText.read? (if_neg noZulu)

/-- A Z at the end becomes an offset of nothing. -/
theorem timeOfText?_of_zulu :
    timeOfText? (text ++ "Z") = IsoText.read? (characters ++ offsetCharacters 0) := by
  have whole : (text ++ "Z").toList = characters ++ ['Z'] := by
    rw [String.toList_append, isText]
    rfl
  have solid : ∀ character ∈ characters ++ ['Z'], Text.isBlank character = false := by
    intro character known
    obtain early | last := List.mem_append.mp known
    · exact (written character early).not_blank
    · rw [List.mem_singleton.mp last]
      decide
  unfold timeOfText?
  rw [whole, stripBoth_eq_self solid]
  dsimp only
  rw [List.getLast?_concat, List.dropLast_concat, if_pos rfl]
  rfl

end Texts

theorem timeOfText?_dateText {date : Date} (valid : date.isValid = true) :
    timeOfText? (dateText date) = some (.midnight date) := by
  rw [timeOfText?_of_written (toList_dateText valid) fun _ => IsoText.isWritten_of_mem_date,
    IsoText.read?_date valid]

section Times

variable {time : DateTime} (valid : time.isValid = true) (whole : time.microsecond = 0)

include valid whole

/-- The text of a time without an offset is read as the time. -/
theorem timeOfText?_naive (naive : time.offset = none) :
    timeOfText? (isoText time) = some time := by
  rw [timeOfText?_of_written (toList_isoText_naive valid naive) fun _ =>
      IsoText.isWritten_of_mem_time fun _ none => absurd none List.not_mem_nil,
    IsoText.read?_of_timeFrom valid (fun _ none => absurd none List.not_mem_nil)
      (IsoText.timeFrom_naive valid whole naive)]

/-- The text of a time with an offset of whole minutes is read as the time. -/
theorem timeOfText?_offset {minutes : ℤ} (short : minutes.natAbs < 1440)
    (told : time.offset = some (microsOfMinutes minutes)) :
    timeOfText? (isoText time) = some time := by
  rw [timeOfText?_of_written (toList_isoText_offset valid short told) fun _ =>
      IsoText.isWritten_of_mem_time fun _ => IsoText.isWritten_of_mem_offset,
    IsoText.read?_of_timeFrom valid (fun _ => IsoText.isWritten_of_mem_offset)
      (IsoText.timeFrom_offset valid whole short told)]

/-- With a Z behind it the text of a time is read as universal time. -/
theorem timeOfText?_zulu (naive : time.offset = none) :
    timeOfText? (isoText time ++ "Z") = some { time with offset := some 0 } := by
  have universal : ({ time with offset := some 0 } : DateTime).isValid = true := by
    unfold DateTime.isValid at valid ⊢
    rw [naive] at valid
    exact valid
  have same : IsoText.timeCharacters time [] ++ offsetCharacters 0 =
      IsoText.timeCharacters { time with offset := some 0 } (offsetCharacters 0) := by
    unfold IsoText.timeCharacters
    rw [List.append_nil, List.append_assoc]
    rfl
  rw [timeOfText?_of_zulu (toList_isoText_naive valid naive) fun _ =>
      IsoText.isWritten_of_mem_time fun _ none => absurd none List.not_mem_nil, same,
    IsoText.read?_of_timeFrom universal (fun _ => IsoText.isWritten_of_mem_offset)
      (IsoText.timeFrom_offset universal whole (by decide) (by rfl))]

end Times

/-! ### The long form -/

namespace LongForm

theorem twoDigits?_lastDigits {number : ℕ} (small : number < 10 ^ 2) (rest : List Char) :
    twoDigits? (lastDigits 2 number ++ rest) = some (number, rest) := by
  have digits : lastDigits 2 number =
      [Nat.digitChar (number / 10 % 10), Nat.digitChar (number % 10)] := rfl
  have areDigits : ∀ character ∈ lastDigits 2 number, character.isDigit = true :=
    fun _ => isDigit_of_mem_lastDigits
  have value := valueOfDigits_lastDigits small
  rw [digits] at value areDigits ⊢
  rw [List.forall_mem_cons, List.forall_mem_singleton] at areDigits
  show (if (_ && _) = true then _ else none) = _
  rw [areDigits.1, areDigits.2, value]
  rfl

/-- The digits of a year end at a dash. -/
theorem year_lastDigits {count number : ℕ} (small : number < 10 ^ (count + 1))
    (rest : List Char) :
    year (lastDigits (count + 1) number ++ '-' :: rest) = ((number : ℤ), '-' :: rest) := by
  have digits : ∀ character ∈ lastDigits (count + 1) number, character.isDigit = true :=
    fun _ => isDigit_of_mem_lastDigits
  have taken : (lastDigits (count + 1) number ++ '-' :: rest).takeWhile Char.isDigit =
      lastDigits (count + 1) number := by
    rw [List.takeWhile_append_of_pos digits, List.takeWhile_cons_of_neg (by decide),
      List.append_nil]
  have left : (lastDigits (count + 1) number ++ '-' :: rest).dropWhile Char.isDigit =
      '-' :: rest := by
    rw [List.dropWhile_append_of_pos digits, List.dropWhile_cons_of_neg (by decide)]
  unfold year
  split
  · rename_i other equal
    have first : '-' ∈ lastDigits (count + 1) number := by
      cases front : lastDigits (count + 1) number with
      | nil => exact absurd (congrArg List.length front) (by simp)
      | cons character others =>
        rw [front, List.cons_append, List.cons.injEq] at equal
        rw [equal.1]
        exact List.mem_cons_self
    exact absurd (digits '-' first) (by decide)
  · dsimp only
    rw [taken, left, valueOfDigits_lastDigits small]

theorem date?_dateCharacters {date : Date} (valid : date.isValid = true) (rest : List Char) :
    date? (dateCharacters date ++ rest) = some (date, rest) := by
  obtain ⟨whole, fewYears, fewMonths, fewDays⟩ := IsoText.fields_of_valid valid
  obtain ⟨known, -⟩ := date.isValid_iff.mp valid
  have spelled : dateCharacters date ++ rest = lastDigits 4 date.year.natAbs ++
      '-' :: (lastDigits 2 date.month ++ '-' :: (lastDigits 2 date.day ++ rest)) := by
    unfold dateCharacters
    simp only [List.append_assoc, List.cons_append]
  unfold date?
  rw [spelled, year_lastDigits fewYears]
  simp only [Option.bind_eq_bind, Option.bind_some, field?_mark,
    twoDigits?_lastDigits fewMonths, twoDigits?_lastDigits fewDays, whole]
  exact if_pos known

theorem clock?_clockCharacters {time : DateTime} (valid : time.isValid = true) :
    clock? ('T' :: clockCharacters time) =
      some (time.secondOfDay * nanosPerSecond.toNat, []) := by
  obtain ⟨-, hour, minute, second⟩ := DateTime.fields_of_valid valid
  have sum : (time.hour * 60 + time.minute) * 60 + time.second = time.secondOfDay := by
    unfold DateTime.secondOfDay
    ring
  have inRange : ¬(24 ≤ time.hour ∨ 60 ≤ time.minute ∨ 60 ≤ time.second) := by omega
  have seconds := twoDigits?_lastDigits (by omega : time.second < 10 ^ 2) []
  rw [List.append_nil] at seconds
  unfold clock? clockCharacters
  simp only [Option.bind_eq_bind, Option.bind_some, field?_mark, ne_eq, not_true_eq_false,
    false_and, if_false, twoDigits?_lastDigits (by omega : time.hour < 10 ^ 2),
    twoDigits?_lastDigits (by omega : time.minute < 10 ^ 2), seconds, inRange, fraction]
  rw [Nat.add_zero, sum]

/-- The long form of a time without an offset. -/
theorem read?_time {time : DateTime} (valid : time.isValid = true) :
    read? (IsoText.timeCharacters time []) =
      some ⟨time.date, time.secondOfDay * nanosPerSecond.toNat, none⟩ := by
  unfold read? IsoText.timeCharacters
  rw [List.append_nil, date?_dateCharacters (IsoText.isValid_date valid)]
  show (clock? ('T' :: clockCharacters time) >>= _) = _
  rw [clock?_clockCharacters valid]
  rfl

end LongForm

end SeriesChart.Calendar
