/-
This file tells which labels of dates can be read back. The year of a label is not filled up with
zeros. From the year 1000 on it has four digits all the same: the label is the date in the
international format, it is read as the start of its day, and labels are ordered as their days are.
A label of an earlier year is too short to be read at all.
-/

import SeriesChart.Proofs.Calendar.Instants

namespace SeriesChart

open Calendar

/-! ### Years as texts -/

/-- A year of the dates in use is written as its digits. -/
theorem toList_year {date : Date} (valid : date.isValid = true) :
    (toString date.year).toList = Nat.toDigits 10 date.year.natAbs := by
  have whole := (IsoText.fields_of_valid valid).1
  rw [← whole]
  exact Nat.toList_repr

theorem toDigits_of_modern {year : ℕ} (modern : 1000 ≤ year) (small : year < 10 ^ 4) :
    Nat.toDigits 10 year = lastDigits 4 year := by
  have atMost : (Nat.toDigits 10 year).length ≤ 4 :=
    (Nat.length_toDigits_le_iff (by decide) (by decide)).mpr small
  have more : ¬(Nat.toDigits 10 year).length ≤ 3 := fun few =>
    absurd ((Nat.length_toDigits_le_iff (by decide) (by decide)).mp few) (by omega)
  have full : 3 + 1 - (Nat.toDigits 10 year).length = 0 := by omega
  have padded := replicate_append_toDigits 3 small
  rw [full] at padded
  exact padded

section Labels

variable {date : Date} (valid : date.isValid = true)

include valid

theorem toList_longDateText : (longDateText date).toList =
    Nat.toDigits 10 date.year.natAbs ++
      '-' :: (lastDigits 2 date.month ++ '-' :: lastDigits 2 date.day) := by
  obtain ⟨-, -, fewMonths, fewDays⟩ := IsoText.fields_of_valid valid
  unfold longDateText
  simp only [String.toList_append, toList_year valid, toList_padded (by decide) fewMonths,
    toList_padded (by decide) fewDays, List.append_assoc]
  rfl

/-- From the year 1000 on a label is the date in the international format. -/
theorem longDateText_of_modern (modern : 1000 ≤ date.year) : longDateText date = dateText date := by
  obtain ⟨whole, fewYears, -⟩ := IsoText.fields_of_valid valid
  rw [← String.toList_inj, toList_longDateText valid, toList_dateText valid,
    toDigits_of_modern (by omega) fewYears]
  rfl

theorem length_year_of_early (early : date.year < 1000) :
    (Nat.toDigits 10 date.year.natAbs).length ≤ 3 := by
  have whole := (IsoText.fields_of_valid valid).1
  exact (Nat.length_toDigits_le_iff (by decide) (by decide)).mpr (by omega)

theorem length_longDateText : (longDateText date).length =
    (Nat.toDigits 10 date.year.natAbs).length + 6 := by
  rw [← String.length_toList, toList_longDateText valid]
  simp

theorem length_dateText : (dateText date).length = 10 := by
  rw [← String.length_toList, toList_dateText valid, IsoText.length_dateCharacters]

end Labels

/-! ### Labels that are too short -/

namespace Calendar.IsoText

/-- Where something else stands among digits, no number is read. -/
theorem digitsAt_of_noDigit {text : Array Char} {position count place : ℕ}
    (inside : place < count) (noDigit : (charAt text (position + place)).isDigit = false) :
    digitsAt text count position = none := by
  induction count with
  | zero => exact absurd inside (Nat.not_lt_zero _)
  | succ count inductionHypothesis =>
    rw [digitsAt]
    rcases Nat.lt_succ_iff_lt_or_eq.mp inside with before | rfl
    · rw [inductionHypothesis before]
      rfl
    · cases digitsAt text place position with
      | none => rfl
      | some value =>
        simp only [Option.bind_eq_bind, Option.bind_some, noDigit, Bool.false_eq_true, if_false]

/-- A text whose first dash comes before its fifth character is not read. -/
theorem read?_of_earlyDash {before rest : List Char} (early : before.length < 4)
    (written : ∀ character ∈ before ++ '-' :: rest, IsWritten character) :
    read? (before ++ '-' :: rest) = none := by
  obtain ⟨dash, -⟩ := stands_toArray before ('-' :: rest)
  have noYear : digitsAt (before ++ '-' :: rest).toArray 4 0 = none := by
    refine digitsAt_of_noDigit early ?_
    rw [Nat.zero_add, dash]
    decide
  have noDate (stop : ℕ) : dateBefore (before ++ '-' :: rest).toArray stop = none := by
    unfold dateBefore
    rw [noYear]
    rfl
  unfold read?
  rw [placed_eq written]
  dsimp only
  split
  · rfl
  · cases dateEnd (before ++ '-' :: rest).toArray with
    | none => rfl
    | some stop =>
      simp only [Option.bind_eq_bind, Option.bind_some, noDate, Option.bind_none]

end Calendar.IsoText

/-- The label of a year before 1000 is not read as a time. -/
theorem timeOfText?_of_early {date : Date} (valid : date.isValid = true)
    (early : date.year < 1000) : timeOfText? (longDateText date) = none := by
  have digits : ∀ character ∈ Nat.toDigits 10 date.year.natAbs, character.isDigit = true :=
    fun _ => Nat.isDigit_of_mem_toDigits (by decide) (by decide)
  have few := length_year_of_early valid early
  rw [timeOfText?_of_written (toList_longDateText valid)
      fun _ => IsoText.isWritten_of_mem_dashed digits,
    IsoText.read?_of_earlyDash (by omega) fun _ => IsoText.isWritten_of_mem_dashed digits]

/-! ### The order of labels -/

/-- Earlier dates have smaller texts. -/
theorem dateText_lt {first second : Date} (valid : first.isValid = true)
    (otherValid : second.isValid = true) (precedes : first.Precedes second) :
    dateText first < dateText second := by
  obtain ⟨whole, -⟩ := IsoText.fields_of_valid valid
  obtain ⟨otherWhole, fewYears, fewMonths, fewDays⟩ := IsoText.fields_of_valid otherValid
  rw [String.lt_iff_toList_lt, toList_dateText valid, toList_dateText otherValid]
  unfold dateCharacters
  obtain earlier | ⟨sameYear, inYear⟩ := precedes
  · exact lastDigits_lt (by omega) fewYears _ _
  · rw [sameYear]
    refine List.append_left_lt (List.cons_lt_cons_iff.mpr (Or.inr ⟨rfl, ?_⟩))
    obtain earlier | ⟨sameMonth, earlier⟩ := inYear
    · exact lastDigits_lt earlier fewMonths _ _
    · rw [sameMonth]
      refine List.append_left_lt (List.cons_lt_cons_iff.mpr (Or.inr ⟨rfl, ?_⟩))
      have days := lastDigits_lt earlier fewDays [] []
      rwa [List.append_nil, List.append_nil] at days

theorem dateText_le {first second : Date} (valid : first.isValid = true)
    (otherValid : second.isValid = true) (ordered : first.dayNumber ≤ second.dayNumber) :
    dateText first ≤ dateText second ∧
      (dateText first < dateText second ↔ first.dayNumber < second.dayNumber) := by
  obtain ⟨known, -⟩ := first.isValid_iff.mp valid
  obtain ⟨otherKnown, -⟩ := second.isValid_iff.mp otherValid
  rcases ordered.lt_or_eq with before | same
  · have below := dateText_lt valid otherValid
      ((Date.dayNumber_lt_iff known otherKnown).mp before)
    exact ⟨below.le, iff_of_true below before⟩
  · rw [Date.eq_of_dayNumber_eq known otherKnown same]
    exact ⟨le_rfl, iff_of_false (lt_irrefl _) (lt_irrefl _)⟩

theorem Calendar.Date.year_le_of_dayNumber_le {first second : Date} (valid : first.isValid = true)
    (otherValid : second.isValid = true) (ordered : first.dayNumber ≤ second.dayNumber) :
    first.year ≤ second.year := by
  obtain ⟨known, -⟩ := first.isValid_iff.mp valid
  obtain ⟨otherKnown, -⟩ := second.isValid_iff.mp otherValid
  by_contra later
  exact absurd ((Date.dayNumber_lt_iff otherKnown known).mpr (Or.inl (not_le.mp later)))
    ordered.not_gt

/-! ### Labels of instants -/

/-- The label of an instant is that of the day it lies in. -/
theorem dateLabel_whole {instant : Value} {seconds : ℤ} {date : Date}
    (known : instant.epochSeconds = .ok (Float.ofInt seconds)) (valid : date.isValid = true)
    (day : seconds / 86400 = date.dayNumber) : dateLabel instant = .ok (longDateText date) := by
  unfold dateLabel instantLabel
  split
  · cases known
  · rw [known]
    show (dateOfSeconds (Float.ofInt seconds) >>= fun date => Except.ok (longDateText date)) = _
    rw [dateOfSeconds_whole valid day]
    rfl

/-- The text of a date stands for the start of the day. -/
theorem epochSeconds_dateText {date : Date} (valid : date.isValid = true) :
    (Value.text (dateText date)).epochSeconds = .ok (Float.ofInt (86400 * date.dayNumber)) := by
  have days := Date.dayNumber_bounds valid
  have micros : date.dayNumber * microsPerDay = 86400 * date.dayNumber * microsPerSecond := by
    unfold microsPerDay secondsPerDay
    ring
  rw [epochSeconds_text (timeOfText?_dateText valid), DateTime.epochMicros_midnight, micros,
    secondsOfMicros_whole (by omega)]

/-- A label of an instant that can be read back: it has ten characters, is the date in the
international format, stands for the start of the day, and comes before the labels of later days. -/
structure LabelReadsBack (seconds : ℤ) (text : String) : Prop where
  length : text.length = 10
  written : text = dateText (.ofDayNumber (seconds / 86400))
  read : (Value.text text).epochSeconds = .ok (Float.ofInt (86400 * (seconds / 86400)))
  ordered : ∀ (other : Value) (later : ℤ), other.epochSeconds = .ok (Float.ofInt later) →
    seconds ≤ later → later ≤ 253402300799 → ∃ otherText, dateLabel other = .ok otherText ∧
      text ≤ otherText ∧ (text < otherText ↔ seconds / 86400 < later / 86400)

/-- A label of an instant that cannot: it is shorter than the date in the international format and
refused as a time. -/
structure LabelIsLost (seconds : ℤ) (text : String) : Prop where
  length : text.length < 10
  other : text ≠ dateText (.ofDayNumber (seconds / 86400))
  refused : (Value.text text).epochSeconds =
    .error (.data (.unreadableTime (Value.text text).shown))

/-- Every whole second of the years in use has a label, which is also the label of the text of its
date. From the year 1000 on the label can be read back, and before it cannot. -/
theorem dateLabel_reads_back {instant : Value} {seconds : ℤ}
    (known : instant.epochSeconds = .ok (Float.ofInt seconds))
    (first : -62135596800 ≤ seconds) (last : seconds ≤ 253402300799) :
    let date := Date.ofDayNumber (seconds / 86400)
    ∃ text, dateLabel instant = .ok text ∧
      dateLabel (.text (dateText date)) = .ok text ∧
      (1000 ≤ date.year → LabelReadsBack seconds text) ∧
      (date.year < 1000 → LabelIsLost seconds text) := by
  intro date
  have valid : date.isValid = true := Date.isValid_ofDayNumber (by omega) (by omega)
  have day : date.dayNumber = seconds / 86400 := (Date.ofDayNumber_spec _).2
  have start := epochSeconds_dateText valid
  refine ⟨longDateText date, dateLabel_whole known valid day.symm,
    dateLabel_whole start valid (by omega), fun modern => ?_, fun early => ?_⟩
  · rw [longDateText_of_modern valid modern]
    refine ⟨length_dateText valid, rfl, day ▸ start, fun other later otherKnown ordered atMost => ?_⟩
    have laterValid := Date.isValid_ofDayNumber (by omega : -719162 ≤ later / 86400) (by omega)
    have laterDay := (Date.ofDayNumber_spec (later / 86400)).2
    have days : date.dayNumber ≤ (Date.ofDayNumber (later / 86400)).dayNumber := by omega
    have laterModern := modern.trans (Date.year_le_of_dayNumber_le valid laterValid days)
    have order := dateText_le valid laterValid days
    rw [day, laterDay] at order
    exact ⟨_, dateLabel_whole otherKnown laterValid laterDay.symm,
      (longDateText_of_modern laterValid laterModern).symm ▸ order⟩
  · have short := length_longDateText valid
    have few := length_year_of_early valid early
    refine ⟨by omega, fun same => ?_, epochSeconds_unread (timeOfText?_of_early valid early)⟩
    have full := length_dateText valid
    rw [← same] at full
    omega

-- The last minutes of a day have the label of its start.
theorem dateLabel_reads_back_evening :
    let instant : Value := .dateTime ⟨⟨2024, 3, 5⟩, 23, 30, 0, 0, some 0⟩
    instant.epochSeconds = .ok (Float.ofInt 1709681400) ∧
      dateLabel instant = .ok "2024-03-05" ∧ LabelReadsBack 1709681400 "2024-03-05" := by
  intro instant
  have known : instant.epochSeconds = .ok (Float.ofInt 1709681400) := by decide +kernel
  obtain ⟨text, label, -, reads, -⟩ := dateLabel_reads_back known (by decide) (by decide)
  have written : dateLabel instant = .ok "2024-03-05" := by decide +kernel
  obtain rfl : "2024-03-05" = text := Except.ok.inj (written.symm.trans label)
  exact ⟨known, label, reads (by decide +kernel)⟩

-- The label of a day of the year five has too few characters and is not accepted as a time.
theorem dateLabel_too_short :
    ¬∀ (instant : Value) (seconds : ℤ) (text : String),
      instant.epochSeconds = .ok (Float.ofInt seconds) → -62135596800 ≤ seconds →
      seconds ≤ 253402300799 → dateLabel instant = .ok text →
        text.length = 10 ∧
          (Value.text text).epochSeconds = .ok (Float.ofInt (86400 * (seconds / 86400))) := by
  intro always
  have label := always (.dateTime ⟨⟨5, 6, 7⟩, 0, 0, 0, 0, none⟩) (-61995801600) "5-06-07"
    (by decide +kernel) (by decide) (by decide) (by decide +kernel)
  exact absurd label.1 (by decide)

end SeriesChart
