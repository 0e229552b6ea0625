/-
This file shows that all forms of an instant stand for the same number. A time with an offset, the
same time in universal time, a date and the texts of them are read in different ways, and every one
of them becomes the exact count of seconds from the start of 1970; the time of that count is the
one that was started from.
-/

import SeriesChart.Proofs.Calendar.Reading
import SeriesChart.Proofs.Calendar.WholeSeconds

namespace SeriesChart

open Calendar

namespace Calendar

/-! ### Seconds of times -/

/-- The dates in use are those whose days have a number between those of the first and the last. -/
theorem Date.Exists.isValid_iff {date : Date} (known : date.Exists) :
    date.isValid = true ↔ -719162 ≤ date.dayNumber ∧ date.dayNumber ≤ 2932896 := by
  have ofYear := known.daysBefore_lt
  have next := daysBeforeYear_next date.year
  have start : daysBeforeYear 1 = 0 := by decide
  have stop : daysBeforeYear 10000 = 3652059 := by decide
  rw [date.isValid_iff, known.dayNumber_eq, and_iff_right known]
  unfold firstYear lastYear epochDay
  constructor
  · rintro ⟨first, last⟩
    have least := daysBeforeYear_le first
    have largest := daysBeforeYear_le (by omega : date.year + 1 ≤ 10000)
    omega
  · rintro ⟨first, last⟩
    constructor
    · by_contra early
      have least := daysBeforeYear_le (by omega : date.year + 1 ≤ 1)
      omega
    · by_contra late
      have largest := daysBeforeYear_le (by omega : 10000 ≤ date.year)
      omega

theorem Date.dayNumber_bounds {date : Date} (valid : date.isValid = true) :
    -719162 ≤ date.dayNumber ∧ date.dayNumber ≤ 2932896 :=
  (date.isValid_iff.mp valid).1.isValid_iff.mp valid

theorem Date.isValid_ofDayNumber {number : ℤ} (first : -719162 ≤ number)
    (last : number ≤ 2932896) : (Date.ofDayNumber number).isValid = true := by
  obtain ⟨known, same⟩ := Date.ofDayNumber_spec number
  rw [known.isValid_iff, same]
  exact ⟨first, last⟩

/-- The hour, the minute and the second of a day. -/
theorem DateTime.secondOfDay_lt {time : DateTime} (valid : time.isValid = true) :
    time.secondOfDay < 86400 ∧ time.hour = time.secondOfDay / 3600 ∧
      time.minute = time.secondOfDay / 60 % 60 ∧ time.second = time.secondOfDay % 60 := by
  have fields := DateTime.fields_of_valid valid
  unfold secondOfDay
  omega

/-- The seconds from the start of 1970 to a time in universal time. -/
def DateTime.epochSecond (time : DateTime) : ℤ := time.date.dayNumber * 86400 + time.secondOfDay

theorem DateTime.epochSecond_bounds {time : DateTime} (valid : time.isValid = true) :
    -62135596800 ≤ time.epochSecond ∧ time.epochSecond ≤ 253402300799 := by
  have days := Date.dayNumber_bounds (IsoText.isValid_date valid)
  have ofDay := (DateTime.secondOfDay_lt valid).1
  unfold epochSecond
  omega

theorem DateTime.epochMicros_whole {time : DateTime} (whole : time.microsecond = 0) {minutes : ℤ}
    (offset : time.offset.getD 0 = microsOfMinutes minutes) :
    time.epochMicros = (time.epochSecond - minutes * 60) * microsPerSecond := by
  unfold epochMicros epochSecond secondsPerDay
  rw [whole, offset]
  unfold microsOfMinutes microsPerSecond
  push_cast
  ring

theorem DateTime.ofEpochMicros_whole {time : DateTime} (valid : time.isValid = true)
    (whole : time.microsecond = 0) :
    DateTime.ofEpochMicros (time.epochSecond * microsPerSecond) =
      { time with offset := some 0 } := by
  obtain ⟨inDay, hour, minute, second⟩ := DateTime.secondOfDay_lt valid
  obtain ⟨known, -⟩ := time.date.isValid_iff.mp (IsoText.isValid_date valid)
  have day : time.epochSecond * microsPerSecond / microsPerDay = time.date.dayNumber := by
    unfold epochSecond microsPerDay secondsPerDay microsPerSecond
    omega
  have ofDay : (time.epochSecond * microsPerSecond % microsPerDay / microsPerSecond).toNat =
      time.secondOfDay := by
    unfold epochSecond microsPerDay secondsPerDay microsPerSecond
    omega
  have micros : (time.epochSecond * microsPerSecond % microsPerSecond).toNat = 0 := by
    unfold microsPerSecond
    omega
  unfold ofEpochMicros
  dsimp only
  rw [day, ofDay, micros, known.ofDayNumber_eq, ← hour, ← minute, ← second, ← whole]

end Calendar

/-! ### Dates of seconds -/

section Seconds

variable {seconds : ℤ} {date : Date} (valid : date.isValid = true)
  (day : seconds / 86400 = date.dayNumber)

include valid day

theorem natAbs_lt_of_day : seconds.natAbs < 2 ^ 38 := by
  have days := Date.dayNumber_bounds valid
  omega

/-- The date of whole seconds is that of their day. -/
theorem dateOfSeconds_whole : dateOfSeconds (Float.ofInt seconds) = .ok date := by
  obtain ⟨known, first, last⟩ := date.isValid_iff.mp valid
  have small := natAbs_lt_of_day valid day
  have whole : seconds * microsPerSecond / microsPerSecond = seconds :=
    Int.mul_ediv_cancel seconds (by decide)
  have date_eq : Date.ofDayNumber (seconds / secondsPerDay) = date := by
    rw [show seconds / secondsPerDay = date.dayNumber from day, known.ofDayNumber_eq]
  have secondLimit : ((twoTo 63 : ℕ) : ℤ) = 2 ^ 63 := by decide
  have yearLimit : ((twoTo 31 : ℕ) : ℤ) = 2 ^ 31 := by decide
  unfold firstYear at first
  unfold lastYear at last
  have inSeconds : ¬(decide (seconds < -2 ^ 63) || decide (2 ^ 63 ≤ seconds)) = true := by
    rw [Bool.or_eq_true, decide_eq_true_eq, decide_eq_true_eq]
    omega
  have inYears : ¬(decide (date.year - 1900 < -2 ^ 31) || decide (2 ^ 31 ≤ date.year - 1900)) =
      true := by
    rw [Bool.or_eq_true, decide_eq_true_eq, decide_eq_true_eq]
    omega
  have inUse : ¬(decide (date.year < firstYear) || decide (lastYear < date.year)) = true := by
    unfold firstYear lastYear
    rw [Bool.or_eq_true, decide_eq_true_eq, decide_eq_true_eq]
    omega
  unfold dateOfSeconds
  rw [microsOfSeconds_whole small, secondLimit, yearLimit]
  show (if (decide (seconds * microsPerSecond / microsPerSecond < -2 ^ 63) || _) = true then _
    else _ : Except Fault Date) = _
  rw [whole, if_neg inSeconds, date_eq]
  show (if _ then _ else if _ then _ else _ : Except Fault Date) = _
  rw [if_neg inYears, if_neg inUse]
  rfl

end Seconds

/-! ### The forms of an instant -/

theorem epochSeconds_text {text : String} {time : DateTime} (read : timeOfText? text = some time) :
    (Value.text text).epochSeconds = .ok (secondsOfMicros time.epochMicros) := by
  unfold Value.epochSeconds
  dsimp only
  rw [read]

theorem epochSeconds_unread {text : String} (unread : timeOfText? text = none) :
    (Value.text text).epochSeconds = .error (.data (.unreadableTime (Value.text text).shown)) := by
  unfold Value.epochSeconds
  dsimp only
  rw [unread]

theorem epochSeconds_float {number : Float} (finite : number.isFinite = true) :
    (Value.float number).epochSeconds = .ok number := if_pos finite

/-- A count of seconds that fits a word stays. -/
theorem wrapped_of_small {count : ℤ} (small : count.natAbs < 2 ^ 63) :
    Moment.wrapped count = count := by
  have limit : twoTo 64 = 2 ^ 64 := by decide
  unfold Moment.wrapped
  rw [limit, Int.bmod_eq_of_le] <;> omega

section Universal

variable {time : DateTime} (valid : time.isValid = true)

include valid

/-- The whole seconds of a time in universal time, through its microseconds. -/
theorem secondsOfMicros_universal (whole : time.microsecond = 0)
    (offset : time.offset.getD 0 = 0) :
    secondsOfMicros time.epochMicros = Float.ofInt time.epochSecond := by
  have bounds := DateTime.epochSecond_bounds valid
  rw [DateTime.epochMicros_whole whole (offset.trans (by rfl : 0 = microsOfMinutes 0)), zero_mul,
    sub_zero]
  exact secondsOfMicros_whole (by omega)

theorem epochSeconds_moment (naive : time.offset = none) :
    ∃ moment, Moment.ofText? .second (isoText time) = some moment ∧
      (Value.moment moment).epochSeconds = .ok (Float.ofInt time.epochSecond) := by
  have bounds := DateTime.epochSecond_bounds valid
  have isTime : isoText time ≠ "NaT" := by
    intro unknown
    have length := congrArg List.length (toList_isoText_naive valid naive)
    rw [unknown] at length
    cases length
  have seconds : Moment.countOf .second
      (LongForm.instant ⟨time.date, time.secondOfDay * nanosPerSecond.toNat, none⟩) =
        time.epochSecond := by
    have billion : nanosPerSecond.toNat = 1000000000 := rfl
    show (time.date.dayNumber * nanosPerDay + ((time.secondOfDay * nanosPerSecond.toNat : ℕ) : ℤ) -
      0 * 60 * nanosPerSecond) / 1000000000 = _
    rw [billion]
    unfold nanosPerDay secondsPerDay nanosPerSecond DateTime.epochSecond
    omega
  have read : Moment.ofText? .second (isoText time) = some ⟨.second, some time.epochSecond⟩ := by
    unfold Moment.ofText?
    rw [if_neg isTime, toList_isoText_naive valid naive, LongForm.read?_time valid]
    show some (Moment.mk .second (some (Moment.wrapped (Moment.countOf .second _)))) = _
    rw [seconds, wrapped_of_small (by omega)]
  have micros : Moment.nanosOf .second time.epochSecond / 1000 =
      time.epochSecond * microsPerSecond := by
    show time.epochSecond * 1000000000 / 1000 = time.epochSecond * 1000000
    omega
  refine ⟨_, read, ?_⟩
  show Except.ok (Float.ofInt (Moment.wrapped (Moment.nanosOf .second time.epochSecond / 1000)) /
    1000000.0) = _
  rw [micros, wrapped_of_small (by unfold microsPerSecond; omega), div_micros_whole (by omega)]

/-- The time of the count of seconds is the time itself. -/
theorem asDateTime_universal (whole : time.microsecond = 0) :
    asDateTime (.float (Float.ofInt time.epochSecond)) = .ok { time with offset := some 0 } := by
  have bounds := DateTime.epochSecond_bounds valid
  have inDay := (DateTime.secondOfDay_lt valid).1
  have small : time.epochSecond.natAbs < 2 ^ 38 := by omega
  have day : time.epochSecond / 86400 = time.date.dayNumber := by
    unfold DateTime.epochSecond
    omega
  unfold asDateTime timeOfSeconds
  rw [epochSeconds_float (worth_ofInt small).1]
  show (dateOfSeconds (Float.ofInt time.epochSecond) >>= fun _ =>
    microsOfSeconds (Float.ofInt time.epochSecond) >>= fun micros =>
      Except.ok (DateTime.ofEpochMicros micros)) = _
  rw [dateOfSeconds_whole (IsoText.isValid_date valid) day, microsOfSeconds_whole small]
  exact congrArg Except.ok (DateTime.ofEpochMicros_whole valid whole)

end Universal

/-- Every form in which a time in universal time may be given stands for the same number, and the
time of the number is that time again. -/
structure AllFormsGive (time : DateTime) (seconds : Float) : Prop where
  asTime : (Value.dateTime time).epochSeconds = .ok seconds
  asText : (Value.text (isoText time)).epochSeconds = .ok seconds
  asZulu : (Value.text (isoText time ++ "Z")).epochSeconds = .ok seconds
  asMoment : ∃ moment, Moment.ofText? .second (isoText time) = some moment ∧
    (Value.moment moment).epochSeconds = .ok seconds
  asDate : time.secondOfDay = 0 → (Value.date time.date).epochSeconds = .ok seconds
  asDateText : time.secondOfDay = 0 →
    (Value.text (dateText time.date)).epochSeconds = .ok seconds
  back : asDateTime (.float seconds) = .ok { time with offset := some 0 }

theorem allFormsGive {time : DateTime} (valid : time.isValid = true)
    (whole : time.microsecond = 0) (naive : time.offset = none) :
    AllFormsGive time (Float.ofInt time.epochSecond) := by
  have seconds := secondsOfMicros_universal valid whole (by rw [naive]; rfl)
  have onDate := IsoText.isValid_date valid
  -- A time at midnight and the date alone are the same instant.
  have atMidnight (none : time.secondOfDay = 0) :
      secondsOfMicros (DateTime.midnight time.date).epochMicros =
        Float.ofInt time.epochSecond := by
    have bounds := DateTime.epochSecond_bounds valid
    have same : (DateTime.midnight time.date).epochMicros =
        time.epochSecond * microsPerSecond := by
      rw [DateTime.epochMicros_midnight]
      unfold DateTime.epochSecond microsPerDay secondsPerDay
      rw [none, Nat.cast_zero, add_zero, mul_assoc]
    rw [same]
    exact secondsOfMicros_whole (by omega)
  refine ⟨congrArg Except.ok seconds, ?_, ?_, epochSeconds_moment valid naive,
    fun none => congrArg Except.ok (atMidnight none), fun none => ?_,
    asDateTime_universal valid whole⟩
  · rw [epochSeconds_text (timeOfText?_naive valid whole naive), seconds]
  · rw [epochSeconds_text (timeOfText?_zulu valid whole naive)]
    have universal : ({ time with offset := some 0 } : DateTime).epochMicros =
        time.epochMicros := by
      unfold DateTime.epochMicros DateTime.secondOfDay
      rw [naive]
      rfl
    rw [universal, seconds]
  · rw [epochSeconds_text (timeOfText?_dateText onDate), atMidnight none]

/-! ### The instant of a clock -/

/-- The seconds from the start of 1970 to a time, by a count of days. The minutes that the clock is
ahead of universal time are taken off. -/
def secondsBy (count : Date → ℤ) (time : DateTime) (minutes : ℤ) : ℤ :=
  count time.date * 86400 + time.secondOfDay - minutes * 60

/-- The time shows a count of whole seconds in universal time, without an offset. -/
structure IsTimeOf (count : Date → ℤ) (seconds : ℤ) (time : DateTime) : Prop where
  valid : time.isValid = true
  whole : time.microsecond = 0
  naive : time.offset = none
  same : secondsBy count time 0 = seconds

theorem secondsBy_eq {count : Date → ℤ} (counts : CountsDays count) {time : DateTime}
    (valid : time.isValid = true) (minutes : ℤ) :
    secondsBy count time minutes = time.epochSecond - minutes * 60 := by
  obtain ⟨known, -⟩ := time.date.isValid_iff.mp (IsoText.isValid_date valid)
  unfold secondsBy
  rw [counts.eq_dayNumber known]
  rfl

/-- The seconds of the years in use have a time each. -/
theorem exists_isTimeOf {count : Date → ℤ} (counts : CountsDays count) {seconds : ℤ}
    (first : -62135596800 ≤ seconds) (last : seconds ≤ 253402300799) :
    ∃ time, IsTimeOf count seconds time := by
  have valid := Date.isValid_ofDayNumber (by omega : -719162 ≤ seconds / 86400) (by omega)
  obtain ⟨-, number⟩ := Date.ofDayNumber_spec (seconds / 86400)
  obtain ⟨ofDay, isOfDay⟩ : ∃ ofDay : ℕ, (ofDay : ℤ) = seconds % 86400 :=
    ⟨(seconds % 86400).toNat, by omega⟩
  have clock : (DateTime.mk (Date.ofDayNumber (seconds / 86400)) (ofDay / 3600)
      (ofDay / 60 % 60) (ofDay % 60) 0 none).isValid = true := by
    unfold DateTime.isValid
    simp only [valid, Bool.and_eq_true, decide_eq_true_eq, true_and, and_true]
    omega
  refine ⟨_, clock, rfl, rfl, ?_⟩
  rw [secondsBy_eq counts clock]
  unfold DateTime.epochSecond DateTime.secondOfDay
  dsimp only
  rw [number]
  omega

/-- Whatever form an instant is given in, it stands for the exact count of seconds from the start of
1970 on: as a time with an offset of whole minutes and as the text of it, and, if the years in use
hold its time in universal time, in every form of that one, which is also what the count is turned
back into. -/
theorem epochSeconds_agree {count : Date → ℤ} (counts : CountsDays count) {time : DateTime}
    (valid : time.isValid = true) (whole : time.microsecond = 0) {minutes : ℤ}
    (short : minutes.natAbs < 24 * 60) (told : time.offset = some (microsOfMinutes minutes)) :
    let seconds := secondsBy count time minutes
    let number := Float.ofInt seconds
    (number.isFinite = true ∧ worth number = seconds) ∧
      (Value.dateTime time).epochSeconds = .ok number ∧
      (Value.text (isoText time)).epochSeconds = .ok number ∧
      (-62135596800 ≤ seconds → seconds ≤ 253402300799 →
        ∃ universal, IsTimeOf count seconds universal) ∧
      ∀ universal, IsTimeOf count seconds universal → AllFormsGive universal number := by
  intro seconds number
  have bounds := DateTime.epochSecond_bounds valid
  have sameSeconds : seconds = time.epochSecond - minutes * 60 := secondsBy_eq counts valid minutes
  have small : seconds.natAbs < 2 ^ 38 := by omega
  have micros : secondsOfMicros time.epochMicros = number := by
    rw [DateTime.epochMicros_whole whole (by rw [told]; rfl), ← sameSeconds]
    exact secondsOfMicros_whole small
  refine ⟨worth_ofInt small, congrArg Except.ok micros, ?_, exists_isTimeOf counts,
    fun universal isTime => ?_⟩
  · rw [epochSeconds_text (timeOfText?_offset valid whole short told), micros]
  · have same : universal.epochSecond = seconds := by
      rw [← isTime.same, secondsBy_eq counts isTime.valid, zero_mul, sub_zero]
    have forms := allFormsGive isTime.valid isTime.whole isTime.naive
    rw [same] at forms
    exact forms

-- The last half hour of a leap day west of universal time is the midnight after it.
theorem epochSeconds_agree_leapDay :
    let time : DateTime := ⟨⟨2000, 2, 29⟩, 23, 30, 0, 0, some (microsOfMinutes (-30))⟩
    (Value.dateTime time).epochSeconds = .ok (Float.ofInt 951868800) ∧
      (Value.text (isoText time)).epochSeconds = .ok (Float.ofInt 951868800) ∧
      AllFormsGive (.midnight ⟨2000, 3, 1⟩) (Float.ofInt 951868800) := by
  intro time
  have seconds : secondsBy Date.dayNumber time (-30) = 951868800 := by decide
  have isTime : IsTimeOf Date.dayNumber 951868800 (.midnight ⟨2000, 3, 1⟩) :=
    ⟨by decide, rfl, rfl, by decide⟩
  obtain ⟨-, asTime, asText, -, forms⟩ :=
    epochSeconds_agree countsDays_dayNumber (by decide : time.isValid = true) rfl
      (by decide : (-30 : ℤ).natAbs < 24 * 60) rfl
  rw [seconds] at asTime asText forms
  exact ⟨asTime, asText, forms _ isTime⟩

end SeriesChart
