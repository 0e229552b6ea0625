/-
This file shows that the days of the calendar are numbered without a gap. From every date to the
next, over the ends of months and years alike, the number goes up by one, so the numbering is the
only one of its kind. Every whole number is the number of exactly one date, and later dates have
larger numbers.
-/

import Mathlib
import SeriesChart.Calendar.Date

namespace SeriesChart.Calendar

/-! ### Dates that exist -/

/-- The month of the date has the day. The year may be any. -/
def Date.Exists (date : Date) : Prop :=
  1 ≤ date.day ∧ date.day ≤ monthLength (isLeapYear date.year) date.month

theorem Date.isValid_iff (date : Date) :
    date.isValid = true ↔ date.Exists ∧ firstYear ≤ date.year ∧ date.year ≤ lastYear := by
  unfold isValid Exists
  simp only [Bool.and_eq_true, decide_eq_true_eq]
  tauto

theorem monthLength_of_large (leap : Bool) {month : ℕ} (large : 12 < month) :
    monthLength leap month = 0 := by
  have long : (monthLengths leap).length ≤ month - 1 := Nat.le_sub_one_of_lt large
  unfold monthLength
  rw [List.getD_eq_default _ _ long, ite_self]

theorem Date.Exists.month_bounds {date : Date} (known : date.Exists) :
    1 ≤ date.month ∧ date.month ≤ 12 := by
  obtain ⟨first, last⟩ := known
  constructor
  · by_contra early
    rw [show date.month = 0 by omega] at last
    exact Nat.not_succ_le_zero 0 (first.trans last)
  · by_contra late
    rw [monthLength_of_large _ (not_le.mp late)] at last
    omega

theorem Date.Exists.day_le {date : Date} (known : date.Exists) : date.day ≤ 31 := by
  obtain ⟨first, last⟩ := known.month_bounds
  refine known.2.trans ?_
  generalize date.month = month at first last
  interval_cases month <;> cases isLeapYear date.year <;> decide

/-! ### Days of a year -/

/-- The length of a year. -/
def yearLength (leap : Bool) : ℕ := if leap then 366 else 365

theorem daysBeforeMonth_succ (leap : Bool) {month : ℕ} (first : 1 ≤ month) (last : month < 12) :
    daysBeforeMonth leap (month + 1) = daysBeforeMonth leap month + monthLength leap month := by
  interval_cases month <;> cases leap <;> rfl

theorem daysBeforeMonth_december (leap : Bool) :
    daysBeforeMonth leap 12 + monthLength leap 12 = yearLength leap := by
  cases leap <;> rfl

/-- A month ends before a later one begins. -/
theorem daysBeforeMonth_add_le (leap : Bool) {month later : ℕ} (first : 1 ≤ month)
    (ordered : month < later) (last : later ≤ 12) :
    daysBeforeMonth leap month + monthLength leap month ≤ daysBeforeMonth leap later := by
  induction later, ordered using Nat.le_induction with
  | base => exact (daysBeforeMonth_succ leap first (by omega)).ge
  | succ later ordered inductionHypothesis =>
    rw [daysBeforeMonth_succ leap (by omega) (by omega)]
    exact (inductionHypothesis (by omega)).trans (Nat.le_add_right _ _)

/-- The days of the year before a date. -/
def Date.daysBefore (date : Date) : ℕ :=
  daysBeforeMonth (isLeapYear date.year) date.month + (date.day - 1)

theorem Date.Exists.daysBefore_lt {date : Date} (known : date.Exists) :
    date.daysBefore < yearLength (isLeapYear date.year) := by
  obtain ⟨first, last⟩ := known.month_bounds
  have inside := known.1
  have inMonth := known.2
  unfold daysBefore
  rcases last.lt_or_eq with before | december
  · have wholeMonth := daysBeforeMonth_add_le (isLeapYear date.year) first before le_rfl
    have wholeYear := daysBeforeMonth_december (isLeapYear date.year)
    omega
  · have wholeYear := daysBeforeMonth_december (isLeapYear date.year)
    rw [december] at inMonth ⊢
    omega

theorem Date.Exists.dayNumber_eq {date : Date} (known : date.Exists) :
    date.dayNumber = daysBeforeYear date.year + date.daysBefore - epochDay := by
  have inside := known.1
  unfold dayNumber daysBefore
  omega

theorem daysBeforeYear_next (year : ℤ) :
    daysBeforeYear (year + 1) = daysBeforeYear year + yearLength (isLeapYear year) := by
  rw [daysBeforeYear_succ]
  unfold yearLength
  split <;> rfl

theorem daysBeforeYear_le {year later : ℤ} (ordered : year ≤ later) :
    daysBeforeYear year ≤ daysBeforeYear later := by
  unfold daysBeforeYear
  omega

/-! ### The order of dates -/

/-- The first date comes before the second. -/
def Date.Precedes (first second : Date) : Prop :=
  first.year < second.year ∨ first.year = second.year ∧
    (first.month < second.month ∨ first.month = second.month ∧ first.day < second.day)

theorem Date.precedes_or_eq_or_precedes (first second : Date) :
    first.Precedes second ∨ first = second ∨ second.Precedes first := by
  obtain ⟨year, month, day⟩ := first
  obtain ⟨otherYear, otherMonth, otherDay⟩ := second
  unfold Precedes
  simp only [Date.mk.injEq]
  omega

section Order

variable {first second : Date} (known : first.Exists) (otherKnown : second.Exists)

include known otherKnown

theorem Date.dayNumber_lt_of_precedes (precedes : first.Precedes second) :
    first.dayNumber < second.dayNumber := by
  rw [known.dayNumber_eq, otherKnown.dayNumber_eq]
  have ofYear := known.daysBefore_lt
  obtain earlier | ⟨sameYear, inYear⟩ := precedes
  · have next := daysBeforeYear_next first.year
    have least := daysBeforeYear_le (Int.add_one_le_of_lt earlier)
    omega
  · have inside := known.1
    have inMonth := known.2
    have otherInside := otherKnown.1
    rw [sameYear]
    unfold daysBefore
    rw [sameYear] at inMonth ⊢
    obtain earlier | ⟨sameMonth, earlier⟩ := inYear
    · have wholeMonth := daysBeforeMonth_add_le (isLeapYear second.year) known.month_bounds.1
        earlier otherKnown.month_bounds.2
      omega
    · rw [sameMonth]
      omega

/-- Later dates have larger numbers. -/
theorem Date.dayNumber_lt_iff : first.dayNumber < second.dayNumber ↔ first.Precedes second := by
  refine ⟨fun below => ?_, dayNumber_lt_of_precedes known otherKnown⟩
  obtain precedes | rfl | precedes := precedes_or_eq_or_precedes first second
  · exact precedes
  · exact absurd below (lt_irrefl _)
  · exact absurd (dayNumber_lt_of_precedes otherKnown known precedes) below.asymm

theorem Date.eq_of_dayNumber_eq (same : first.dayNumber = second.dayNumber) : first = second := by
  obtain precedes | equal | precedes := precedes_or_eq_or_precedes first second
  · exact absurd same (dayNumber_lt_of_precedes known otherKnown precedes).ne
  · exact equal
  · exact absurd same (dayNumber_lt_of_precedes otherKnown known precedes).ne'

end Order

/-! ### The date of a number -/

/-- The months of a year are passed one after the other while there are days enough. -/
theorem monthOfDay_spec (lengths : List ℕ) (month : ℕ) {day : ℕ} (inside : day < lengths.sum) :
    ∃ passed rest, monthOfDay lengths month day = (month + passed, rest + 1) ∧
      rest < lengths.getD passed 0 ∧ day = (lengths.take passed).sum + rest := by
  induction lengths generalizing month day with
  | nil => exact absurd inside (Nat.not_lt_zero _)
  | cons length rest inductionHypothesis =>
    rw [List.sum_cons] at inside
    unfold monthOfDay
    split
    · rename_i first
      exact ⟨0, day, rfl, first, (Nat.zero_add day).symm⟩
    · rename_i later
      obtain ⟨passed, left, found, short, equal⟩ :=
        inductionHypothesis (month + 1) (by omega : day - length < rest.sum)
      refine ⟨passed + 1, left, found.trans (by rw [add_right_comm, add_assoc]), short, ?_⟩
      rw [List.take_succ_cons, List.sum_cons]
      omega

theorem daysBeforeMonth_eq_sum (leap : Bool) (passed : ℕ) :
    daysBeforeMonth leap (1 + passed) = ((monthLengths leap).take passed).sum := by
  unfold daysBeforeMonth
  rw [Nat.add_sub_cancel_left, List.sum_eq_foldl]

theorem sum_monthLengths (leap : Bool) : (monthLengths leap).sum = yearLength leap := by
  cases leap <;> rfl

/-- The date of a number exists and has that number. -/
theorem Date.ofDayNumber_spec (number : ℤ) :
    (ofDayNumber number).Exists ∧ (ofDayNumber number).dayNumber = number := by
  obtain ⟨first, last⟩ := yearOfDay_bounds (number + epochDay)
  rw [daysBeforeYear_next] at last
  obtain ⟨year, isYear⟩ : ∃ year, yearOfDay (number + epochDay) = year := ⟨_, rfl⟩
  rw [isYear] at first last
  obtain ⟨passed, rest, found, short, equal⟩ :=
    monthOfDay_spec (monthLengths (isLeapYear year)) 1
      (by rw [sum_monthLengths]; omega : (number + epochDay - daysBeforeYear year).toNat < _)
  have date : ofDayNumber number = ⟨year, 1 + passed, rest + 1⟩ := by
    unfold ofDayNumber
    dsimp only
    rw [isYear, found]
  have month : monthLength (isLeapYear year) (1 + passed) =
      (monthLengths (isLeapYear year)).getD passed 0 := by
    unfold monthLength
    rw [if_neg (by omega), Nat.add_sub_cancel_left]
  have known : Date.Exists ⟨year, 1 + passed, rest + 1⟩ :=
    ⟨Nat.le_add_left 1 rest, (Nat.succ_le_of_lt short).trans_eq month.symm⟩
  rw [date]
  refine ⟨known, ?_⟩
  rw [known.dayNumber_eq]
  unfold daysBefore
  dsimp only
  rw [daysBeforeMonth_eq_sum, Nat.add_sub_cancel]
  omega

/-- A date is the date of its number. -/
theorem Date.Exists.ofDayNumber_eq {date : Date} (known : date.Exists) :
    Date.ofDayNumber date.dayNumber = date :=
  have found := Date.ofDayNumber_spec date.dayNumber
  Date.eq_of_dayNumber_eq found.1 known found.2

/-! ### Counting days -/

/-- The day after a date. -/
def Date.next (date : Date) : Date :=
  if date.day < monthLength (isLeapYear date.year) date.month then
    { date with day := date.day + 1 }
  else if date.month < 12 then ⟨date.year, date.month + 1, 1⟩
  else ⟨date.year + 1, 1, 1⟩

/-- The function counts the days from the first of January 1970 on, one for each. -/
structure CountsDays (count : Date → ℤ) : Prop where
  epoch : count ⟨1970, 1, 1⟩ = 0
  next : ∀ date, date.Exists → count date.next = count date + 1

theorem one_le_monthLength (leap : Bool) {month : ℕ} (first : 1 ≤ month) (last : month ≤ 12) :
    1 ≤ monthLength leap month := by
  interval_cases month <;> cases leap <;> decide

theorem Date.Exists.next {date : Date} (known : date.Exists) : date.next.Exists := by
  obtain ⟨first, last⟩ := known.month_bounds
  unfold Date.next
  split
  · rename_i inMonth
    exact ⟨Nat.le_add_left 1 _, inMonth⟩
  · split
    · rename_i inYear
      exact ⟨le_rfl, one_le_monthLength _ (Nat.le_add_left 1 date.month) inYear⟩
    · have january : 1 ≤ 12 := by decide
      exact ⟨le_rfl, one_le_monthLength _ le_rfl january⟩

/-- From every date to the next the number goes up by one. -/
theorem Date.Exists.dayNumber_next {date : Date} (known : date.Exists) :
    date.next.dayNumber = date.dayNumber + 1 := by
  have inside := known.1
  have inMonth := known.2
  obtain ⟨first, last⟩ := known.month_bounds
  rw [known.next.dayNumber_eq, known.dayNumber_eq]
  unfold Date.daysBefore Date.next
  split
  · dsimp only
    omega
  · split
    · rename_i inYear
      dsimp only
      rw [daysBeforeMonth_succ _ first inYear]
      omega
    · rename_i ended yearEnded
      have december : date.month = 12 := by omega
      have wholeYear := daysBeforeMonth_december (isLeapYear date.year)
      have newYear : daysBeforeMonth (isLeapYear (date.year + 1)) 1 = 0 := rfl
      rw [december] at inMonth ended ⊢
      dsimp only
      rw [daysBeforeYear_next, newYear]
      omega

theorem countsDays_dayNumber : CountsDays Date.dayNumber where
  epoch := by decide
  next _ known := known.dayNumber_next

/-- There is no other count of days. -/
theorem CountsDays.eq_dayNumber {count : Date → ℤ} (counts : CountsDays count) {date : Date}
    (known : date.Exists) : count date = date.dayNumber := by
  have follows (number : ℤ) :
      Date.ofDayNumber (number + 1) = (Date.ofDayNumber number).next := by
    obtain ⟨here, isHere⟩ := Date.ofDayNumber_spec number
    rw [← isHere, ← here.dayNumber_next, here.ofDayNumber_eq, here.next.ofDayNumber_eq]
  have all (number : ℤ) : count (Date.ofDayNumber number) = number := by
    induction number with
    | zero => exact counts.epoch
    | succ number inductionHypothesis =>
      rw [follows, counts.next _ (Date.ofDayNumber_spec _).1, inductionHypothesis]
    | pred number inductionHypothesis =>
      have after := counts.next _ (Date.ofDayNumber_spec (-number - 1)).1
      rw [← follows, sub_add_cancel, inductionHypothesis] at after
      omega
  rw [← known.ofDayNumber_eq, all, known.ofDayNumber_eq]

end SeriesChart.Calendar
