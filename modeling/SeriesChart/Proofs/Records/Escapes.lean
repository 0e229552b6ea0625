/-
This file says when reading the data of a chart ends with a fault that is not called one of
the data. A whole number that is larger than all floats does that as a time and as a value;
a signaling decimal number and an unknown stamp do it as a time. A value that is no number
does it when it holds a whole number that is too long for the message to show. A table does
it as soon as one of its stamps lies outside the years in use, or when a key is the name of
several columns; an array without directions does it, as there is nothing to go through.
-/

import SeriesChart.Proofs.Computation
import SeriesChart.Proofs.Number.Range
import SeriesChart.Records.Reading

namespace SeriesChart

open Calendar

/-! ### Outcomes -/

/-- The outcome is a fault that is none of the data. -/
def Escapes {Result : Type} (outcome : Except Fault Result) : Prop :=
  ∃ fault, outcome = .error fault ∧ ∀ cause, fault ≠ .data cause

section Outcomes

variable {Result Other : Type}

@[simp] theorem not_escapes_ok (result : Result) : ¬Escapes (.ok result) := not_fails_ok result

@[simp] theorem not_escapes_data (cause : DataCause) :
    ¬Escapes (.error (.data cause) : Except Fault Result) := by
  rintro ⟨fault, same, other⟩
  exact other cause (Except.error.inj same).symm

theorem escapes_of_ne {fault : Fault} (other : ∀ cause, fault ≠ .data cause) :
    Escapes (.error fault : Except Fault Result) := ⟨fault, rfl, other⟩

/-- A computation in two parts ends so when the first part does, or the second part after it. -/
theorem escapes_bind_iff (first : Except Fault Other) (next : Other → Except Fault Result) :
    Escapes (first >>= next) ↔
      Escapes first ∨ ∃ value, first = .ok value ∧ Escapes (next value) :=
  fails_bind_iff first next

theorem escapes_map_iff (function : Other → Result) (outcome : Except Fault Other) :
    Escapes (outcome.map function) ↔ Escapes outcome :=
  fails_map_iff function outcome

/-- Telling the number of a record leaves a fault of the data what it is, and any other one, too. -/
theorem escapes_inRecord_iff (index : Nat) (outcome : Except Fault Result) :
    Escapes (outcome.mapError (inRecord index)) ↔ Escapes outcome := by
  cases outcome with
  | ok result => exact iff_of_false (not_escapes_ok _) (not_escapes_ok _)
  | error fault =>
    cases fault with
    | data cause => exact iff_of_false (not_escapes_data _) (not_escapes_data _)
    | _ => exact iff_of_true (escapes_of_ne nofun) (escapes_of_ne nofun)

end Outcomes

/-- The fault is none of the data. -/
def IsForeign (fault : Fault) : Prop := ∀ cause, fault ≠ .data cause

/-- The check refuses just what meets the condition, with a fault of the sort. -/
structure Refuses (sort : Fault → Prop) (check : Except Fault Unit) (condition : Prop) : Prop where
  passes : ¬condition → check = .ok ()
  fails : condition → Fails sort check

namespace Refuses

variable {sort : Fault → Prop} {check other : Except Fault Unit} {condition otherCondition : Prop}

theorem of_not (fails : ¬condition) : Refuses sort (.ok ()) condition :=
  ⟨fun _ => rfl, fun holds => absurd holds fails⟩

theorem congr (refuses : Refuses sort check condition) (same : condition ↔ otherCondition) :
    Refuses sort check otherCondition :=
  ⟨fun fails => refuses.passes (fails ∘ same.mp), fun holds => refuses.fails (same.mpr holds)⟩

theorem mono {wider : Fault → Prop} (refuses : Refuses sort check condition)
    (contained : ∀ fault, sort fault → wider fault) : Refuses wider check condition := by
  refine ⟨refuses.passes, fun holds => ?_⟩
  obtain ⟨fault, refused, sorted⟩ := refuses.fails holds
  exact ⟨fault, refused, contained fault sorted⟩

/-- After a check the rest fails so when the check does, or else by itself. -/
theorem fails_bind_iff {Result : Type} (refuses : Refuses sort check condition)
    (next : Except Fault Result) :
    Fails sort (check >>= fun _ => next) ↔ condition ∨ Fails sort next := by
  rw [SeriesChart.fails_bind_iff]
  by_cases holds : condition
  · exact iff_of_true (Or.inl (refuses.fails holds)) (Or.inl holds)
  · rw [refuses.passes holds, or_iff_right (not_fails_ok ()), or_iff_right holds]
    exact ⟨fun ⟨_, _, fails⟩ => fails, fun fails => ⟨(), rfl, fails⟩⟩

theorem fails_iff (refuses : Refuses sort check condition) : Fails sort check ↔ condition := by
  refine ⟨fun failed => ?_, refuses.fails⟩
  by_contra fails
  rw [refuses.passes fails] at failed
  exact not_fails_ok () failed

/-- Of two checks either one may refuse. -/
theorem bind (refuses : Refuses sort check condition)
    (otherRefuses : Refuses sort other otherCondition) :
    Refuses sort (check >>= fun _ => other) (condition ∨ otherCondition) := by
  refine ⟨fun fails => ?_, fun holds => ?_⟩
  · rw [refuses.passes (fails ∘ Or.inl)]
    exact otherRefuses.passes (fails ∘ Or.inr)
  · rw [refuses.fails_bind_iff, otherRefuses.fails_iff]
    exact holds

theorem forM {Item : Type} {checkOf : Item → Except Fault Unit} {conditionOf : Item → Prop}
    {items : List Item} (refuses : ∀ item ∈ items, Refuses sort (checkOf item) (conditionOf item)) :
    Refuses sort (items.forM checkOf) (∃ item ∈ items, conditionOf item) := by
  induction items with
  | nil => exact of_not (by simp)
  | cons item rest inductionHypothesis =>
    obtain ⟨first, others⟩ := List.forall_mem_cons.mp refuses
    exact (first.bind (inductionHypothesis others)).congr (List.exists_mem_cons_iff _ _ _).symm

end Refuses

/-! ### Numbers -/

/-- The whole number is rounded beyond all floats. -/
def IsTooLarge (number : ℤ) : Prop := firstTooLarge ≤ number.natAbs

theorem escapes_ofInt_iff (number : ℤ) : Escapes (Binary.ofInt number) ↔ IsTooLarge number := by
  rw [ofInt_eq]
  unfold IsTooLarge
  split
  · exact iff_of_true (escapes_of_ne nofun) ‹_›
  · exact iff_of_false (not_escapes_ok _) ‹_›

namespace Value

/-! ### Times -/

/-- The value ends the reading of a time with a fault that is none of the data. Words of sixty-four
bits are never too large. -/
def BreaksTime : Value → Prop
  | .int number | .word number => IsTooLarge number
  | .decimal (.undefined _ true _) => True
  | .stamp none => True
  | _ => False

theorem escapes_finiteSeconds_iff (value : Value) :
    Escapes value.finiteSeconds ↔ Escapes value.toFloat := by
  unfold finiteSeconds
  rw [escapes_bind_iff]
  refine or_iff_left ?_
  rintro ⟨seconds, -, escapes⟩
  revert escapes
  split
  · exact not_escapes_ok seconds
  · exact not_escapes_data _

theorem escapes_epochSeconds_iff (value : Value) :
    Escapes value.epochSeconds ↔ value.BreaksTime := by
  cases value with
  | int number | word number =>
    exact (escapes_finiteSeconds_iff _).trans (escapes_ofInt_iff number)
  | float number | cell number =>
    exact (escapes_finiteSeconds_iff _).trans (iff_of_false (not_escapes_ok number) id)
  | decimal number =>
    refine (escapes_finiteSeconds_iff _).trans ?_
    cases number with
    | undefined negative signaling payload =>
      cases signaling with
      | false => exact iff_of_false (not_escapes_ok _) id
      | true => exact iff_of_true (escapes_of_ne nofun) trivial
    | _ => exact iff_of_false (not_escapes_ok _) id
  | stamp time =>
    cases time with
    | none => exact iff_of_true (escapes_of_ne nofun) trivial
    | some time => exact iff_of_false (not_escapes_ok _) id
  | moment counted =>
    refine iff_of_false ?_ id
    unfold epochSeconds
    dsimp only
    split
    · exact not_escapes_data _
    · exact not_escapes_ok _
  | text written =>
    refine iff_of_false ?_ id
    unfold epochSeconds
    dsimp only
    split
    · exact not_escapes_ok _
    · exact not_escapes_data _
  | dateTime | date => exact iff_of_false (not_escapes_ok _) id
  | _ => exact iff_of_false (not_escapes_data _) id

/-! ### Values -/

/-- A message that shows the first value shows the second one in it: that value itself, or a member
that is written out. -/
inductive Shows : Value → Value → Prop
  | self (value : Value) : Shows value value
  | item {items : List Value} {item shown : Value} (known : item ∈ items)
    (shows : Shows item shown) : Shows (.list items) shown
  | member {items : List Value} {item shown : Value} (known : item ∈ items)
    (shows : Shows item shown) : Shows (.tuple items) shown
  | key {entries : List (Value × Value)} {entry : Value × Value} {shown : Value}
    (known : entry ∈ entries) (shows : Shows entry.1 shown) : Shows (.mapping entries) shown
  | value {entries : List (Value × Value)} {entry : Value × Value} {shown : Value}
    (known : entry ∈ entries) (shows : Shows entry.2 shown) : Shows (.mapping entries) shown
  | cell {columns : List (String × List Value)} {column : String × List Value} {cell shown : Value}
    (known : column ∈ writtenColumns columns) (inColumn : cell ∈ writtenRows column.2)
    (shows : Shows cell shown) : Shows (.table columns) shown

/-- The value is or holds a whole number that is too long to be shown. -/
def IsTooLong (value : Value) : Prop :=
  ∃ number, value.Shows (.int number) ∧ tenTo Numeral.digitLimit ≤ number.natAbs

/-- The fault of a value that is too long to be shown. -/
def IsUnshown (fault : Fault) : Prop := fault = .invalid .tooLongToShow

mutual

theorem refuses_checkShowable : ∀ value : Value,
    Refuses IsUnshown value.checkShowable value.IsTooLong
  | .int number => by
    have self : tenTo Numeral.digitLimit ≤ number.natAbs ↔ (Value.int number).IsTooLong := by
      constructor
      · exact fun long => ⟨number, .self _, long⟩
      · rintro ⟨other, shows, long⟩
        cases shows
        exact long
    refine Refuses.congr ?_ self
    unfold checkShowable
    split
    · exact ⟨fun short => absurd ‹_› short, fun _ => ⟨_, rfl, rfl⟩⟩
    · exact .of_not ‹_›
  | .list items => by
    show Refuses _ ((checksOf items).forM id) _
    rw [checksOf_eq_map, List.forM_eq_forM, List.forM_map]
    refine (Refuses.forM (refuses_members items)).congr ⟨?_, ?_⟩
    · rintro ⟨item, known, number, shows, long⟩
      exact ⟨number, .item known shows, long⟩
    · rintro ⟨number, shows, long⟩
      cases shows with
      | item known shows => exact ⟨_, known, number, shows, long⟩
  | .tuple items => by
    show Refuses _ ((checksOf items).forM id) _
    rw [checksOf_eq_map, List.forM_eq_forM, List.forM_map]
    refine (Refuses.forM (refuses_members items)).congr ⟨?_, ?_⟩
    · rintro ⟨item, known, number, shows, long⟩
      exact ⟨number, .member known shows, long⟩
    · rintro ⟨number, shows, long⟩
      cases shows with
      | member known shows => exact ⟨_, known, number, shows, long⟩
  | .mapping entries => by
    show Refuses _ ((checksOfEntries entries).forM id) _
    rw [checksOfEntries_eq_map, List.forM_eq_forM, List.forM_map]
    refine (Refuses.forM fun entry known =>
      let both := refuses_entries entries entry known
      both.1.bind both.2).congr ⟨?_, ?_⟩
    · rintro ⟨entry, known, ⟨number, shows, long⟩ | ⟨number, shows, long⟩⟩
      · exact ⟨number, .key known shows, long⟩
      · exact ⟨number, .value known shows, long⟩
    · rintro ⟨number, shows, long⟩
      cases shows with
      | key known shows => exact ⟨_, known, Or.inl ⟨number, shows, long⟩⟩
      | value known shows => exact ⟨_, known, Or.inr ⟨number, shows, long⟩⟩
  | .table columns => by
    show Refuses _ ((writtenColumns (checksOfColumns columns)).forM id) _
    rw [checksOfColumns_eq_map, writtenColumns_map, List.forM_eq_forM, List.forM_map]
    refine (Refuses.forM fun column known => Refuses.forM fun cell inColumn =>
      refuses_cells columns column (mem_of_mem_bothEnds known) cell
        (mem_of_mem_bothEnds inColumn)).congr ⟨?_, ?_⟩
    · rintro ⟨column, known, cell, inColumn, number, shows, long⟩
      exact ⟨number, .cell known inColumn shows, long⟩
    · rintro ⟨number, shows, long⟩
      cases shows with
      | cell known inColumn shows => exact ⟨_, known, _, inColumn, number, shows, long⟩
  | .absent | .bool _ | .float _ | .decimal _ | .dateTime _ | .date _ | .moment _ | .word _
  | .cell _ | .text _ | .bytes _ | .point _ | .series _ | .thing | .iterator _ | .array _ | .stamp _ => by
    refine .of_not ?_
    rintro ⟨number, shows, -⟩
    cases shows

theorem refuses_members : ∀ items : List Value,
    ∀ item ∈ items, Refuses IsUnshown item.checkShowable item.IsTooLong
  | [] => fun _ known => absurd known List.not_mem_nil
  | item :: rest => List.forall_mem_cons.mpr ⟨refuses_checkShowable item, refuses_members rest⟩

theorem refuses_entries : ∀ entries : List (Value × Value), ∀ entry ∈ entries,
    Refuses IsUnshown entry.1.checkShowable entry.1.IsTooLong ∧
      Refuses IsUnshown entry.2.checkShowable entry.2.IsTooLong
  | [] => fun _ known => absurd known List.not_mem_nil
  | (key, value) :: rest => List.forall_mem_cons.mpr
    ⟨⟨refuses_checkShowable key, refuses_checkShowable value⟩, refuses_entries rest⟩

theorem refuses_cells : ∀ columns : List (String × List Value),
    ∀ column ∈ columns, ∀ cell ∈ column.2, Refuses IsUnshown cell.checkShowable cell.IsTooLong
  | [] => fun _ known => absurd known List.not_mem_nil
  | (_, cells) :: rest => List.forall_mem_cons.mpr ⟨refuses_members cells, refuses_cells rest⟩

end

/-- The value ends the reading of a value with a fault that is none of the data. Words and counts of
sixty-four bits are never too large. -/
def BreaksMeasure : Value → Prop
  | .int number | .word number => IsTooLarge number
  | .moment counted => ∃ number, ofMoment counted = .int number ∧ IsTooLarge number
  | .list items => (Value.list items).IsTooLong
  | .tuple items => (Value.tuple items).IsTooLong
  | .mapping entries => (Value.mapping entries).IsTooLong
  | .table columns => (Value.table columns).IsTooLong
  | _ => False

/-- What is no number is shown, which fails just when it is too long. -/
theorem escapes_notNumeric_iff (value : Value) :
    Escapes (value.refuse fun shown => .data (.valueNotNumeric shown) : Except Fault Float) ↔
      value.IsTooLong := by
  have refuses : Refuses IsForeign value.checkShowable value.IsTooLong :=
    value.refuses_checkShowable.mono fun fault unshown cause => by rw [unshown]; nofun
  exact (refuses.fails_bind_iff _).trans (or_iff_left (not_escapes_data _))

section Readings

variable {value : Value}

theorem not_escapes_toMeasure_of_ok {number : Float} (known : value.toFloat = .ok number) :
    ¬Escapes value.toMeasure := by
  unfold toMeasure
  dsimp only
  split
  · rw [escapes_notNumeric_iff]
    rintro ⟨_, shows, -⟩
    cases shows
  · cases known
  · rw [known]
    dsimp only
    split
    · exact not_escapes_ok number
    · exact not_escapes_data _

theorem escapes_toMeasure_of_overflow {cause : OverflowCause}
    (known : value.toFloat = .error (.overflow cause)) : Escapes value.toMeasure := by
  unfold toMeasure
  dsimp only
  split
  · cases known
  · cases known
  · rw [known]
    exact escapes_of_ne nofun

/-- A value that is refused for its type or its form is called no number. -/
theorem escapes_toMeasure_of_refused {fault : Fault} (known : value.toFloat = .error fault)
    (refused : (∃ cause, fault = .mistyped cause) ∨ ∃ cause, fault = .invalid cause) :
    Escapes value.toMeasure ↔ value.IsTooLong := by
  unfold toMeasure
  dsimp only
  split
  · cases known
  · exact escapes_notNumeric_iff _
  · rw [known]
    obtain ⟨cause, rfl⟩ | ⟨cause, rfl⟩ := refused <;> exact escapes_notNumeric_iff _

theorem escapes_toMeasure_of_ofInt {number : ℤ} (known : value.toFloat = Binary.ofInt number) :
    Escapes value.toMeasure ↔ IsTooLarge number := by
  rw [ofInt_eq] at known
  split at known
  · exact iff_of_true (escapes_toMeasure_of_overflow known) ‹_›
  · exact iff_of_false (not_escapes_toMeasure_of_ok known) ‹_›

theorem not_escapes_toMeasure_of_read (characters : List Char)
    (known : value.toFloat = value.readFloat characters)
    (flat : ∀ number, ¬value.Shows (.int number)) : ¬Escapes value.toMeasure := by
  unfold readFloat at known
  split at known
  · exact not_escapes_toMeasure_of_ok known
  · rw [escapes_toMeasure_of_refused known (Or.inr ⟨_, rfl⟩)]
    exact fun ⟨number, shows, _⟩ => flat number shows

end Readings

theorem escapes_toMeasure_iff (value : Value) : Escapes value.toMeasure ↔ value.BreaksMeasure := by
  cases value with
  | int number | word number => exact escapes_toMeasure_of_ofInt rfl
  | bool | float | cell => exact iff_of_false (not_escapes_toMeasure_of_ok rfl) id
  | decimal number =>
    cases number with
    | finite | infinite => exact iff_of_false (not_escapes_toMeasure_of_ok rfl) id
    | undefined negative signaling payload =>
      cases signaling with
      | false => exact iff_of_false (not_escapes_toMeasure_of_ok rfl) id
      -- Unlike as a time, it is caught as a value and called no number.
      | true =>
        refine (escapes_toMeasure_of_refused rfl (Or.inr ⟨_, rfl⟩)).trans (iff_of_false ?_ id)
        rintro ⟨number, shows, -⟩
        cases shows
  | text written =>
    exact iff_of_false (not_escapes_toMeasure_of_read written.toList rfl nofun) id
  | bytes raw =>
    exact iff_of_false (not_escapes_toMeasure_of_read (charactersOf raw) rfl nofun) id
  | moment counted =>
    cases made : ofMoment counted with
    | int number =>
      have same : (Value.moment counted).toFloat = Binary.ofInt number := by
        unfold toFloat
        dsimp only
        rw [made]
      rw [escapes_toMeasure_of_ofInt same]
      constructor
      · exact fun large => ⟨number, made, large⟩
      · rintro ⟨other, known, large⟩
        cases made.symm.trans known
        exact large
    | _ =>
      have refused : ∃ cause, (Value.moment counted).toFloat = .error (.mistyped cause) := by
        unfold toFloat
        dsimp only
        rw [made]
        exact ⟨_, rfl⟩
      obtain ⟨cause, known⟩ := refused
      rw [escapes_toMeasure_of_refused known (Or.inl ⟨_, rfl⟩)]
      refine iff_of_false ?_ ?_
      · rintro ⟨number, shows, -⟩
        cases shows
      · rintro ⟨number, whole, -⟩
        cases made.symm.trans whole
  | array grid =>
    refine iff_of_false ?_ id
    have cases : (∃ number, (Value.array grid).toFloat = .ok number) ∨
        (Value.array grid).toFloat = .error (.mistyped .numberOfArray) := grid.toFloat_cases
    obtain ⟨number, read⟩ | refused := cases
    · exact not_escapes_toMeasure_of_ok read
    · rw [escapes_toMeasure_of_refused refused (Or.inl ⟨_, rfl⟩)]
      rintro ⟨number, shows, -⟩
      cases shows
  | list | tuple | mapping | table => exact escapes_toMeasure_of_refused rfl (Or.inl ⟨_, rfl⟩)
  | _ =>
    refine (escapes_toMeasure_of_refused rfl (Or.inl ⟨_, rfl⟩)).trans (iff_of_false ?_ id)
    rintro ⟨number, shows, -⟩
    cases shows

end Value

/-! ### Points -/

/-- A time and a value end the making of a point with a fault that is none of the data. The value
counts only after a time that can be read. -/
def BreaksPoint (timestamp value : Value) : Prop :=
  timestamp.BreaksTime ∨ (∃ seconds, timestamp.epochSeconds = .ok seconds) ∧ value.BreaksMeasure

theorem escapes_ofValues_iff (timestamp value : Value) :
    Escapes (Point.ofValues timestamp value) ↔ BreaksPoint timestamp value := by
  unfold Point.ofValues BreaksPoint
  rw [escapes_bind_iff, Value.escapes_epochSeconds_iff, ← Value.escapes_toMeasure_iff,
    ← exists_and_right]
  refine or_congr_right (exists_congr fun seconds => and_congr_right fun _ => ?_)
  exact escapes_map_iff (Point.mk seconds) value.toMeasure

/-! ### Records -/

/-- The time and the value that a record holds. -/
def timeAndValue? (keys : RecordKeys) : Value → Option (Value × Value)
  | .mapping entries =>
    match Value.entry? entries (.text keys.time), Value.entry? entries (.text keys.value) with
    | some timestamp, some value => some (timestamp, value)
    | _, _ => none
  | .list [timestamp, value] | .tuple [timestamp, value] => some (timestamp, value)
  | _ => none

/-- The record holds a time and a value that end the making of a point with a fault that is none of
the data. -/
def BreaksRecord (keys : RecordKeys) (record : Value) : Prop :=
  ∃ timestamp value, timeAndValue? keys record = some (timestamp, value) ∧
    BreaksPoint timestamp value

/-- A record is a point, or holds what is made one, or is refused as a fault in the data. -/
theorem pointOfRecord_cases (keys : RecordKeys) (record : Value) :
    (∃ point, record = .point point) ∨
    (∃ timestamp value, timeAndValue? keys record = some (timestamp, value) ∧
      ∀ index, pointOfRecord keys index record = pointAt index timestamp value) ∨
    timeAndValue? keys record = none ∧
      ∀ index, ∃ cause, pointOfRecord keys index record = .error (.data cause) := by
  cases record with
  | point point => exact Or.inl ⟨point, rfl⟩
  | mapping entries =>
    refine Or.inr ?_
    unfold timeAndValue? pointOfRecord
    dsimp only
    cases Value.entry? entries (.text keys.time) with
    | none => exact Or.inr ⟨rfl, fun _ => ⟨_, rfl⟩⟩
    | some timestamp =>
      cases Value.entry? entries (.text keys.value) with
      | none => exact Or.inr ⟨rfl, fun _ => ⟨_, rfl⟩⟩
      | some value => exact Or.inl ⟨timestamp, value, rfl, fun _ => rfl⟩
  | list items | tuple items =>
    match items with
    | [timestamp, value] => exact Or.inr (Or.inl ⟨timestamp, value, rfl, fun _ => rfl⟩)
    | [] | [_] | _ :: _ :: _ :: _ => exact Or.inr (Or.inr ⟨rfl, fun _ => ⟨_, rfl⟩⟩)
  | _ => exact Or.inr (Or.inr ⟨rfl, fun _ => ⟨_, rfl⟩⟩)

theorem escapes_pointOfRecord_iff (keys : RecordKeys) (index : Nat) (record : Value) :
    Escapes (pointOfRecord keys index record) ↔ BreaksRecord keys record := by
  obtain ⟨point, rfl⟩ | ⟨timestamp, value, held, made⟩ | ⟨held, refused⟩ :=
    pointOfRecord_cases keys record
  · refine iff_of_false (not_escapes_ok point) ?_
    rintro ⟨_, _, impossible, -⟩
    cases impossible
  · rw [made, pointAt, escapes_inRecord_iff, escapes_ofValues_iff]
    constructor
    · exact fun breaks => ⟨timestamp, value, held, breaks⟩
    · rintro ⟨_, _, same, breaks⟩
      cases held.symm.trans same
      exact breaks
  · obtain ⟨cause, refused⟩ := refused index
    rw [refused]
    refine iff_of_false (not_escapes_data cause) ?_
    rintro ⟨_, _, same, -⟩
    cases held.symm.trans same

/-! ### Rows of records -/

/-- The record holds a point. -/
def HoldsPoint (keys : RecordKeys) (record : Value) : Prop :=
  ∃ index point, pointOfRecord keys index record = .ok point

/-- After records that hold points there is one that ends the reading with a fault that is none of
the data. -/
def BreaksRecords (keys : RecordKeys) (records : List Value) : Prop :=
  ∃ before record after, records = before ++ record :: after ∧
    (∀ earlier ∈ before, HoldsPoint keys earlier) ∧ BreaksRecord keys record

/-- Whether a record holds a point does not depend on its number. -/
theorem HoldsPoint.exists_point {keys : RecordKeys} {record : Value}
    (holds : HoldsPoint keys record) (index : Nat) : ∃ point, pointOfRecord keys index record = .ok point := by
  obtain ⟨first, point, known⟩ := holds
  obtain ⟨same, rfl⟩ | ⟨timestamp, value, -, made⟩ | ⟨-, refused⟩ := pointOfRecord_cases keys record
  · exact ⟨same, rfl⟩
  · rw [made] at known ⊢
    unfold pointAt at known ⊢
    cases outcome : Point.ofValues timestamp value with
    | ok same => exact ⟨same, rfl⟩
    | error fault =>
      rw [outcome] at known
      cases known
  · obtain ⟨cause, refused⟩ := refused first
    cases known.symm.trans refused

theorem breaksRecords_cons_iff (keys : RecordKeys) (record : Value) (rest : List Value) :
    BreaksRecords keys (record :: rest) ↔
      BreaksRecord keys record ∨ HoldsPoint keys record ∧ BreaksRecords keys rest := by
  constructor
  · rintro ⟨before, breaking, after, same, holds, breaks⟩
    cases before with
    | nil =>
      cases same
      exact Or.inl breaks
    | cons first before =>
      cases same
      obtain ⟨first, others⟩ := List.forall_mem_cons.mp holds
      exact Or.inr ⟨first, before, breaking, after, rfl, others, breaks⟩
  · rintro (breaks | ⟨first, before, breaking, after, rfl, others, breaks⟩)
    · exact ⟨[], record, rest, rfl, by simp, breaks⟩
    · exact ⟨record :: before, breaking, after, rfl, List.forall_mem_cons.mpr ⟨first, others⟩,
        breaks⟩

/-- The induction is on the records: the first one decides, or holds a point and leaves the decision
to the others. -/
theorem escapes_pointsOfRecords_iff (keys : RecordKeys) (records : List Value) (index : Nat) :
    Escapes (pointsOfRecords keys index records) ↔ BreaksRecords keys records := by
  induction records generalizing index with
  | nil =>
    refine iff_of_false (not_escapes_ok _) ?_
    rintro ⟨before, record, after, impossible, -⟩
    simp at impossible
  | cons record rest inductionHypothesis =>
    rw [breaksRecords_cons_iff, ← inductionHypothesis (index + 1),
      ← escapes_pointOfRecord_iff keys index]
    show Escapes (pointOfRecord keys index record >>= fun point =>
      (pointsOfRecords keys (index + 1) rest).map (point :: ·)) ↔ _
    rw [escapes_bind_iff]
    refine or_congr_right ?_
    constructor
    · rintro ⟨point, known, escapes⟩
      exact ⟨⟨index, point, known⟩, (escapes_map_iff _ _).mp escapes⟩
    · rintro ⟨holds, escapes⟩
      obtain ⟨point, known⟩ := holds.exists_point index
      exact ⟨point, known, (escapes_map_iff _ _).mpr escapes⟩

/-! ### Tables -/

/-- The columns are equally long, as those of every table are. -/
def AreEquallyLong (columns : List (String × List Value)) : Prop :=
  ∀ first ∈ columns, ∀ second ∈ columns, first.2.length = second.2.length

theorem refuses_checkLengths (columns : List (String × List Value)) :
    Refuses IsForeign (checkLengths columns) (¬AreEquallyLong columns) := by
  cases columns with
  | nil => exact .of_not (not_not.mpr nofun)
  | cons first rest =>
    have same : (rest.all (·.2.length = first.2.length)) = true ↔
        AreEquallyLong (first :: rest) := by
      simp only [List.all_eq_true, decide_eq_true_eq, AreEquallyLong, List.forall_mem_cons]
      constructor
      · refine fun equal => ⟨⟨trivial, fun other known => (equal other known).symm⟩,
          fun other known => ⟨equal other known, fun another alsoKnown => ?_⟩⟩
        rw [equal other known, equal another alsoKnown]
      · exact fun equal other known => (equal.2 other known).1
    show Refuses _ (if _ then _ else _) _
    rw [← same]
    split
    · exact .of_not (not_not.mpr ‹_›)
    · exact ⟨fun equal => absurd ‹_› equal, fun _ => escapes_of_ne nofun⟩

/-- The cell is a stamp whose clock shows a year that is out of use. -/
def IsOutOfYears (cell : Value) : Prop :=
  ∃ stamp, cell = .stamp (some stamp) ∧
    ¬(firstYear ≤ stamp.localTime.1.date.year ∧ stamp.localTime.1.date.year ≤ lastYear)

theorem refuses_checkYear (cell : Value) :
    Refuses IsForeign (checkYear cell) (IsOutOfYears cell) := by
  unfold checkYear
  split
  · rename_i stamp
    have self : ¬(firstYear ≤ stamp.localTime.1.date.year ∧
        stamp.localTime.1.date.year ≤ lastYear) ↔ IsOutOfYears (.stamp (some stamp)) := by
      constructor
      · exact fun out => ⟨stamp, rfl, out⟩
      · rintro ⟨_, same, out⟩
        cases same
        exact out
    refine Refuses.congr ?_ self
    dsimp only
    split
    · rename_i within
      exact .of_not (not_not.mpr (by simpa using within))
    · rename_i out
      exact ⟨fun within => absurd (by simpa using within) out, fun _ => escapes_of_ne nofun⟩
  · rename_i other
    refine .of_not ?_
    rintro ⟨stamp, same, -⟩
    exact other stamp same

section Columns

variable {columns : List (String × List Value)} {key : String}

/-- Of the columns of a name there are several or just one. -/
theorem several_or_single (known : columnsNamed columns key ≠ []) :
    2 ≤ (columnsNamed columns key).length ∨ ∃ cells, columnsNamed columns key = [cells] := by
  match named : columnsNamed columns key with
  | [] => exact absurd named known
  | [cells] => exact Or.inr ⟨cells, rfl⟩
  | _ :: _ :: rest => exact Or.inl (Nat.le_add_left 2 rest.length)

/-- Without a column of the name the table is called wrong, which is a fault of the data. -/
theorem escapes_checkColumn_bind_iff {Result : Type} (next : Except Fault Result) :
    Escapes (checkColumn columns key >>= fun _ => next) ↔
      columnsNamed columns key ≠ [] ∧ Escapes next := by
  unfold checkColumn
  split
  · exact iff_of_false (not_escapes_data _) fun both => both.1 ‹_›
  · exact (and_iff_right ‹_›).symm

theorem escapes_cellsAt_bind_iff {Result : Type} (known : columnsNamed columns key ≠ [])
    (next : List Value → Except Fault Result) :
    Escapes (cellsAt columns key >>= next) ↔
      2 ≤ (columnsNamed columns key).length ∨ ∃ cells, columnsNamed columns key = [cells] ∧
        ((∃ cell ∈ cells, IsOutOfYears cell) ∨ Escapes (next cells)) := by
  unfold cellsAt
  obtain several | ⟨cells, single⟩ := several_or_single known
  · split
    · rename_i cells single
      rw [single] at several
      exact absurd several (Nat.not_succ_le_self 1)
    · exact iff_of_true (escapes_of_ne nofun) (Or.inl several)
  · rw [single]
    show Escapes ((cells.forM checkYear >>= fun _ => pure cells) >>= next) ↔ _
    rw [bind_assoc]
    have years : Refuses IsForeign (cells.forM checkYear) (∃ cell ∈ cells, IsOutOfYears cell) :=
      Refuses.forM fun cell _ => refuses_checkYear cell
    refine (years.fails_bind_iff (next cells)).trans ?_
    constructor
    · exact fun breaks => Or.inr ⟨cells, rfl, breaks⟩
    · rintro (several | ⟨_, same, breaks⟩)
      · exact absurd several (Nat.not_succ_le_self 1)
      · cases same
        exact breaks

end Columns

/-- The rows of two columns. -/
def rowsOfColumns (times values : List Value) : List Value :=
  List.zipWith (fun time value => .tuple [time, value]) times values

/-- The columns are not equally long; or there are columns of both keys, and a key has several of
them, a stamp in the two columns is out of the years in use, or their rows end the reading with a
fault that is none of the data. -/
def BreaksTable (keys : RecordKeys) (columns : List (String × List Value)) : Prop :=
  ¬AreEquallyLong columns ∨
    columnsNamed columns keys.time ≠ [] ∧ columnsNamed columns keys.value ≠ [] ∧
      (2 ≤ (columnsNamed columns keys.time).length ∨
        2 ≤ (columnsNamed columns keys.value).length ∨
        ∃ times values, columnsNamed columns keys.time = [times] ∧
          columnsNamed columns keys.value = [values] ∧
            ((∃ cell ∈ times, IsOutOfYears cell) ∨ (∃ cell ∈ values, IsOutOfYears cell) ∨
              BreaksRecords keys (rowsOfColumns times values)))

theorem escapes_pointsOfTable_iff (keys : RecordKeys) (columns : List (String × List Value)) :
    Escapes (pointsOfTable keys columns) ↔ BreaksTable keys columns := by
  unfold pointsOfTable BreaksTable
  refine ((refuses_checkLengths columns).fails_bind_iff _).trans ?_
  change _ ∨ Escapes _ ↔ _
  rw [escapes_checkColumn_bind_iff, escapes_checkColumn_bind_iff]
  refine or_congr_right (and_congr_right fun hasTimes => and_congr_right fun hasValues => ?_)
  show Escapes (cellsAt columns keys.time >>= fun times => cellsAt columns keys.value >>=
    fun values => pointsOfRecords keys 0 (rowsOfColumns times values)) ↔ _
  rw [escapes_cellsAt_bind_iff hasTimes]
  simp only [escapes_cellsAt_bind_iff hasValues, escapes_pointsOfRecords_iff]
  -- The times are looked at first, but a name with several columns is at fault in either place.
  constructor
  · rintro (several | ⟨times, areTimes, out | several | ⟨values, areValues, breaks⟩⟩)
    · exact Or.inl several
    · obtain several | ⟨values, areValues⟩ := several_or_single hasValues
      · exact Or.inr (Or.inl several)
      · exact Or.inr (Or.inr ⟨times, values, areTimes, areValues, Or.inl out⟩)
    · exact Or.inr (Or.inl several)
    · exact Or.inr (Or.inr ⟨times, values, areTimes, areValues, Or.inr breaks⟩)
  · rintro (several | several | ⟨times, values, areTimes, areValues, out | breaks⟩)
    · exact Or.inl several
    · obtain severalTimes | ⟨times, areTimes⟩ := several_or_single hasTimes
      · exact Or.inl severalTimes
      · exact Or.inr ⟨times, areTimes, Or.inr (Or.inl several)⟩
    · exact Or.inr ⟨times, areTimes, Or.inl out⟩
    · exact Or.inr ⟨times, areTimes, Or.inr (Or.inr ⟨values, areValues, breaks⟩)⟩

/-! ### Data -/

/-- The data end the reading with a fault that is none of the data. An array without directions has
no records to walk through. -/
def BreaksData (keys : RecordKeys) : Value → Prop
  | .table columns => BreaksTable keys columns
  | .list records | .tuple records | .iterator records => BreaksRecords keys records
  | .array grid => grid.shape = []
  | _ => False

/-- The rows of an array are no records. -/
theorem not_breaksRecords_of_rowsOf (keys : RecordKeys) {grid : Grid} {records : List Value}
    (given : Value.rowsOf grid = .ok records) : ¬BreaksRecords keys records := by
  rintro ⟨before, record, after, rfl, -, timestamp, value, held, -⟩
  unfold Value.rowsOf at given
  split at given
  · cases given
  · have known : record ∈ before ++ record :: after := List.mem_append_right before List.mem_cons_self
    rw [← Except.ok.inj given] at known
    obtain ⟨row, -, rfl⟩ := List.mem_map.mp known
    split at held <;> cases held

theorem escapes_rowsOf_iff (grid : Grid) : Escapes (Value.rowsOf grid) ↔ grid.shape = [] := by
  unfold Value.rowsOf
  split
  · exact iff_of_true (escapes_of_ne nofun) ‹_›
  · exact iff_of_false (not_escapes_ok _) ‹_›

theorem escapes_ofData_iff (keys : RecordKeys) (data : Value) :
    Escapes (Series.ofData keys data) ↔ BreaksData keys data := by
  cases data with
  | table columns => exact (escapes_map_iff _ _).trans (escapes_pointsOfTable_iff keys columns)
  | list records | tuple records | iterator records =>
    exact (escapes_map_iff _ _).trans (escapes_pointsOfRecords_iff keys records 0)
  | array grid =>
    refine (escapes_bind_iff _ _).trans ((or_iff_left ?_).trans (escapes_rowsOf_iff grid))
    rintro ⟨records, given, escapes⟩
    rw [escapes_map_iff, escapes_pointsOfRecords_iff] at escapes
    exact not_breaksRecords_of_rowsOf keys given escapes
  | absent | series => exact iff_of_false (not_escapes_ok _) id
  | _ => exact iff_of_false (not_escapes_data _) id

/-- Just what is said to break a time, a value, a point, a record or the data ends its reading with
a fault that is none of the data. -/
theorem reading_escapes_iff (keys : RecordKeys) :
    (∀ time : Value, Escapes time.epochSeconds ↔ time.BreaksTime) ∧
    (∀ value : Value, Escapes value.toMeasure ↔ value.BreaksMeasure) ∧
    (∀ time value, Escapes (Point.ofValues time value) ↔ BreaksPoint time value) ∧
    (∀ index record, Escapes (pointOfRecord keys index record) ↔ BreaksRecord keys record) ∧
    ∀ data, Escapes (Series.ofData keys data) ↔ BreaksData keys data :=
  ⟨Value.escapes_epochSeconds_iff, Value.escapes_toMeasure_iff, escapes_ofValues_iff,
    escapes_pointOfRecord_iff keys, escapes_ofData_iff keys⟩

/-- A table with an unknown stamp as a time ends the reading with a fault that is none of the
data. -/
theorem unknown_stamp_escapes :
    Escapes (Series.ofData {} (.table [("date", [.stamp none]), ("value", [.int 1])])) :=
  ⟨.invalid .unknownTimestamp, rfl, nofun⟩

end SeriesChart
