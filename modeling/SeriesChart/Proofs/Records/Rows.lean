/-
This file says what the records of a chart are read as. Each record is a point or holds a time and a
value that are made one, whatever form it has and whatever number; the points stand in the order of
the records, and the first record that holds no point decides the fault, which tells its number when
it is one of the data.
-/

import SeriesChart.Proofs.Records.Escapes

namespace SeriesChart

/-! ### Records on their own -/

/-- The record is the point, or holds a time and a value that are made the point. -/
inductive IsPointOf (keys : RecordKeys) : Value → Point → Prop
  | self (point : Point) : IsPointOf keys (.point point) point
  | made {record timestamp value : Value} {point : Point}
    (held : timeAndValue? keys record = some (timestamp, value))
    (made : Point.ofValues timestamp value = .ok point) : IsPointOf keys record point

theorem pointAt_eq_ok_iff {index : Nat} {timestamp value : Value} {point : Point} :
    pointAt index timestamp value = .ok point ↔ Point.ofValues timestamp value = .ok point := by
  unfold pointAt
  cases Point.ofValues timestamp value with
  | ok made => exact Iff.rfl
  | error fault => exact iff_of_false nofun nofun

theorem pointOfRecord_eq_ok_iff {keys : RecordKeys} {index : Nat} {record : Value} {point : Point} :
    pointOfRecord keys index record = .ok point ↔ IsPointOf keys record point := by
  obtain ⟨same, rfl⟩ | ⟨timestamp, value, held, made⟩ | ⟨held, refused⟩ :=
    pointOfRecord_cases keys record
  · constructor
    · intro known
      cases known
      exact .self point
    · rintro (_ | ⟨impossible, -⟩)
      · rfl
      · cases impossible
  · rw [made, pointAt_eq_ok_iff]
    constructor
    · exact .made held
    · rintro (_ | ⟨same, made⟩)
      · cases held
      · cases held.symm.trans same
        exact made
  · obtain ⟨cause, refused⟩ := refused index
    rw [refused]
    refine iff_of_false nofun ?_
    rintro (_ | ⟨same, -⟩)
    · cases refused
    · cases held.symm.trans same

/-- The wording begins with the number of the record. -/
def DataCause.Names (cause : DataCause) (index : Nat) : Prop :=
  ∃ rest, cause.message = "record " ++ toString index ++ " " ++ rest ∨
    cause.message = "record " ++ toString index ++ ": " ++ rest

section Wording

variable (index : Nat)

theorem names_missingKey (timeKey valueKey : String) :
    (DataCause.missingKey index timeKey valueKey).Names index := by
  refine ⟨"is missing `" ++ timeKey ++ "` or `" ++ valueKey ++ "`", Or.inl ?_⟩
  show "record " ++ toString index ++ (" " ++ "is missing `") ++ timeKey ++ "` or `" ++ valueKey ++
    "`" = _
  simp only [String.append_assoc]

theorem names_notAPair : (DataCause.notAPair index).Names index := by
  refine ⟨"must be a (timestamp, value) pair", Or.inl ?_⟩
  show "record " ++ toString index ++ (" " ++ "must be a (timestamp, value) pair") = _
  simp only [String.append_assoc]

theorem names_unsupportedRecord (typeText : String) :
    (DataCause.unsupportedRecord index typeText).Names index := by
  refine ⟨"has unsupported type: " ++ typeText, Or.inl ?_⟩
  show "record " ++ toString index ++ (" " ++ "has unsupported type: ") ++ typeText = _
  simp only [String.append_assoc]

theorem names_inRecord (cause : DataCause) : (DataCause.inRecord index cause).Names index :=
  ⟨cause.message, Or.inr rfl⟩

end Wording

theorem names_of_pointAt {index : Nat} {timestamp value : Value} {cause : DataCause}
    (refused : pointAt index timestamp value = .error (.data cause)) : cause.Names index := by
  unfold pointAt at refused
  cases outcome : Point.ofValues timestamp value with
  | ok point =>
    rw [outcome] at refused
    cases refused
  | error fault =>
    rw [outcome] at refused
    cases fault with
    | data inner =>
      cases refused
      exact names_inRecord index inner
    | _ => cases refused

/-- A fault of the data in a record tells the number of the record. -/
theorem names_of_pointOfRecord {keys : RecordKeys} {index : Nat} {record : Value} {cause : DataCause}
    (refused : pointOfRecord keys index record = .error (.data cause)) : cause.Names index := by
  cases record with
  | point point => cases refused
  | mapping entries =>
    unfold pointOfRecord at refused
    dsimp only at refused
    split at refused
    · exact names_of_pointAt refused
    · cases refused
      exact names_missingKey index keys.time keys.value
  | list items | tuple items =>
    match items with
    | [timestamp, value] => exact names_of_pointAt refused
    | [] | [_] | _ :: _ :: _ :: _ =>
      cases refused
      exact names_notAPair index
  | _ =>
    cases refused
    exact names_unsupportedRecord index _

/-! ### Records in a row -/

/-- The record of the given place is the first one that holds no point, and this is its fault; the
records are counted from a number on. -/
structure FailsAt (keys : RecordKeys) (start : Nat) (records : List Value) (place : Nat)
    (fault : Fault) : Prop where
  earlier : ∀ record ∈ records.take place, ∃ point, IsPointOf keys record point
  refused : ∃ record, records[place]? = some record ∧
    pointOfRecord keys (start + place) record = .error fault

theorem failsAt_zero_iff (keys : RecordKeys) (start : Nat) (record : Value) (rest : List Value)
    (fault : Fault) : FailsAt keys start (record :: rest) 0 fault ↔
      pointOfRecord keys start record = .error fault := by
  constructor
  · rintro ⟨-, _, same, refused⟩
    cases same
    exact refused
  · exact fun refused => ⟨List.forall_mem_nil _, record, rfl, refused⟩

theorem failsAt_succ_iff (keys : RecordKeys) (start : Nat) (record : Value) (rest : List Value)
    (place : Nat) (fault : Fault) : FailsAt keys start (record :: rest) (place + 1) fault ↔
      (∃ point, IsPointOf keys record point) ∧ FailsAt keys (start + 1) rest place fault := by
  have number : start + 1 + place = start + (place + 1) := by omega
  constructor
  · rintro ⟨earlier, failing, same, refused⟩
    obtain ⟨first, others⟩ := List.forall_mem_cons.mp earlier
    exact ⟨first, others, failing, same, number ▸ refused⟩
  · rintro ⟨first, others, failing, same, refused⟩
    exact ⟨List.forall_mem_cons.mpr ⟨first, others⟩, failing, same, number ▸ refused⟩

theorem exists_failsAt_cons_iff (keys : RecordKeys) (start : Nat) (record : Value)
    (rest : List Value) (fault : Fault) :
    (∃ place, FailsAt keys start (record :: rest) place fault) ↔
      pointOfRecord keys start record = .error fault ∨
        (∃ point, IsPointOf keys record point) ∧
          ∃ place, FailsAt keys (start + 1) rest place fault := by
  rw [← Nat.or_exists_add_one, failsAt_zero_iff]
  simp only [failsAt_succ_iff, exists_and_left]

section Rows

variable {keys : RecordKeys} {index : Nat} {records : List Value}

theorem pointsOfRecords_cons (keys : RecordKeys) (index : Nat) (record : Value) (rest : List Value) :
    pointsOfRecords keys index (record :: rest) = pointOfRecord keys index record >>= fun point =>
      (pointsOfRecords keys (index + 1) rest).map (point :: ·) := rfl

theorem pointsOfRecords_eq_ok_iff {points : List Point} :
    pointsOfRecords keys index records = .ok points ↔
      List.Forall₂ (IsPointOf keys) records points := by
  induction records generalizing index points with
  | nil =>
    rw [List.forall₂_nil_left_iff]
    exact ⟨fun same => (Except.ok.inj same).symm, fun same => congrArg Except.ok same.symm⟩
  | cons record rest inductionHypothesis =>
    rw [pointsOfRecords_cons, List.forall₂_cons_left_iff]
    constructor
    · intro read
      obtain ⟨point, made, read⟩ := except_bind_eq_ok read
      obtain ⟨further, others, rfl⟩ := except_map_eq_ok_iff.mp read
      exact ⟨point, further, pointOfRecord_eq_ok_iff.mp made, inductionHypothesis.mp others, rfl⟩
    · rintro ⟨point, further, made, others, rfl⟩
      rw [pointOfRecord_eq_ok_iff.mpr made]
      exact except_map_eq_ok_iff.mpr ⟨further, inductionHypothesis.mpr others, rfl⟩

theorem pointsOfRecords_eq_error_iff {fault : Fault} :
    pointsOfRecords keys index records = .error fault ↔
      ∃ place, FailsAt keys index records place fault := by
  induction records generalizing index with
  | nil =>
    refine iff_of_false nofun ?_
    rintro ⟨place, -, record, impossible, -⟩
    cases impossible
  | cons record rest inductionHypothesis =>
    rw [exists_failsAt_cons_iff, pointsOfRecords_cons, ← inductionHypothesis]
    cases made : pointOfRecord keys index record with
    | ok point =>
      have known : ∃ point, IsPointOf keys record point := ⟨point, pointOfRecord_eq_ok_iff.mp made⟩
      rw [or_iff_right nofun, and_iff_right known]
      exact except_map_eq_error_iff
    | error first =>
      have none : ¬∃ point, IsPointOf keys record point := by
        rintro ⟨point, known⟩
        cases made.symm.trans (pointOfRecord_eq_ok_iff.mpr known)
      rw [or_iff_left fun both => none both.1]
      show (Except.error first : Except Fault (List Point)) = .error fault ↔ _
      rw [Except.error.injEq, Except.error.injEq]

theorem exists_points_iff : (∃ points, List.Forall₂ (IsPointOf keys) records points) ↔
    ∀ record ∈ records, ∃ point, IsPointOf keys record point := by
  induction records with
  | nil => exact iff_of_true ⟨[], .nil⟩ (List.forall_mem_nil _)
  | cons record rest inductionHypothesis =>
    rw [List.forall_mem_cons, ← inductionHypothesis]
    constructor
    · rintro ⟨_, _ | ⟨first, others⟩⟩
      exact ⟨⟨_, first⟩, _, others⟩
    · rintro ⟨⟨point, first⟩, points, others⟩
      exact ⟨point :: points, .cons first others⟩

end Rows

/-! ### Forms of records -/

/-- The record holds the time and the value: as a pair, as a list of two, or as a mapping that has
them under the two keys, whatever else it has. -/
inductive Carries (keys : RecordKeys) (timestamp value : Value) : Value → Prop
  | pair : Carries keys timestamp value (.tuple [timestamp, value])
  | list : Carries keys timestamp value (.list [timestamp, value])
  | mapping {entries : List (Value × Value)}
    (time : Value.entry? entries (.text keys.time) = some timestamp)
    (measure : Value.entry? entries (.text keys.value) = some value) :
    Carries keys timestamp value (.mapping entries)

/-- The second record is the first one, maybe in another form. -/
inductive Reshapes (keys : RecordKeys) : Value → Value → Prop
  | same (record : Value) : Reshapes keys record record
  | other {timestamp value record other : Value} (first : Carries keys timestamp value record)
    (second : Carries keys timestamp value other) : Reshapes keys record other

section Forms

variable {keys : RecordKeys} {index : Nat}

theorem entry?_cons_of_ne {key other : String} (distinct : other ≠ key) (value : Value)
    (entries : List (Value × Value)) :
    Value.entry? ((.text other, value) :: entries) (.text key) =
      Value.entry? entries (.text key) := by
  unfold Value.entry?
  rw [List.find?_cons_of_neg (by simpa [Value.equals] using distinct)]

theorem entry?_cons_self (key : String) (value : Value) (entries : List (Value × Value)) :
    Value.entry? ((.text key, value) :: entries) (.text key) = some value := by
  unfold Value.entry?
  rw [List.find?_cons_of_pos (by simp [Value.equals])]
  rfl

/-- Under two keys a mapping can have any time and any value. -/
theorem Carries.keyed (distinct : keys.time ≠ keys.value) (timestamp value : Value)
    (extra : List (Value × Value)) : Carries keys timestamp value
      (.mapping ((.text keys.time, timestamp) :: (.text keys.value, value) :: extra)) := by
  refine .mapping (entry?_cons_self _ _ _) ?_
  rw [entry?_cons_of_ne distinct, entry?_cons_self]

theorem Carries.pointOfRecord_eq {timestamp value record : Value}
    (carries : Carries keys timestamp value record) :
    pointOfRecord keys index record = pointAt index timestamp value := by
  cases carries with
  | pair | list => rfl
  | mapping time measure =>
    unfold pointOfRecord
    dsimp only
    rw [time, measure]

theorem Reshapes.pointOfRecord_eq {record other : Value} (reshapes : Reshapes keys record other) :
    pointOfRecord keys index record = pointOfRecord keys index other := by
  cases reshapes with
  | same => rfl
  | other first second => rw [first.pointOfRecord_eq, second.pointOfRecord_eq]

theorem pointsOfRecords_reshaped {records others : List Value}
    (reshaped : List.Forall₂ (Reshapes keys) records others) :
    pointsOfRecords keys index records = pointsOfRecords keys index others := by
  induction reshaped generalizing index with
  | nil => rfl
  | cons first _ inductionHypothesis =>
    rw [pointsOfRecords_cons, pointsOfRecords_cons, first.pointOfRecord_eq, inductionHypothesis]

theorem pointsOfRecords_points (points : List Point) :
    pointsOfRecords keys index (points.map .point) = .ok points := by
  rw [pointsOfRecords_eq_ok_iff, List.forall₂_map_left_iff, List.forall₂_same]
  exact fun point _ => .self point

end Forms

/-! ### Data -/

/-- The data are the records in order, as a list, a tuple or an iterator. -/
inductive Holds (records : List Value) : Value → Prop
  | list : Holds records (.list records)
  | tuple : Holds records (.tuple records)
  | iterator : Holds records (.iterator records)

theorem Holds.ofData_eq {records : List Value} {data : Value} (holds : Holds records data)
    (keys : RecordKeys) :
    Series.ofData keys data = (pointsOfRecords keys 0 records).map Series.mk := by
  cases holds <;> rfl

/-- What records are read as: a point of every record, in their order, with the times and the values
beside them; or else the fault of the first record that holds no point, which tells its number. The
forms of the records do not count, and the points that were read are read again as they are. -/
structure ReadsInOrder (keys : RecordKeys) (records : List Value) (outcome : Except Fault Series) :
    Prop where
  exists_iff : (∃ series, outcome = .ok series) ↔
    ∀ record ∈ records, ∃ point, IsPointOf keys record point
  eq_ok_iff : ∀ series, outcome = .ok series ↔
    List.Forall₂ (IsPointOf keys) records series.points
  aligned : ∀ series, outcome = .ok series → series.points.length = records.length ∧
    series.timestamps.length = records.length ∧ series.values.length = records.length ∧
      ∀ (place : Nat) (point : Point), series.points[place]? = some point →
        series.timestamps[place]? = some point.timestamp ∧ series.values[place]? = some point.value
  eq_error_iff : ∀ fault, outcome = .error fault ↔ ∃ place, FailsAt keys 0 records place fault
  names : ∀ place cause, FailsAt keys 0 records place (.data cause) → cause.Names place
  reshaped : ∀ others data, List.Forall₂ (Reshapes keys) records others → Holds others data →
    Series.ofData keys data = outcome
  keyed : keys.time ≠ keys.value → ∀ timestamp value extra, Reshapes keys (.tuple [timestamp, value])
    (.mapping ((.text keys.time, timestamp) :: (.text keys.value, value) :: extra))
  again : ∀ series, outcome = .ok series → ∀ otherKeys data,
    Holds (series.points.map .point) data ∨ data = .series series →
      Series.ofData otherKeys data = .ok series

section Data

variable {keys : RecordKeys} {records : List Value} {series : Series} {data : Value}

theorem ofData_eq_ok_iff (holds : Holds records data) : Series.ofData keys data = .ok series ↔
    List.Forall₂ (IsPointOf keys) records series.points := by
  obtain ⟨points⟩ := series
  simp only [holds.ofData_eq, except_map_eq_ok_iff, Series.mk.injEq, exists_eq_right]
  exact pointsOfRecords_eq_ok_iff

theorem ofData_eq_error_iff (holds : Holds records data) (fault : Fault) :
    Series.ofData keys data = .error fault ↔ ∃ place, FailsAt keys 0 records place fault := by
  rw [holds.ofData_eq, except_map_eq_error_iff, pointsOfRecords_eq_error_iff]

theorem FailsAt.names {place : Nat} {cause : DataCause}
    (fails : FailsAt keys 0 records place (.data cause)) : cause.Names place := by
  obtain ⟨record, -, refused⟩ := fails.refused
  rw [Nat.zero_add] at refused
  exact names_of_pointOfRecord refused

theorem ofData_points (holds : Holds (series.points.map .point) data) (keys : RecordKeys) :
    Series.ofData keys data = .ok series := by
  rw [holds.ofData_eq, pointsOfRecords_points]
  rfl

/-- Records are read in order, whatever holds them. -/
theorem readsInOrder_of_holds (holds : Holds records data) :
    ReadsInOrder keys records (Series.ofData keys data) where
  exists_iff := by
    rw [← exists_points_iff]
    constructor
    · rintro ⟨series, read⟩
      exact ⟨series.points, (ofData_eq_ok_iff holds).mp read⟩
    · rintro ⟨points, made⟩
      exact ⟨⟨points⟩, (ofData_eq_ok_iff holds).mpr made⟩
  eq_ok_iff _ := ofData_eq_ok_iff holds
  aligned series read := by
    have length : records.length = series.length :=
      ((ofData_eq_ok_iff holds).mp read).length_eq
    refine ⟨length.symm, ?_, ?_, fun place point known => ?_⟩
    · rw [Series.length_timestamps, length]
    · rw [Series.length_values, length]
    · unfold Series.timestamps Series.values
      rw [List.getElem?_map, List.getElem?_map, known]
      exact ⟨rfl, rfl⟩
  eq_error_iff := ofData_eq_error_iff holds
  names _ _ fails := fails.names
  reshaped _ _ reshaped alsoHolds := by
    rw [holds.ofData_eq, alsoHolds.ofData_eq, pointsOfRecords_reshaped reshaped]
  keyed distinct _ _ extra := .other .pair (.keyed distinct _ _ extra)
  again _ _ _ data read := by
    obtain alsoHolds | rfl := read
    · exact ofData_points alsoHolds _
    · rfl

end Data

/-- A number that comes after a pair is refused as the record with the number one. -/
theorem failsAt_number_after_pair : ∃ place, FailsAt {} 0 [.tuple [.int 1, .int 2], .int 3] place
    (.data (.unsupportedRecord 1 "<class 'int'>")) := by
  have refused : Series.ofData {} (.iterator [.tuple [.int 1, .int 2], .int 3]) =
      .error (.data (.unsupportedRecord 1 "<class 'int'>")) := by decide +kernel
  exact ((readsInOrder_of_holds .iterator).eq_error_iff _).mp refused

end SeriesChart
