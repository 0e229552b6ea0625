/-
This file writes values as messages and labels show them. The shown form of a value tells
its kind: texts stand between quotes, tuples in round brackets, and numbers and times that
are not the plain ones name their type. The plain form of a value is what a label is made
of; it differs from the shown form for texts, exact decimals and times.
-/

import SeriesChart.Value.TableText

namespace SeriesChart

open Calendar

/-! ### Points -/

/-- A point with the names of its fields. -/
def Point.shown (point : Point) : String :=
  "DataPoint(timestamp=" ++ Binary.text point.timestamp ++ ", value=" ++
    Binary.text point.value ++ ")"

/-- Members between brackets; a tuple of one member keeps its comma. -/
def tupleShown (members : List String) : String :=
  match members with
  | [member] => "(" ++ member ++ ",)"
  | members => "(" ++ ", ".intercalate members ++ ")"

/-- A series with its points. -/
def Series.shown (series : Series) : String :=
  "Series(points=" ++ tupleShown (series.points.map Point.shown) ++ ")"

/-! ### Values -/

namespace Value

/-- A value as a label shows it, given how messages show it. -/
def plainOr (value : Value) (shown : String) : String :=
  match value with
  | .text value => value
  | .decimal value => value.text
  | .dateTime value => dateTimeText value
  | .date value => dateText value
  | .moment value => value.text
  | .word value => toString value
  | .cell value => Binary.text value
  | .stamp (some time) => stampText time ++ (time.offset.map offsetText).getD ""
  | .array grid => grid.plain
  | _ => shown

mutual

/-- A value as messages show it. -/
def shown : Value → String
  | .absent => "None"
  | .bool value => if value then "True" else "False"
  | .int value => toString value
  | .float value => Binary.text value
  | .decimal value => "Decimal('" ++ value.text ++ "')"
  | .dateTime value => dateTimeShown value
  | .date value => s!"datetime.date({value.year}, {value.month}, {value.day})"
  | .moment value => momentShown value
  | .word value => s!"np.int64({value})"
  | .cell value => "np.float64(" ++ Binary.text value ++ ")"
  | .text value => Text.quoted value
  | .bytes value => Text.quotedBytes value
  | .list items => "[" ++ ", ".intercalate (shownAll items) ++ "]"
  | .tuple items => tupleShown (shownAll items)
  | .mapping entries => "\x7b" ++ ", ".intercalate (shownEntries entries) ++ "\x7d"
  | .point value => value.shown
  | .series value => value.shown
  | .thing => "<object object>"
  | .iterator _ => "<list_iterator object>"
  | .array grid => grid.shown
  | .stamp (some time) => stampShown time
  | .stamp none => "NaT"
  | .table columns =>
    tableText ((columns.head?.map (·.2.length)).getD 0) (columns.map (·.1))
      (writtenColumns (shownColumns columns))

/-- The members as messages show them. -/
def shownAll : List Value → List String
  | [] => []
  | item :: rest => shown item :: shownAll rest

/-- The entries as messages show them. -/
def shownEntries : List (Value × Value) → List String
  | [] => []
  | (key, value) :: rest => (shown key ++ ": " ++ shown value) :: shownEntries rest

/-- What is written of the columns of a table. -/
def shownColumns : List (String × List Value) → List TableColumn
  | [] => []
  | (name, cells) :: rest =>
    tableColumn name (writtenRows cells) (writtenRows (List.zipWith plainOr cells (shownAll cells)))
      :: shownColumns rest

end

/-! ### Long numbers -/

mutual

/-- Refuses a value that cannot be shown, since it is or holds a whole number of too many digits.
What is left out of a long table is not looked at. -/
def checkShowable : Value → Except Fault Unit
  | .int value =>
    if tenTo Numeral.digitLimit ≤ value.natAbs then .error (.invalid .tooLongToShow) else .ok ()
  | .list items | .tuple items => (checksOf items).forM id
  | .mapping entries => (checksOfEntries entries).forM id
  | .table columns => (writtenColumns (checksOfColumns columns)).forM id
  | _ => .ok ()

/-- The checks of some values. -/
def checksOf : List Value → List (Except Fault Unit)
  | [] => []
  | item :: rest => checkShowable item :: checksOf rest

/-- The checks of entries: the key of each and then its value. -/
def checksOfEntries : List (Value × Value) → List (Except Fault Unit)
  | [] => []
  | (key, value) :: rest =>
    (do
      checkShowable key
      checkShowable value) :: checksOfEntries rest

/-- The checks of columns: all cells of each that are written. -/
def checksOfColumns : List (String × List Value) → List (Except Fault Unit)
  | [] => []
  | (_, cells) :: rest => (writtenRows (checksOf cells)).forM id :: checksOfColumns rest

end

theorem checksOf_eq_map (items : List Value) : checksOf items = items.map checkShowable := by
  induction items with
  | nil => rfl
  | cons item rest inductionHypothesis => exact congrArg (_ :: ·) inductionHypothesis

theorem checksOfEntries_eq_map (entries : List (Value × Value)) :
    checksOfEntries entries = entries.map fun entry =>
      entry.1.checkShowable >>= fun _ => entry.2.checkShowable := by
  induction entries with
  | nil => rfl
  | cons entry rest inductionHypothesis => exact congrArg (_ :: ·) inductionHypothesis

theorem checksOfColumns_eq_map (columns : List (String × List Value)) :
    checksOfColumns columns = columns.map fun column =>
      (writtenRows column.2).forM checkShowable := by
  induction columns with
  | nil => rfl
  | cons column rest inductionHypothesis =>
    show (writtenRows (checksOf column.2)).forM id :: checksOfColumns rest = _
    rw [inductionHypothesis, checksOf_eq_map, writtenRows_map, List.forM_eq_forM, List.forM_map]
    rfl

/-- Gives up with a fault that shows the value, or with another fault when it cannot be shown. -/
def refuse {Result : Type} (value : Value) (fault : String → Fault) : Except Fault Result := do
  checkShowable value
  throw (fault value.shown)

theorem refuse_ne_ok {Result : Type} (value : Value) (fault : String → Fault) (result : Result) :
    value.refuse fault ≠ .ok result := by
  unfold refuse
  cases checkShowable value <;> exact nofun

/-! ### Labels -/

/-- A value as a label shows it. -/
def plain (value : Value) : String := plainOr value value.shown

end Value

end SeriesChart
