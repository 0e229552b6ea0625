/-
This file makes a series of the data of a chart. The data may be a series already, a table
with two named columns, or any collection of records; a record is a point, a pair, or a
mapping that holds the time and the value under two keys. The order of the records is
kept. The first record that holds no point decides the fault, which tells its number.
-/

import SeriesChart.Records.Point

namespace SeriesChart

open Calendar

/-! ### Records -/

/-- The keys of the time and of the value in keyed records. -/
structure RecordKeys where
  time : String := "date"
  value : String := "value"
  deriving DecidableEq, Repr

/-- A fault in the data of one record tells which record it is. -/
def inRecord (index : Nat) : Fault → Fault
  | .data cause => .data (.inRecord index cause)
  | fault => fault

/-- The point of a time and a value in the record of the given number. -/
def pointAt (index : Nat) (timestamp value : Value) : Except Fault Point :=
  (Point.ofValues timestamp value).mapError (inRecord index)

/-- The point of a record. -/
def pointOfRecord (keys : RecordKeys) (index : Nat) (record : Value) : Except Fault Point :=
  match record with
  | .point point => .ok point
  | .mapping entries =>
    match Value.entry? entries (.text keys.time), Value.entry? entries (.text keys.value) with
    | some timestamp, some value => pointAt index timestamp value
    | _, _ => .error (.data (.missingKey index keys.time keys.value))
  | .list [timestamp, value] | .tuple [timestamp, value] => pointAt index timestamp value
  | .list _ | .tuple _ => .error (.data (.notAPair index))
  | other => .error (.data (.unsupportedRecord index other.typeText))

/-- The points of records, the first of which has the given number. -/
def pointsOfRecords (keys : RecordKeys) : Nat → List Value → Except Fault (List Point)
  | _, [] => .ok []
  | index, record :: rest => do
    let point ← pointOfRecord keys index record
    return point :: (← pointsOfRecords keys (index + 1) rest)

/-! ### The cells of tables -/

/-- The cell is left out: there is nothing, or what is no number. -/
def isBlankCell : Value → Bool
  | .absent => true
  | .float number | .cell number => number.isNaN
  | _ => false

/-- The cell is a number or left out. -/
def isNumberCell : Value → Bool
  | .absent | .int _ | .word _ | .float _ | .cell _ => true
  | _ => false

/-- The whole numbers have one type of sixty-four bits: with a sign, or without one. -/
def shareWord (numbers : List Int) : Bool :=
  let limit : Int := twoTo 63
  numbers.all (fun number => -limit ≤ number && number < limit) ||
    numbers.all fun number => 0 ≤ number && number < 2 * limit

/-- A cell of a column of whole numbers. -/
def wholeCell? : Value → Option Int
  | .int number | .word number => some number
  | _ => none

/-- A cell of a column of floats; one that is left out is no number. -/
def floatCell : Value → Value
  | .int number | .word number => .float (Float.ofInt number)
  | .float number | .cell number => .float number
  | _ => .float (0.0 / 0.0)

/-- The cells of a column of numbers, if they can have one type. All become floats as soon as one
of them is a float or is left out. -/
def numberCells? (cells : List Value) : Option (List Value) :=
  if cells.all isNumberCell && cells.any (fun cell => !(cell matches .absent)) &&
      shareWord (cells.filterMap wholeCell?) then
    some (match cells.mapM wholeCell? with
      | some numbers => numbers.map .int
      | none => cells.map floatCell)
  else none

/-- The cells of a column of texts. One that is left out is no number. -/
def textCells? (cells : List Value) : Option (List Value) :=
  if cells.all (fun cell => cell matches .text _ || isBlankCell cell) &&
      cells.any (· matches .text _) then
    some (cells.map fun cell => if isBlankCell cell then .float (0.0 / 0.0) else cell)
  else none

/-- A cell as a time stamp, if it is a time; one that is left out is unknown. -/
def stampCell? (cell : Value) : Option (Option Stamp) :=
  match cell with
  | .dateTime time => some (some (.ofDateTime time))
  | .moment moment => some (Stamp.ofMoment? moment)
  | cell => if isBlankCell cell then some none else none

/-- The time stamps have one offset or none, and their nanoseconds fit sixty-four bits where they
are counted. -/
def shareClock (cells : List Value) (stamps : List (Option Stamp)) : Bool :=
  let known := stamps.filterMap id
  let isCounted := cells.any fun cell =>
    match cell with
    | .moment moment => moment.unit = .nano
    | _ => false
  known.all (fun stamp => some stamp.offset = known.head?.map Stamp.offset) &&
    (!isCounted || known.all fun stamp => stamp.nanos.natAbs < twoTo 63)

/-- The cells of a column of times. -/
def timeCells? (cells : List Value) : Option (List Value) := do
  let stamps ← cells.mapM stampCell?
  if cells.any (fun cell => !isBlankCell cell) && shareClock cells stamps then
    some (stamps.map .stamp)
  else none

/-- The cells of a column: numbers, texts or times if all of them can be that, and otherwise what
they are. -/
def cellsOfColumn (cells : List Value) : List Value :=
  ((numberCells? cells).orElse fun _ =>
    (textCells? cells).orElse fun _ => timeCells? cells).getD cells

/-- The cells of a column of times that are given as texts. What cannot be read is unknown. -/
def cellsOfTimes (texts : List String) : List Value :=
  texts.map fun text => .stamp (Stamp.ofText? text)

/-! ### Tables -/

/-- Puts a column under a name; of two columns of one name the later one counts. -/
def setColumn (columns : List (String × List Value)) (name : String) (cells : List Value) :
    List (String × List Value) :=
  match columns with
  | [] => [(name, cells)]
  | (known, old) :: rest =>
    if known = name then (known, cells) :: rest else (known, old) :: setColumn rest name cells

/-- The table of some columns. -/
def Value.ofColumns (columns : List (String × List Value)) : Value :=
  .table (columns.foldl (fun columns column => setColumn columns column.1 column.2) [])

/-- Refuses columns that are not equally long. -/
def checkLengths (columns : List (String × List Value)) : Except Fault Unit :=
  match columns with
  | [] => .ok ()
  | (_, first) :: rest =>
    if rest.all (·.2.length = first.length) then .ok () else .error (.invalid .columnLengths)

/-- The columns of that name, of which there may be several. -/
def columnsNamed (columns : List (String × List Value)) (key : String) : List (List Value) :=
  (columns.filter (·.1 = key)).map (·.2)

/-- Refuses a table without a column of that name. -/
def checkColumn (columns : List (String × List Value)) (key : String) : Except Fault Unit :=
  if columnsNamed columns key = [] then .error (.data (.missingColumn key)) else .ok ()

/-- Refuses a time stamp whose clock shows a year that is out of use. -/
def checkYear (cell : Value) : Except Fault Unit :=
  match cell with
  | .stamp (some time) =>
    let year := time.localTime.1.date.year
    if firstYear ≤ year && year ≤ lastYear then .ok ()
    else .error (.invalid (.yearOutOfRange year))
  | _ => .ok ()

/-- The cells of the column of that name, one by one. Several columns are a table, which cannot be
asked for its cells. -/
def cellsAt (columns : List (String × List Value)) (key : String) : Except Fault (List Value) :=
  match columnsNamed columns key with
  | [cells] => do
    cells.forM checkYear
    return cells
  | _ => .error (.missingAttribute "DataFrame" "tolist")

/-- The points of two columns, row by row. -/
def pointsOfTable (keys : RecordKeys) (columns : List (String × List Value)) :
    Except Fault (List Point) := do
  checkLengths columns
  checkColumn columns keys.time
  checkColumn columns keys.value
  let times ← cellsAt columns keys.time
  let values ← cellsAt columns keys.value
  pointsOfRecords keys 0 (List.zipWith (fun time value => .tuple [time, value]) times values)

/-! ### Data -/

/-- The series of the data of a chart. -/
def Series.ofData (keys : RecordKeys) (data : Value) : Except Fault Series :=
  match data with
  | .absent => .ok {}
  | .series series => .ok series
  | .table columns => (pointsOfTable keys columns).map Series.mk
  | .list records | .tuple records | .iterator records =>
    (pointsOfRecords keys 0 records).map Series.mk
  | .array grid => do
    let records ← Value.rowsOf grid
    (pointsOfRecords keys 0 records).map Series.mk
  | other => .error (.data (.unsupportedSeries other.typeText))

/-- The series of the data of a chart, or the one at hand when there are no data. -/
def Series.ofDataOr (current : Series) (keys : RecordKeys) (data : Value) : Except Fault Series :=
  match data with
  | .absent => .ok current
  | data => Series.ofData keys data

end SeriesChart
