/-
This file writes tables. The first line has the names of the columns, and every further
line the number of a row and its cells. Columns end at one place and are a blank apart; how a
cell is written depends on the whole of its column. A column of floats has as many places as
its longest number needs, six at most, or else exponents throughout. Of a table with many rows
or columns only the outer ones are written, and its size is told below it.
-/

import SeriesChart.Calendar.TimeText
import SeriesChart.Number.GridText
import SeriesChart.Value.Basic

namespace SeriesChart

open Calendar

/-! ### Long tables -/

/-- The members at both ends of a list that has more than `limit`, so many from either end. -/
def bothEnds {Item : Type} (limit kept : Nat) (items : List Item) : List Item :=
  if items.length ≤ limit then items
  else items.take kept ++ items.drop (items.length - kept)

theorem bothEnds_map {Item Other : Type} (function : Item → Other) (limit kept : Nat)
    (items : List Item) :
    bothEnds limit kept (items.map function) = (bothEnds limit kept items).map function := by
  unfold bothEnds
  rw [List.length_map]
  split
  · rfl
  · rw [List.map_append, List.map_take, List.map_drop]

theorem mem_of_mem_bothEnds {Item : Type} {limit kept : Nat} {items : List Item} {item : Item}
    (known : item ∈ bothEnds limit kept items) : item ∈ items := by
  unfold bothEnds at known
  split at known
  · exact known
  · exact (List.mem_append.mp known).elim List.mem_of_mem_take List.mem_of_mem_drop

/-- A table with more rows than this is cut. -/
def rowLimit : Nat := 60

/-- How many rows are written at either end of a table that is cut. -/
def outerRows : Nat := 5

/-- A table with more columns than this is cut. -/
def columnLimit : Nat := 80

/-- How many columns are written on either side of a table that is cut. -/
def outerColumns : Nat := 40

/-- What is written of something that a table has for every row. -/
def writtenRows {Item : Type} (items : List Item) : List Item := bothEnds rowLimit outerRows items

/-- What is written of something that a table has for every column. -/
def writtenColumns {Item : Type} (items : List Item) : List Item :=
  bothEnds columnLimit outerColumns items

theorem writtenRows_map {Item Other : Type} (function : Item → Other) (items : List Item) :
    writtenRows (items.map function) = (writtenRows items).map function :=
  bothEnds_map function rowLimit outerRows items

theorem writtenColumns_map {Item Other : Type} (function : Item → Other) (items : List Item) :
    writtenColumns (items.map function) = (writtenColumns items).map function :=
  bothEnds_map function columnLimit outerColumns items

/-! ### Columns of text -/

/-- A column of a table as text: its head, and its cells from the top. -/
structure TableColumn where
  head : String
  cells : List String
  deriving DecidableEq, Repr

namespace TableColumn

/-- A text with a place for its sign. -/
def withSign (text : String) : String := if text.toList.head? = some '-' then text else " " ++ text

/-- No cell is wider than this. -/
def widestCell : Nat := 50

/-- A text cut to a width; dots stand for what is cut off. -/
def cut (width : Nat) (text : String) : String :=
  if text.length ≤ width then text else (text.take (width - 3)).toString ++ "..."

/-- A text moved to the right end of a width. -/
def moved (width : Nat) (text : String) : String := blanks (width - text.length) ++ text

/-- Dots in the place of what is left out, as many as a width allows for. -/
def dots (width : Nat) : String := if width ≤ 3 then ".." else "..."

/-- The lines of a column with one more line where rows are left out. -/
def withGap (isCut : Bool) (gap : String) (lines : List String) : List String :=
  if isCut then lines.take (outerRows + 1) ++ gap :: lines.drop (outerRows + 1) else lines

/-- The lines of a column, all of one width. -/
def lines (isCut : Bool) (column : TableColumn) : List String :=
  let cells := column.cells.map (cut widestCell)
  let width := longest (column.head :: cells)
  withGap isCut (moved width (dots width)) ((column.head :: cells).map (moved width))

end TableColumn

/-! ### Floats -/

/-- How many places a float of a table has at most. -/
def tablePlaces : Nat := 6

/-- The exact digits of a float of a table, and its sign. Infinities and what is no number have
none. -/
def tableForm? (hasExponent : Bool) (value : Float) : Option (Bool × CellText) :=
  match Binary.ofFloat value with
  | .finite negative significand exponent =>
    let leading := if hasExponent then (Binary.shortest significand exponent).leading else 0
    let form := roundedTo significand exponent (leading - tablePlaces)
    some (negative, if hasExponent then form.scientific else form.positional)
  | _ => none

/-- A float of a table with so many places. -/
def tableFloat (hasExponent : Bool) (places : Nat) (value : Float) : String :=
  match tableForm? hasExponent value with
  | none => if value.isNaN then " NaN" else if value < 0.0 then "-inf" else " inf"
  | some (negative, text) =>
    (if negative then "-" else " ") ++ text.whole ++ "." ++ text.places ++
      String.ofList (List.replicate (places - text.places.length) '0') ++
      (if hasExponent then "e" ++ text.exponent else "")

/-- How many places the floats of a table need. One stands always. -/
def placesNeeded (values : List Float) : Nat :=
  max 1 (longest (values.filterMap fun value => (tableForm? false value).map (·.2.places)))

/-- A column of floats. It has exponents when a number is too small for the places, or when one is
both large and long. -/
def floatCells (values : List Float) : List String :=
  let positional := values.map (tableFloat false (placesNeeded values))
  let isSmall := values.any fun value => 0.0 < value.abs && value.abs < 0.000001
  let isLarge := values.any fun value => value.abs > 1000000.0
  if isSmall || (isLarge && tablePlaces + 6 < longest positional) then
    values.map (tableFloat true tablePlaces)
  else positional

/-! ### Times -/

/-- How many digits of the fraction of a second some stamps need: none, three, six or nine. -/
def fractionNeeded (stamps : List Stamp) : Nat :=
  let divides (unit : Int) : Bool := stamps.all fun stamp => stamp.nanos % unit = 0
  if divides 1000000000 then 0 else if divides 1000000 then 3 else if divides 1000 then 6 else 9

/-- A column of time stamps. When all of them are midnights their dates are enough. Clocks with an
offset tell it, each in the digits that it needs. -/
def stampCells (stamps : List (Option Stamp)) : List String :=
  let known := stamps.filterMap id
  let isMidnight (stamp : Stamp) : Bool :=
    let (time, rest) := stamp.localTime
    time.secondOfDay = 0 && time.microsecond = 0 && rest = 0
  let digits := fractionNeeded known
  let write (stamp : Stamp) : String :=
    let (time, rest) := stamp.localTime
    if known.all isMidnight then dateText time.date
    else match stamp.offset with
      | some offset => stampText stamp ++ offsetText offset
      | none =>
        let fraction := Moment.padded 6 time.microsecond ++ Moment.padded 3 rest
        dateTimeText { time with microsecond := 0 } ++
          (if digits = 0 then "" else "." ++ (fraction.take digits).toString)
  stamps.map fun stamp => (stamp.map write).getD "NaT"

/-! ### Any cells -/

/-- A character of a cell; those that would break a line are escaped. -/
def cellCharacter : Char → String
  | '\t' => "\\t"
  | '\n' => "\\n"
  | '\r' => "\\r"
  | character => character.toString

/-- A cell that is neither a whole number nor a time, given how labels show it. Texts that are not
alone in their column are escaped. -/
def mixedCell (isAlone : Bool) (cell : Value) (plain : String) : String :=
  match cell with
  | .float value | .cell value =>
    if value.isNaN then " NaN" else tableFloat false (placesNeeded [value]) value
  | .text text => " " ++ (if isAlone then text else String.join (text.toList.map cellCharacter))
  | _ => " " ++ plain

/-- The column of a name and of cells, given how labels show them. The name of a column of numbers
has a place for a sign. -/
def tableColumn (name : String) (cells : List Value) (plain : List String) : TableColumn :=
  let asFloat : Value → Option Float
    | .float value => some value
    | _ => none
  let isText := cells.all fun cell =>
    match cell with
    | .text _ => true
    | .float value => value.isNaN
    | _ => false
  let asStamp : Value → Option (Option Stamp)
    | .stamp stamp => some stamp
    | _ => none
  if cells.all (· matches .int _) then ⟨" " ++ name, plain.map TableColumn.withSign⟩
  else if cells.all (· matches .bool _) then ⟨" " ++ name, plain.map (" " ++ ·)⟩
  else match cells.mapM asFloat, cells.mapM asStamp with
    | some values, _ => ⟨" " ++ name, floatCells values⟩
    | none, some stamps => ⟨name, stampCells stamps⟩
    | none, none => ⟨name, List.zipWith (mixedCell isText) cells plain⟩

/-! ### Tables -/

/-- The columns next to each other, line by line. -/
def besideEachOther : List String → List (List String) → List String
  | lines, [] => lines
  | lines, column :: rest => besideEachOther (List.zipWith (· ++ " " ++ ·) lines column) rest

/-- A table of so many rows, given what is written of its columns. One without cells tells the names
of its columns. -/
def tableText (rows : Nat) (names : List String) (columns : List TableColumn) : String :=
  if rows = 0 || columns = [] then
    "Empty DataFrame\nColumns: [" ++ ", ".intercalate names ++ "]\nIndex: []"
  else
    let isLong := rowLimit < rows
    let isWide := columnLimit < names.length
    let numbers := (writtenRows (List.range rows)).map toString
    let width := longest numbers
    let filled (text : String) : String := text ++ blanks (width - text.length)
    let heads := TableColumn.withGap isLong (filled (TableColumn.dots width))
      (("" :: numbers).map filled)
    let parts := columns.map (TableColumn.lines isLong)
    let parts :=
      if isWide then
        parts.take outerColumns ++ heads.map (fun _ => " ...") :: parts.drop outerColumns
      else parts
    "\n".intercalate (besideEachOther heads parts) ++
      if isLong || isWide then s!"\n\n[{rows} rows x {names.length} columns]" else ""

end SeriesChart
