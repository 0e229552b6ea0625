/-
This file holds the values that a caller may hand in where a time, a number, a colour or a
whole set of records is expected. What a value may mean depends on the place it stands in,
so it is kept as it came: numbers of several kinds, times of several kinds, texts, and
collections of further values.
-/

import SeriesChart.Calendar.Stamp
import SeriesChart.Number.Decimal
import SeriesChart.Number.Grid
import SeriesChart.Series

namespace SeriesChart

open Calendar

/-- Anything that a caller may hand in. -/
inductive Value where
  /-- The absence of a value. -/
  | absent
  | bool (value : Bool)
  | int (value : Int)
  | float (value : Float)
  | decimal (value : Decimal)
  | dateTime (value : DateTime)
  | date (value : Date)
  | moment (value : Moment)
  /-- A whole number of sixty-four bits, as arrays hold them. -/
  | word (value : Int)
  /-- A float as arrays hold them. -/
  | cell (value : Float)
  | text (value : String)
  | bytes (value : List UInt8)
  | list (items : List Value)
  | tuple (items : List Value)
  /-- Keys and values in the order of their insertion. -/
  | mapping (entries : List (Value × Value))
  | point (value : Point)
  | series (value : Series)
  /-- An object of which nothing is known. -/
  | thing
  /-- Values that can be walked through once and not counted. -/
  | iterator (items : List Value)
  | array (grid : Grid)
  /-- A time stamp of a table, or an unknown one. -/
  | stamp (time : Option Stamp)
  /-- Named columns of equal length. -/
  | table (columns : List (String × List Value))
  deriving Inhabited

namespace Value

/-! ### Types -/

/-- The name of a value's type, as faults in types show it. -/
def typeName : Value → String
  | .absent => "NoneType"
  | .bool _ => "bool"
  | .int _ => "int"
  | .float _ => "float"
  | .decimal _ => "decimal.Decimal"
  | .dateTime _ => "datetime.datetime"
  | .date _ => "datetime.date"
  | .moment _ => "numpy.datetime64"
  | .word _ => "numpy.int64"
  | .cell _ => "numpy.float64"
  | .text _ => "str"
  | .bytes _ => "bytes"
  | .list _ => "list"
  | .tuple _ => "tuple"
  | .mapping _ => "dict"
  | .point _ => "DataPoint"
  | .series _ => "Series"
  | .thing => "object"
  | .iterator _ => "list_iterator"
  | .array _ => "numpy.ndarray"
  | .stamp (some _) => "Timestamp"
  | .stamp none => "NaTType"
  | .table _ => "DataFrame"

/-- The type of a value with the place where it is defined, in angle brackets. -/
def typeText (value : Value) : String :=
  let place :=
    match value with
    | .point _ | .series _ => "timechart.series."
    | .stamp (some _) | .table _ => "pandas."
    | .stamp none => "pandas.api.typing."
    | _ => ""
  s!"<class '{place}{value.typeName}'>"

/-! ### Truth -/

/-- Whether a value counts as true: neither absent, nor zero, nor without members. -/
def isTrue : Value → Except Fault Bool
  | .absent => .ok false
  | .bool value => .ok value
  | .int value | .word value => .ok (value ≠ 0)
  | .float value | .cell value => .ok !(value == 0.0)
  | .decimal value => .ok !value.isZero
  | .moment value => .ok (value.count ≠ some 0)
  | .text value => .ok (value ≠ "")
  | .bytes value => .ok (value ≠ [])
  | .list items | .tuple items => .ok !items.isEmpty
  | .mapping entries => .ok !entries.isEmpty
  | .series value => .ok !value.isEmpty
  | .array grid => grid.decideBy fun cell => !(cell == 0.0)
  | .table _ => .error (.invalid .truthOfTable)
  | _ => .ok true

/-! ### Worth -/

/-- What a number is worth, exactly. -/
inductive Worth where
  | finite (value : Rat)
  /-- A decimal number that is too large or has too many places to be worth as much as any float or
  any whole number that can be written. Its digits do not end with zero. -/
  | extreme (negative : Bool) (form : DecimalForm)
  | infinite (negative : Bool)
  deriving DecidableEq

/-- What a decimal number is worth. -/
def Worth.ofDecimal (negative : Bool) (digits : Nat) (exponent : Int) : Worth :=
  let form := DecimalForm.trimmed ⟨digits, exponent⟩ (digitsOf digits).length
  if digits = 0 then .finite 0
  else if 5000 < form.exponent.natAbs then .extreme negative form
  else .finite (mkRat (Binary.signed negative (form.digits * tenTo form.exponent.toNat))
    (tenTo (-form.exponent).toNat))

/-- What a number is worth, truth values included. What is no number is worth nothing. -/
def worth? : Value → Option Worth
  | .bool value => some (.finite (if value then 1 else 0))
  | .int value | .word value => some (.finite value)
  | .float value | .cell value =>
    match Binary.ofFloat value with
    | .finite negative significand exponent =>
      some (.finite (mkRat (Binary.numerator negative significand exponent)
        (Binary.denominator exponent)))
    | .infinite negative => some (.infinite negative)
    | .undefined => none
  | .decimal (.finite negative digits exponent) => some (.ofDecimal negative digits exponent)
  | .decimal (.infinite negative) => some (.infinite negative)
  | _ => none

/-! ### Equality -/

/-- The two floats are the fields of equal points. -/
def equalPoints (first second : Point) : Bool :=
  first.timestamp == second.timestamp && first.value == second.value

/-- The two times are one: both with an offset and at one instant, or both without and alike. -/
def equalTimes (first second : DateTime) : Bool :=
  first.offset.isSome = second.offset.isSome && first.epochMicros = second.epochMicros

/-- The two moments are known and one. -/
def equalMoments (first second : Moment) : Bool :=
  match first.count, second.count with
  | some firstCount, some secondCount =>
    Moment.nanosOf first.unit firstCount = Moment.nanosOf second.unit secondCount
  | _, _ => false

mutual

/-- The two values are equal: numbers by what they are worth, collections member by member, and
mappings whatever the order of their entries. -/
def equals : Value → Value → Bool
  | .absent, .absent => true
  | .text first, .text second => first = second
  | .bytes first, .bytes second => first = second
  | .date first, .date second => first = second
  | .dateTime first, .dateTime second => equalTimes first second
  | .moment first, .moment second => equalMoments first second
  | .point first, .point second => equalPoints first second
  | .series first, .series second =>
    first.points.length = second.points.length &&
      (first.points.zip second.points).all fun pair => equalPoints pair.1 pair.2
  | .list first, .list second => equalsAll first second
  | .tuple first, .tuple second => equalsAll first second
  | .mapping first, .mapping second => first.length = second.length && equalsEntries first second
  | first, second =>
    match worth? first, worth? second with
    | some firstWorth, some secondWorth => firstWorth = secondWorth
    | _, _ => false

/-- The two lists are equal member by member. -/
def equalsAll : List Value → List Value → Bool
  | [], [] => true
  | first :: firstRest, second :: secondRest =>
    equals first second && equalsAll firstRest secondRest
  | _, _ => false

/-- Every entry of the first list has an equal one somewhere in the second. -/
def equalsEntries : List (Value × Value) → List (Value × Value) → Bool
  | [], _ => true
  | (key, value) :: rest, entries =>
    (entries.any fun entry => equals key entry.1 && equals value entry.2) &&
      equalsEntries rest entries

end

/-! ### Mappings -/

/-- The entry of a mapping under a key. -/
def entry? (entries : List (Value × Value)) (key : Value) : Option Value :=
  (entries.find? fun entry => entry.1.equals key).map (·.2)

/-- Puts a value under a key. A key that is there stays where and as it is. -/
def setEntry (entries : List (Value × Value)) (key value : Value) : List (Value × Value) :=
  match entries with
  | [] => [(key, value)]
  | (known, old) :: rest =>
    if known.equals key then (known, value) :: rest else (known, old) :: setEntry rest key value

/-- The mapping of entries that are put in one after the other. -/
def ofEntries (entries : List (Value × Value)) : Value :=
  .mapping (entries.foldl (fun entries entry => setEntry entries entry.1 entry.2) [])

/-! ### Memory -/

mutual

/-- Refuses a value that cannot be remembered by what it is worth, since it can change or has no
worth. -/
def checkMemorable : Value → Except Fault Unit
  | .decimal (.undefined _ true _) => .error (.mistyped .signalingMemory)
  | .list _ => .error (.mistyped (.notMemorable "list"))
  | .mapping _ => .error (.mistyped (.notMemorable "dict"))
  | .array _ => .error (.mistyped (.notMemorable "numpy.ndarray"))
  | .table _ => .error (.mistyped (.notMemorable "DataFrame"))
  | .tuple items => checkAllMemorable items
  | _ => .ok ()

/-- Refuses the first of some values that cannot be remembered. -/
def checkAllMemorable : List Value → Except Fault Unit
  | [] => .ok ()
  | item :: rest => do
    checkMemorable item
    checkAllMemorable rest

end

/-! ### Arrays -/

/-- What an array gives along its first direction: floats, or arrays with one direction less. One
without directions gives nothing. -/
def rowsOf (grid : Grid) : Except Fault (List Value) :=
  if grid.shape = [] then .error (.mistyped .walkOfNumber)
  else
    .ok <| grid.rows.map fun row =>
      match row.number? with
      | some number => .cell number
      | none => .array row

end Value

end SeriesChart
