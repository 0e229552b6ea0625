/-
This file holds the options of a chart and makes them of the values that a caller gives.
Every field has a default, a rule that its value must meet, and a form that the rule
leaves alone, so that options can be made again of their own fields. The fields are looked
at in a fixed order, and the first one at fault decides.
-/

import SeriesChart.Color.Coercion
import SeriesChart.Records.Reading

namespace SeriesChart

/-! ### Kinds of charts -/

/-- How the points of a chart are marked. -/
inductive ChartKind where
  | line
  | bar
  /-- A kind that no chart has, as it is shown. Options never hold it; a drawing of it fails. -/
  | other (shown : String)
  deriving DecidableEq, Repr

namespace ChartKind

/-- The kind of a name. -/
def ofName? : String → Option ChartKind
  | "line" => some .line
  | "bar" => some .bar
  | _ => none

/-- The name of a kind. -/
def name : ChartKind → String
  | .line => "line"
  | .bar => "bar"
  | .other shown => shown

end ChartKind

/-! ### Fields -/

/-- What can be chosen for a chart. -/
inductive OptionField where
  | kind
  | height
  | strokeColor
  | fillColor
  | showGrid
  | showTooltip
  | label
  | timeKey
  | valueKey
  deriving DecidableEq, Repr

namespace OptionField

/-- All fields, in the order in which they are declared. -/
def all : List OptionField :=
  [.kind, .height, .strokeColor, .fillColor, .showGrid, .showTooltip, .label, .timeKey, .valueKey]

/-- The name of a field. -/
def name : OptionField → String
  | .kind => "kind"
  | .height => "height"
  | .strokeColor => "stroke_color"
  | .fillColor => "fill_color"
  | .showGrid => "show_grid"
  | .showTooltip => "show_tooltip"
  | .label => "label"
  | .timeKey => "x_key"
  | .valueKey => "y_key"

/-- The field of a name. -/
def ofName? (name : String) : Option OptionField := all.find? (·.name = name)

/-- The names that web pages use for fields. -/
def aliases : List (String × OptionField) :=
  [("type", .kind), ("color", .strokeColor), ("strokeColor", .strokeColor),
    ("fillColor", .fillColor), ("showGrid", .showGrid), ("showTooltip", .showTooltip),
    ("xKey", .timeKey), ("yKey", .valueKey)]

/-- The field of a name or of another spelling of one. -/
def ofSpelling? (spelling : String) : Option OptionField :=
  (aliases.lookup spelling).orElse fun _ => ofName? spelling

/-- The field that a key of a mapping stands for. -/
def ofKey? : Value → Option OptionField
  | .text spelling => ofSpelling? spelling
  | _ => none

theorem ofName?_name (field : OptionField) : ofName? field.name = some field := by
  cases field <;> decide

end OptionField

/-! ### Given values -/

/-- A value for every field, before any rule is applied. -/
abbrev GivenOptions := OptionField → Value

namespace GivenOptions

/-- The values with one of them replaced. -/
def set (given : GivenOptions) (field : OptionField) (value : Value) : GivenOptions :=
  fun other => if other = field then value else given other

@[simp] theorem set_self (given : GivenOptions) (field : OptionField) (value : Value) :
    given.set field value field = value := by
  simp [set]

theorem set_other (given : GivenOptions) {field other : OptionField} (value : Value)
    (distinct : other ≠ field) : given.set field value other = given other := by
  simp [set, distinct]

/-- The values with several of them replaced, one after the other. -/
def setAll (given : GivenOptions) (changes : List (OptionField × Value)) : GivenOptions :=
  changes.foldl (fun given change => given.set change.1 change.2) given

/-- What a field has when nothing is given for it. -/
def defaults : GivenOptions
  | .kind => .text "line"
  | .height => .int 200
  | .strokeColor => Color.toValue ⟨52, 152, 219, 255⟩
  | .fillColor => Color.toValue ⟨52, 152, 219, 26⟩
  | .showGrid => .bool true
  | .showTooltip => .bool true
  | .label => .text ""
  | .timeKey => .text "date"
  | .valueKey => .text "value"

end GivenOptions

/-! ### Options -/

/-- The options of a chart. A chart is at least one pixel high. -/
structure Options where
  kind : ChartKind
  height : Int
  height_pos : 0 < height
  strokeColor : Color
  fillColor : Color
  showGrid : Bool
  showTooltip : Bool
  label : String
  timeKey : String
  valueKey : String
  deriving DecidableEq, Repr

namespace Options

/-- The kind of a value, which must be the name of one. -/
def kindOf (value : Value) : Except Fault ChartKind :=
  let unsupported : Except Fault ChartKind :=
    value.refuse fun shown => .config (.unsupportedKind shown)
  match value with
  | .text name =>
    match ChartKind.ofName? name with
    | some kind => .ok kind
    | none => unsupported
  | _ => unsupported

/-- A number as the nearest whole number of pixels; an infinity or no number is refused. Numbers of
arrays count when they are floats. -/
def wholePixels (value : Value) : Except Fault Int :=
  let notNumber : Except Fault Int :=
    value.refuse fun shown => .config (.heightNotNumber shown)
  match value with
  | .int number => do
    let _ ← Binary.ofInt number
    return number
  | .float number | .cell number =>
    if number.isFinite then Binary.toWhole .nearestEven number else notNumber
  | _ => notNumber

/-- The height of a value: at least one pixel after rounding, since the canvas has whole pixels. -/
def heightOf (value : Value) : Except Fault {height : Int // 0 < height} := do
  let height ← wholePixels value
  if positive : 0 < height then return ⟨height, positive⟩
  throw (.config (.heightNotPositive value.shown))

/-- The label of a value, which must be one that can be shown; an absent one is empty. -/
def labelOf : Value → Except Fault String
  | .absent => .ok ""
  | value => do
    value.checkShowable
    return value.plain

/-- The key of a value, which must be a text that is not empty. -/
def keyOf (field : OptionField) (value : Value) : Except Fault String :=
  let notText : Except Fault String :=
    value.refuse fun shown => .config (.keyNotText field.name shown)
  match value with
  | .text key => if key = "" then notText else .ok key
  | _ => notText

/-- The options of given values. -/
def ofGiven (given : GivenOptions) : Except Fault Options := do
  let kind ← kindOf (given .kind)
  let ⟨height, height_pos⟩ ← heightOf (given .height)
  let strokeColor ← Color.ofValue (given .strokeColor)
  let fillColor ← Color.ofValue (given .fillColor)
  let showGrid ← (given .showGrid).isTrue
  let showTooltip ← (given .showTooltip).isTrue
  let label ← labelOf (given .label)
  let timeKey ← keyOf .timeKey (given .timeKey)
  let valueKey ← keyOf .valueKey (given .valueKey)
  return { kind, height, height_pos, strokeColor, fillColor, showGrid, showTooltip, label, timeKey
           valueKey }

/-- The values of the fields of options. -/
def toGiven (options : Options) : GivenOptions
  | .kind => .text options.kind.name
  | .height => .int options.height
  | .strokeColor => options.strokeColor.toValue
  | .fillColor => options.fillColor.toValue
  | .showGrid => .bool options.showGrid
  | .showTooltip => .bool options.showTooltip
  | .label => .text options.label
  | .timeKey => .text options.timeKey
  | .valueKey => .text options.valueKey

/-- The keys of the records of a chart. -/
def recordKeys (options : Options) : RecordKeys := ⟨options.timeKey, options.valueKey⟩

/-- The options when nothing is given. -/
def standard : Options :=
  { kind := .line
    height := 200
    height_pos := by decide
    strokeColor := ⟨52, 152, 219, 255⟩
    fillColor := ⟨52, 152, 219, 26⟩
    showGrid := true
    showTooltip := true
    label := ""
    timeKey := "date"
    valueKey := "value" }

/-! ### Ways to give options -/

/-- Who refuses a named argument. -/
def owner : String := "ChartOptions"

/-- The name under which a method is given what it belongs to; no argument may have it. -/
def selfName : String := "self"

/-- Named arguments as changes of fields. -/
def changesOfArguments : List (String × Value) → Except Fault (List (OptionField × Value))
  | [] => .ok []
  | (name, value) :: rest =>
    if name = selfName then .error (.mistyped (.repeatedArgument owner "__init__" name))
    else
      match OptionField.ofName? name with
      | none => .error (.mistyped (.unexpectedArgument owner name))
      | some field => do return (field, value) :: (← changesOfArguments rest)

/-- The options of named arguments. -/
def ofArguments (arguments : List (String × Value)) : Except Fault Options := do
  ofGiven (GivenOptions.defaults.setAll (← changesOfArguments arguments))

/-- The options with some fields given anew. Every rule is applied again. -/
def replace (options : Options) (arguments : List (String × Value)) :
    Except Fault Options := do
  if arguments.any (·.1 = selfName) then
    throw (.mistyped (.repeatedArgument owner "replace" selfName))
  ofGiven (options.toGiven.setAll (← changesOfArguments arguments))

/-- The entries of a mapping as changes of fields; the spellings of web pages are known. -/
def changesOfEntries : List (Value × Value) → Except Fault (List (OptionField × Value))
  | [] => .ok []
  | (key, value) :: rest =>
    match OptionField.ofKey? key with
    | none => key.refuse fun shown => .config (.unknownOption shown)
    | some field => do return (field, value) :: (← changesOfEntries rest)

/-- The options of a mapping. Of two entries for one field the later counts. -/
def ofMapping (entries : List (Value × Value)) : Except Fault Options := do
  ofGiven (GivenOptions.defaults.setAll (← changesOfEntries entries))

/-- The options of whatever a caller gives: nothing, or a mapping. -/
def ofValue (value : Value) : Except Fault Options :=
  match value with
  | .absent => ofGiven GivenOptions.defaults
  | .mapping entries => ofMapping entries
  | other => .error (.config (.unsupportedOptions other.typeText))

end Options

/-! ### Options as a caller has them -/

/-- Options that were made before, or a value to make them of. -/
inductive OptionsSource where
  | ready (options : Options)
  | value (value : Value)

namespace OptionsSource

/-- No options at all. -/
def none : OptionsSource := .value .absent

/-- The options of a source; without any, every field has its default. -/
def resolve : OptionsSource → Except Fault Options
  | .ready options => .ok options
  | .value given => Options.ofValue given

/-- The options of a source, or the ones at hand when the source has none. -/
def resolveOr (current : Options) : OptionsSource → Except Fault Options
  | .value .absent => .ok current
  | source => source.resolve

end OptionsSource

end SeriesChart
