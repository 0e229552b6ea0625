/-
This file lists every way in which the program refuses an input or gives up on a drawing.
A fault says what went wrong; its wording is in one function for each group. The groups
follow who can mend the fault: the author of the options, the owner of the data, or the
program that calls with a number, a text or a type that cannot be used.
-/

namespace SeriesChart

/-! ### Options that cannot be honoured -/

/-- What is wrong with the options of a chart. A shown value is already quoted. -/
inductive ConfigCause where
  /-- A name that is no option and no other spelling of one. -/
  | unknownOption (shown : String)
  /-- Options that are neither absent, ready, nor a mapping. -/
  | unsupportedOptions (typeText : String)
  /-- A kind of chart that does not exist. -/
  | unsupportedKind (shown : String)
  /-- A height that is no finite number. -/
  | heightNotNumber (shown : String)
  /-- A height that rounds to no pixel at all. -/
  | heightNotPositive (shown : String)
  /-- A record key that is no text or is empty. -/
  | keyNotText (field shown : String)
  /-- A colour that is neither a text nor a tuple. -/
  | unsupportedColor (typeText : String)
  /-- A text that names no colour. -/
  | unrecognizedColor (shown : String)
  /-- A colour with its transparency whose numbers are too large. -/
  | colorOutOfRange (shown : String)
  /-- A colour with another number of channels than three or four. -/
  | channelCount (shown : String)
  /-- A channel below 0 or above 255. -/
  | channelOutOfRange (shown : String)
  deriving DecidableEq, Repr

/-- The wording of a fault in the options. -/
def ConfigCause.message : ConfigCause → String
  | unknownOption shown => s!"unknown chart option: {shown}"
  | unsupportedOptions typeText => s!"unsupported options type: {typeText}"
  | unsupportedKind shown => s!"unsupported chart kind: {shown}"
  | heightNotNumber shown => s!"height must be a number, got {shown}"
  | heightNotPositive shown => s!"height must be > 0 after rounding, got {shown}"
  | keyNotText field shown => s!"{field} must be a non-empty string, got {shown}"
  | unsupportedColor typeText => s!"unsupported color type: {typeText}"
  | unrecognizedColor shown => s!"unrecognized color: {shown}"
  | colorOutOfRange shown => s!"color out of range: {shown}"
  | channelCount shown => s!"color must have 3 or 4 channels: {shown}"
  | channelOutOfRange shown => s!"color channel out of range: {shown}"

/-! ### Data that is no series -/

/-- What is wrong with the data of a chart. -/
inductive DataCause where
  /-- A time that is marked as unknown. -/
  | unknownTime
  /-- A value of a type that tells no time. -/
  | unsupportedTime (typeText : String)
  /-- A time that is infinite or no number. -/
  | timeNotFinite (shown : String)
  /-- A text that is no time. -/
  | unreadableTime (shown : String)
  /-- A value that is no number. -/
  | valueNotNumeric (shown : String)
  /-- A value that is infinite or no number. -/
  | valueNotFinite (shown : String)
  /-- Data that holds no records at all. -/
  | unsupportedSeries (typeText : String)
  /-- A table without a column of that name. -/
  | missingColumn (key : String)
  /-- A keyed record without one of the two keys. -/
  | missingKey (index : Nat) (timeKey valueKey : String)
  /-- A sequence of another length than two. -/
  | notAPair (index : Nat)
  /-- A record of a type that holds no time and value. -/
  | unsupportedRecord (index : Nat) (typeText : String)
  /-- A record whose time or value is at fault. -/
  | inRecord (index : Nat) (cause : DataCause)
  deriving DecidableEq, Repr

/-- The wording of a fault in the data. -/
def DataCause.message : DataCause → String
  | unknownTime => "timestamp is NaT"
  | unsupportedTime typeText => s!"unsupported timestamp type: {typeText}"
  | timeNotFinite shown => s!"timestamp is not finite: {shown}"
  | unreadableTime shown => s!"unparseable timestamp: {shown}"
  | valueNotNumeric shown => s!"value is not numeric: {shown}"
  | valueNotFinite shown => s!"value is not finite: {shown}"
  | unsupportedSeries typeText => s!"unsupported series input type: {typeText}"
  | missingColumn key => s!"column not found: {key}"
  | missingKey index timeKey valueKey =>
    "record " ++ toString index ++ " is missing `" ++ timeKey ++ "` or `" ++ valueKey ++ "`"
  | notAPair index => s!"record {index} must be a (timestamp, value) pair"
  | unsupportedRecord index typeText => s!"record {index} has unsupported type: {typeText}"
  | inRecord index cause => s!"record {index}: {cause.message}"

/-! ### Arguments that cannot be used -/

/-- An argument of the right type with a value that cannot be used. -/
inductive InvalidCause where
  | emptySeries
  | tickCount
  | hoverDistance
  | hostWidth
  | chartWidth
  | pixelRatio
  | contextSize
  | canvasSize
  | snapshotShape
  | unknownEvent (name : String)
  /-- A whole number was asked of a float that is no number. -/
  | integerOfNaN
  /-- A whole number was asked of a decimal that is no number. -/
  | integerOfDecimalNaN
  | signalingNaN
  | unreadableFloat (shown : String)
  | unreadableInteger (shown : String)
  | tooManyDigits (count : Nat)
  /-- A whole number was to be shown that has too many digits. -/
  | tooLongToShow
  | missingPrecision
  | formatSpecifier (specifier : String)
  /-- More decimal places than a count of them can have. -/
  | tooManyPlaces
  /-- More decimal places than can be written. -/
  | tooManyWrittenPlaces
  | yearOutOfRange (year : Int)
  | unknownTimestamp
  /-- Truth was asked of something with any number of members but one. -/
  | truthOfEmptyArray
  | truthOfArray
  | truthOfTable
  /-- The columns of a table are not equally long. -/
  | columnLengths
  /-- Nested lists whose members differ in form below the given sizes. -/
  | raggedArray (shape : List Nat)
  | negativeSize
  /-- A size that does not fit the machine. -/
  | sizeTooLarge
  /-- Sizes whose product does not fit the machine. -/
  | arrayTooLarge
  /-- More ticks than an array can have elements. -/
  | tooManyTicks
  /-- Pixels that do not fit the part of the canvas they are copied to. -/
  | pastedShape (source target : List Nat)
  /-- Coverages that cannot be spread over the pixels they are meant for. -/
  | coverageShape (source target : List Nat)
  /-- Coverages with more directions than the pixels they are meant for. -/
  | coverageDirections
  | imageType
  | imageShape
  | imageEmpty
  | nothingToExport
  deriving DecidableEq, Repr

/-- A shape as a tuple of sizes; a comma follows the size of a single direction. -/
def shapeText (sizes : List Nat) (separator : String := ",") : String :=
  "(" ++ separator.intercalate (sizes.map toString) ++ (if sizes.length = 1 then ",)" else ")")

/-- The wording of a fault in a value. -/
def InvalidCause.message : InvalidCause → String
  | emptySeries => "cannot compute the domain of an empty series"
  | tickCount => "count must be > 0"
  | hoverDistance => "hover_distance_px must be > 0"
  | hostWidth => "width must be >= 0"
  | chartWidth => "width must be > 0"
  | pixelRatio => "pixel_ratio must be > 0"
  | contextSize => "width and height must be >= 0"
  | canvasSize => "canvas width/height must be >= 0"
  | snapshotShape => "snapshot shape does not match canvas"
  | unknownEvent name => s!"unknown pointer event type: {name}"
  | integerOfNaN => "cannot convert float NaN to integer"
  | integerOfDecimalNaN => "cannot convert NaN to integer"
  | signalingNaN => "cannot convert signaling NaN to float"
  | unreadableFloat shown => s!"could not convert string to float: {shown}"
  | unreadableInteger shown => s!"invalid literal for int() with base 10: {shown}"
  | tooManyDigits count =>
    s!"Exceeds the limit (4300 digits) for integer string conversion: value has {count} digits; " ++
      "use sys.set_int_max_str_digits() to increase the limit"
  | tooLongToShow =>
    "Exceeds the limit (4300 digits) for integer string conversion; " ++
      "use sys.set_int_max_str_digits() to increase the limit"
  | missingPrecision => "Format specifier missing precision"
  | formatSpecifier specifier =>
    s!"Invalid format specifier '{specifier}' for object of type 'float'"
  | tooManyPlaces => "Too many decimal digits in format string"
  | tooManyWrittenPlaces => "precision too big"
  | yearOutOfRange year => s!"year {year} is out of range"
  | unknownTimestamp => "NaTType does not support timestamp"
  | truthOfEmptyArray =>
    "The truth value of an empty array is ambiguous. Use `array.size > 0` to check that an " ++
      "array is not empty."
  | truthOfArray =>
    "The truth value of an array with more than one element is ambiguous. Use a.any() or a.all()"
  | truthOfTable =>
    "The truth value of a DataFrame is ambiguous. Use a.empty, a.item(), a.any() or a.all()."
  | columnLengths => "All arrays must be of the same length"
  | raggedArray shape =>
    "setting an array element with a sequence. The requested array has an inhomogeneous shape " ++
      s!"after {shape.length} dimensions. The detected shape was " ++ shapeText shape ", " ++
      " + inhomogeneous part."
  | negativeSize => "negative dimensions are not allowed"
  | sizeTooLarge => "Maximum allowed dimension exceeded"
  | arrayTooLarge =>
    "array is too big; `arr.size * arr.dtype.itemsize` is larger than the maximum possible size."
  | tooManyTicks => "Maximum allowed size exceeded"
  | pastedShape source target =>
    s!"could not broadcast input array from shape {shapeText source} into shape {shapeText target}"
  | coverageShape source target =>
    "operands could not be broadcast together with remapped shapes [original->remapped]: " ++
      s!"{shapeText source}  and requested shape {shapeText target}"
  | coverageDirections =>
    "input operand has more dimensions than allowed by the axis remapping"
  | imageType => "frame_rgba must be uint8"
  | imageShape => "frame_rgba must have shape (H, W, 4)"
  | imageEmpty => "frame_rgba must be non-empty"
  | nothingToExport => "surface is not attached; nothing to export"

/-- An argument of a type that cannot be used. -/
inductive MistypedCause where
  | notFloat (typeName : String)
  | notInteger (typeName : String)
  | notRoundable (typeName : String)
  | notComparable (operator leftType rightType : String)
  /-- A number was asked of an array with directions. -/
  | numberOfArray
  /-- An array without directions was to be walked through. -/
  | walkOfNumber
  /-- Something that can change was to be remembered by its value. -/
  | notMemorable (typeName : String)
  /-- A decimal that signals was to be remembered by its value. -/
  | signalingMemory
  /-- A name that no type of elements has. -/
  | unknownElements (shown : String)
  | unexpectedArgument (owner name : String)
  | repeatedArgument (owner function name : String)
  deriving DecidableEq, Repr

/-- The wording of a fault in a type. -/
def MistypedCause.message : MistypedCause → String
  | notFloat typeName => s!"float() argument must be a string or a real number, not '{typeName}'"
  | notInteger typeName =>
    s!"int() argument must be a string, a bytes-like object or a real number, not '{typeName}'"
  | notRoundable typeName => s!"type {typeName} doesn't define __round__ method"
  | notComparable operator leftType rightType =>
    s!"'{operator}' not supported between instances of '{leftType}' and '{rightType}'"
  | numberOfArray => "only 0-dimensional arrays can be converted to Python scalars"
  | walkOfNumber => "iteration over a 0-d array"
  | notMemorable typeName => s!"unhashable type: '{typeName}'"
  | signalingMemory => "Cannot hash a signaling NaN value"
  | unknownElements shown => s!"data type {shown} not understood"
  | unexpectedArgument owner name =>
    s!"{owner}.__init__() got an unexpected keyword argument '{name}'"
  | repeatedArgument owner function name =>
    s!"{owner}.{function}() got multiple values for argument '{name}'"

/-- A number that leaves the range of what is computed from it. -/
inductive OverflowCause where
  | integerTooLarge
  | integerOfInfinity
  | integerOfDecimalInfinity
  /-- A whole number that the elements of an array cannot hold. -/
  | outOfBounds (value : Int) (elementType : String)
  | secondsOutOfRange
  deriving DecidableEq, Repr

/-- The wording of an overflow. -/
def OverflowCause.message : OverflowCause → String
  | integerTooLarge => "int too large to convert to float"
  | integerOfInfinity => "cannot convert float infinity to integer"
  | integerOfDecimalInfinity => "cannot convert Infinity to integer"
  | outOfBounds value elementType =>
    s!"Python integer {value} out of bounds for {elementType}"
  | secondsOutOfRange => "timestamp out of range for platform time_t"

/-! ### All faults -/

/-- Everything that can go wrong. -/
inductive Fault where
  | config (cause : ConfigCause)
  | data (cause : DataCause)
  /-- A chart that already has a host was to be attached to one. -/
  | alreadyAttached
  | invalid (cause : InvalidCause)
  | mistyped (cause : MistypedCause)
  | overflow (cause : OverflowCause)
  /-- An order was asked of a decimal that is no number. -/
  | unordered
  /-- A place behind the last one was asked for. -/
  | beyondEnd (place size : Nat)
  /-- A value was asked for something that its type does not have. -/
  | missingAttribute (typeName name : String)
  /-- An array that takes more memory than there is; the amount is already shown. -/
  | outOfMemory (shown : String) (shape : List Nat) (elementType : String)
  /-- The year of an instant does not fit the system's calendar. -/
  | calendarOverflow
  /-- The font has no glyph for a run of characters: the first of them as an escape, where the
  run starts, and how many it has. -/
  | unencodable (escape : String) (start count : Nat)
  /-- A pointer handler or the body of a mounted block gave up on its own account. -/
  | raised (text : String)
  deriving DecidableEq, Repr

/-- The wording of a fault. -/
def Fault.message : Fault → String
  | config cause => cause.message
  | data cause => cause.message
  | alreadyAttached => "surface is already attached"
  | invalid cause => cause.message
  | mistyped cause => cause.message
  | overflow cause => cause.message
  | unordered => "[<class 'decimal.InvalidOperation'>]"
  | beyondEnd place size => s!"index {place} is out of bounds for axis 0 with size {size}"
  | missingAttribute typeName name => s!"'{typeName}' object has no attribute '{name}'"
  | outOfMemory shown shape elementType =>
    s!"Unable to allocate {shown} for an array with shape " ++ shapeText shape ", " ++
      s!" and data type {elementType}"
  | calendarOverflow => "[Errno 75] Value too large for defined data type"
  | unencodable escape start count =>
    if count = 1 then
      s!"'latin-1' codec can't encode character '{escape}' in position {start}: " ++
        "ordinal not in range(256)"
    else
      s!"'latin-1' codec can't encode characters in position {start}-{start + count - 1}: " ++
        "ordinal not in range(256)"
  | raised text => text

/-! ### Computations that may give up -/

/-- A computation without state as a part of one that keeps a state. What the state was when the
part gave up is kept. -/
def Fault.lift {State Result : Type} : Except Fault Result → EStateM Fault State Result
  | .ok result => pure result
  | .error fault => throw fault

instance {State : Type} : MonadLift (Except Fault) (EStateM Fault State) where
  monadLift := Fault.lift

end SeriesChart
