/-
This file says which arrays the machine can hold. An array has elements of one type and a
size along every direction; the sizes are looked at one by one before their product is, and
the product before the memory that it takes.
-/

import SeriesChart.Fault
import SeriesChart.Number.Power
import SeriesChart.Number.Rounding
import SeriesChart.Text.Quoted

namespace SeriesChart

/-! ### Elements -/

/-- The elements that an array may have. -/
inductive ElementType where
  /-- Whole numbers of some bits, with a sign or without one. -/
  | whole (isSigned : Bool) (bits : Nat)
  /-- Anything else, by the name it was asked for with. -/
  | other (name : String)
  deriving DecidableEq, Repr

namespace ElementType

/-- Bytes. -/
def byte : ElementType := .whole false 8

/-- Numbers of double precision. -/
def double : ElementType := .other "float64"

/-- The spellings of the whole numbers without a sign, and how many bits they have. -/
def unsignedNames : List (String × Nat) :=
  [("uint8", 8), ("u1", 8), ("|u1", 8), ("<u1", 8), (">u1", 8), ("=u1", 8), ("ubyte", 8),
    ("B", 8), ("uint16", 16), ("u2", 16), ("<u2", 16), (">u2", 16), ("ushort", 16), ("H", 16),
    ("uint32", 32), ("u4", 32), ("<u4", 32), (">u4", 32), ("uintc", 32), ("I", 32),
    ("uint64", 64), ("u8", 64), ("<u8", 64), (">u8", 64), ("uint", 64), ("ulong", 64), ("L", 64),
    ("ulonglong", 64), ("Q", 64), ("uintp", 64), ("P", 64)]

/-- The spellings of the whole numbers with a sign, and how many bits they have. -/
def signedNames : List (String × Nat) :=
  [("int8", 8), ("i1", 8), ("|i1", 8), ("<i1", 8), (">i1", 8), ("=i1", 8), ("byte", 8), ("b", 8),
    ("int16", 16), ("i2", 16), ("<i2", 16), (">i2", 16), ("short", 16), ("h", 16), ("int32", 32),
    ("i4", 32), ("<i4", 32), (">i4", 32), ("intc", 32), ("i", 32), ("int64", 64), ("i8", 64),
    ("<i8", 64), (">i8", 64), ("int", 64), ("int_", 64), ("long", 64), ("l", 64),
    ("longlong", 64), ("q", 64), ("intp", 64), ("p", 64)]

/-- The names of all other elements, spelled out and short. -/
def otherNames : List String :=
  ["bool", "bool_", "?", "b1", "|b1", "float16", "half", "e", "f2", "<f2", ">f2", "float32",
    "single", "f", "f4", "<f4", ">f4", "float64", "double", "float", "d", "f8", "<f8", ">f8",
    "longdouble", "float128", "g", "f16", "complex64", "csingle", "F", "c8", "complex128",
    "cdouble", "complex", "D", "c16", "clongdouble", "complex256", "G", "c32", "object", "object_",
    "O", "str", "str_", "U", "bytes", "bytes_", "S", "void", "V", "datetime64", "M8", "M",
    "timedelta64", "m8", "m"]

/-- The elements of a name. -/
def ofName (name : String) : Except Fault ElementType :=
  match unsignedNames.lookup name, signedNames.lookup name with
  | some bits, _ => .ok (.whole false bits)
  | none, some bits => .ok (.whole true bits)
  | none, none =>
    if name ∈ otherNames then .ok (.other name)
    else .error (.mistyped (.unknownElements (Text.quoted name)))

/-- What the elements are called. -/
def name : ElementType → String
  | .whole isSigned bits => (if isSigned then "int" else "uint") ++ toString bits
  | .other name => name

/-- How many bytes an element has. -/
def size : ElementType → Nat
  | .whole _ bits => bits / 8
  | .other name => ([("bool", 1), ("float16", 2), ("float32", 4)].lookup name).getD 8

/-- Refuses a whole number that an element cannot hold. -/
def check (element : ElementType) (value : Int) : Except Fault Unit :=
  match element with
  | .whole isSigned bits =>
    let low : Int := if isSigned then -twoTo (bits - 1) else 0
    let high : Int := twoTo (if isSigned then bits - 1 else bits)
    if low ≤ value && value < high then .ok ()
    else .error (.overflow (.outOfBounds value element.name))
  | .other _ => .ok ()

end ElementType

/-! ### Amounts of memory -/

/-- A quotient with three digits; a point follows them where none stands between them. -/
def threeDigits (numerator denominator : Nat) : String :=
  let rounded (places : Nat) : Nat :=
    (Rounding.nearestEven.quotient (tenTo places * numerator) denominator).toNat
  let withPoint (places count : Nat) : String :=
    let digits := Nat.toDigits 10 count
    String.ofList (digits.take (digits.length - places) ++ '.' ::
      digits.drop (digits.length - places))
  if rounded 2 < 1000 then withPoint 2 (rounded 2)
  else if rounded 1 < 1000 then withPoint 1 (rounded 1)
  else withPoint 0 (rounded 0)

/-- An amount of memory in the first unit of which there are fewer than 1024, each unit being 1024
times the one before it. The last unit is taken for all that is larger. -/
def memoryText (bytes unit : Nat) : List String → String
  | [] => threeDigits bytes unit
  | [name] => threeDigits bytes unit ++ " " ++ name
  | name :: larger =>
    if Rounding.nearestEven.quotient bytes unit < 1024 then threeDigits bytes unit ++ " " ++ name
    else memoryText bytes (unit * 1024) larger

/-! ### Arrays -/

/-- The elements of an array and its size along every direction. -/
structure ArrayForm where
  element : ElementType
  shape : List Int
  deriving DecidableEq, Repr

namespace ArrayForm

/-- Neither a size nor the number of bytes of an array reaches this. -/
def sizeLimit : Nat := twoTo 63

/-- No array has so many bytes. -/
def memoryLimit : Nat := twoTo 40

/-- The units in which an amount of memory above the limit is told; the first is the limit. -/
def memoryUnits : List String := ["TiB", "PiB", "EiB"]

/-- The bytes of an array so far, with one more direction. A size of nought is passed over. -/
def bytesWith (bytes : Nat) (size : Int) : Except Fault Nat :=
  if size = 0 then .ok bytes
  else if size < 0 then .error (.invalid .negativeSize)
  else if sizeLimit ≤ bytes * size.toNat then .error (.invalid .arrayTooLarge)
  else .ok (bytes * size.toNat)

/-- The bytes that an array takes. Along a direction of no size it still has one element. -/
def bytes (form : ArrayForm) : Except Fault Nat := do
  if form.shape.any fun size => sizeLimit ≤ size.natAbs then throw (.invalid .sizeTooLarge)
  form.shape.foldlM bytesWith form.element.size

/-- Refuses an array that the machine cannot hold. An array without elements takes no memory. -/
def check (form : ArrayForm) : Except Fault Unit := do
  let bytes ← form.bytes
  if memoryLimit ≤ bytes ∧ 0 ∉ form.shape then
    throw (.outOfMemory (memoryText bytes memoryLimit memoryUnits) (form.shape.map Int.toNat)
      form.element.name)

/-- Refuses an array that cannot be made with one value everywhere. -/
def checkFilled (form : ArrayForm) (fill : Int) : Except Fault Unit := do
  form.check
  form.element.check fill

end ArrayForm

end SeriesChart
