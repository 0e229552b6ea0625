/-
This file holds decimal numbers that keep the digits they were written with: `1.10` and
`1.1` are equal but look different. It reads them, writes them, and takes them to floats
and to whole numbers.
-/

import SeriesChart.Number.Numeral
import SeriesChart.Number.Shortest

namespace SeriesChart

/-- A decimal number: `± digits * 10 ^ exponent`, an infinity, or no number. What is no number may
carry a whole number with it, and signals when it is told to. -/
inductive Decimal where
  | finite (negative : Bool) (digits : Nat) (exponent : Int)
  | infinite (negative : Bool)
  | undefined (negative signaling : Bool) (payload : Nat)
  deriving DecidableEq, Repr

namespace Decimal

/-! ### Reading -/

/-- An unsigned decimal numeral. -/
def finiteOf (negative : Bool) (characters : List Char) : Option Decimal :=
  let whole := characters.takeWhile Char.isDigit
  let afterWhole := characters.dropWhile Char.isDigit
  let (fraction, rest) :=
    match afterWhole with
    | '.' :: afterPoint =>
      (afterPoint.takeWhile Char.isDigit, afterPoint.dropWhile Char.isDigit)
    | _ => ([], afterWhole)
  if whole = [] && fraction = [] then none
  else
    let digits := Numeral.valueOfDigits (whole ++ fraction)
    match rest with
    | [] => some (.finite negative digits (-fraction.length))
    | mark :: afterMark =>
      if mark = 'e' || mark = 'E' then
        (Numeral.exponentOf afterMark).map fun exponent =>
          .finite negative digits (exponent - fraction.length)
      else none

/-- What is no number, after its name: the whole number that it carries. -/
def undefinedOf (negative signaling : Bool) (digits : List Char) : Option Decimal :=
  if digits.all Char.isDigit then
    some (.undefined negative signaling (Numeral.valueOfDigits digits))
  else none

/-- The decimal number that a text stands for. Underscores are passed over. -/
def ofText? (text : String) : Option Decimal := do
  let plain ← Numeral.plainCharacters (Text.stripBoth Text.isBlank text.toList)
  let (negative, rest) := Numeral.splitSign (plain.filter (· ≠ '_'))
  match rest.map Char.toLower with
  | ['i', 'n', 'f'] => some (.infinite negative)
  | ['i', 'n', 'f', 'i', 'n', 'i', 't', 'y'] => some (.infinite negative)
  | 'n' :: 'a' :: 'n' :: payload => undefinedOf negative false payload
  | 's' :: 'n' :: 'a' :: 'n' :: payload => undefinedOf negative true payload
  | _ => finiteOf negative rest

/-! ### Writing -/

/-- The digits and the exponent of a magnitude as text: positional when the number is not above its
digits and not far below one, with an exponent otherwise. -/
def magnitudeText (digits : Nat) (exponent : Int) : String :=
  let characters := Nat.toDigits 10 digits
  let leftDigits := exponent + characters.length
  let point := if exponent ≤ 0 ∧ -6 < leftDigits then leftDigits else 1
  let shown :=
    if point ≤ 0 then '0' :: '.' :: List.replicate (-point).toNat '0' ++ characters
    else
      let whole := point.toNat
      let fraction := characters.drop whole
      characters.take whole ++ List.replicate (whole - characters.length) '0' ++
        (if fraction = [] then [] else '.' :: fraction)
  String.ofList shown ++
    (if leftDigits = point then ""
      else "E" ++ (if leftDigits < point then "-" else "+") ++
        toString (leftDigits - point).natAbs)

/-- A decimal number as text, with the digits it was written with. -/
def text : Decimal → String
  | .finite negative digits exponent =>
    (if negative then "-" else "") ++ magnitudeText digits exponent
  | .infinite negative => (if negative then "-" else "") ++ "Infinity"
  | .undefined negative signaling payload =>
    (if negative then "-" else "") ++ (if signaling then "sNaN" else "NaN") ++
      (if payload = 0 then "" else toString payload)

/-! ### Other numbers -/

/-- The nearest float. What signals is refused. -/
def toFloat : Decimal → Except Fault Float
  | .finite negative digits exponent =>
    let magnitude := Numeral.nearestFloat digits exponent
    .ok (if negative then -magnitude else magnitude)
  | .infinite negative => .ok (if negative then -1.0 / 0.0 else 1.0 / 0.0)
  | .undefined _ true _ => .error (.invalid .signalingNaN)
  | .undefined _ false _ => .ok (0.0 / 0.0)

/-- The whole number toward zero. -/
def toInt : Decimal → Except Fault Int
  | .finite negative digits exponent =>
    .ok (Rounding.towardZero.quotient (Binary.signed negative (digits * tenTo exponent.toNat))
      (tenTo (-exponent).toNat))
  | .infinite _ => .error (.overflow .integerOfDecimalInfinity)
  | .undefined .. => .error (.invalid .integerOfDecimalNaN)

/-- Zero, with or without a sign. -/
def isZero : Decimal → Bool
  | .finite _ digits _ => digits = 0
  | _ => false

/-- The number is below zero. What is no number has no place in the order. -/
def isNegative : Decimal → Except Fault Bool
  | .finite negative digits _ => .ok (negative && digits ≠ 0)
  | .infinite negative => .ok negative
  | .undefined .. => .error .unordered

/-- The number is zero or below. -/
def isAtMostZero (value : Decimal) : Except Fault Bool :=
  return value.isZero || (← value.isNegative)

end Decimal

end SeriesChart
