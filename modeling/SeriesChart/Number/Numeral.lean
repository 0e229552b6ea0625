/-
This file reads numbers from texts. A numeral may stand between blanks, its digits may be
those of any script, and single underscores may part them. A float numeral has a
fraction and an exponent, or is one of the names of the infinities and of what is no
number; it is read as an exact decimal number and rounded once.
-/

import SeriesChart.Number.Binary
import SeriesChart.Text.Blank
import SeriesChart.Text.DecimalDigit
import SeriesChart.Text.Quoted

namespace SeriesChart.Numeral

open Text

/-! ### Plain characters -/

/-- The characters between the blanks, with the digits of every script as ASCII digits. Nothing is
returned when another character outside ASCII remains. -/
def plainCharacters (characters : List Char) : Option (List Char) :=
  (stripBoth isNumberBlank characters).mapM fun character =>
    match digitValue? character with
    | some value => some (Char.ofNat (48 + value))
    | none => if character.toNat < 128 then some character else none

/-- The characters without underscores, each of which must stand between two digits. -/
def withoutUnderscores (previous : Char) : List Char → Option (List Char)
  | [] => some []
  | '_' :: next :: rest =>
    if previous.isDigit && next.isDigit then (withoutUnderscores next rest).map (next :: ·)
    else none
  | character :: rest =>
    if character = '_' then none else (withoutUnderscores character rest).map (character :: ·)

/-- The number that decimal digits stand for. -/
def valueOfDigits (digits : List Char) : Nat :=
  digits.foldl (fun value digit => 10 * value + (digit.toNat - 48)) 0

/-- A sign, if there is one, and the rest. -/
def splitSign : List Char → Bool × List Char
  | '-' :: rest => (true, rest)
  | '+' :: rest => (false, rest)
  | characters => (false, characters)

/-! ### Floats -/

/-- The exponent after its mark: a sign, at least one digit, and nothing else. -/
def exponentOf (characters : List Char) : Option Int :=
  let (negative, digits) := splitSign characters
  if digits = [] || !digits.all Char.isDigit then none
  else some (if negative then -(valueOfDigits digits : Int) else valueOfDigits digits)

/-- The float nearest to `digits * 10 ^ exponent`. -/
def nearestFloat (digits : Nat) (exponent : Int) : Float :=
  Float.ofScientific digits (exponent < 0) exponent.natAbs

/-- An unsigned float numeral: digits with an optional point among or beside them, and an optional
exponent. -/
def decimalOf (characters : List Char) : Option Float :=
  let whole := characters.takeWhile Char.isDigit
  let afterWhole := characters.dropWhile Char.isDigit
  let (fraction, rest) :=
    match afterWhole with
    | '.' :: afterPoint =>
      (afterPoint.takeWhile Char.isDigit, afterPoint.dropWhile Char.isDigit)
    | _ => ([], afterWhole)
  if whole = [] && fraction = [] then none
  else
    let digits := valueOfDigits (whole ++ fraction)
    match rest with
    | [] => some (nearestFloat digits (-fraction.length))
    | mark :: afterMark =>
      if mark = 'e' || mark = 'E' then
        (exponentOf afterMark).map fun exponent =>
          nearestFloat digits (exponent - fraction.length)
      else none

/-- A signed float numeral, or one of the three names in any case. -/
def floatOf (characters : List Char) : Option Float :=
  let (negative, rest) := splitSign characters
  let name := String.ofList (rest.map Char.toLower)
  let magnitude :=
    if name = "inf" || name = "infinity" then some (1.0 / 0.0)
    else if name = "nan" then some (0.0 / 0.0)
    else decimalOf rest
  magnitude.map fun value => if negative then -value else value

/-- The float that a text stands for. -/
def readFloat? (characters : List Char) : Option Float :=
  (plainCharacters characters).bind fun plain =>
    (withoutUnderscores ' ' plain).bind floatOf

/-! ### Whole numbers -/

/-- A numeral of a whole number may have at most this many digits. -/
def digitLimit : Nat := 4300

/-- The whole number that a text stands for; the fault names the text as it is shown. -/
def readInt (shown : String) (characters : List Char) : Except Fault Int :=
  let unreadable : Except Fault Int :=
    .error (.invalid (.unreadableInteger (String.ofList (shown.toList.take 200))))
  match (plainCharacters characters).map splitSign with
  | none => unreadable
  | some (negative, rest) =>
    match withoutUnderscores ' ' rest with
    | none => unreadable
    | some digits =>
      if digits = [] || !digits.all Char.isDigit then unreadable
      else if digitLimit < digits.length then .error (.invalid (.tooManyDigits digits.length))
      else .ok (if negative then -(valueOfDigits digits : Int) else valueOfDigits digits)

end SeriesChart.Numeral
