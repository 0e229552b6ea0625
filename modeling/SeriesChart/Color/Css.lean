/-
This file reads the colours of style sheets. A text may be a name, a number sign with
three, four, six or eight hexadecimal digits, or one of the functions for red, green and
blue, in whole numbers or percentages, for hue, saturation and lightness, and for hue,
saturation and value. The function with an opacity between nought and one is read first
and by its own rules.
-/

import SeriesChart.Color.Basic
import SeriesChart.Color.Names
import SeriesChart.Number.Numeral
import SeriesChart.Text.Lowercase

namespace SeriesChart.Color

open Text

/-! ### Pieces of a function

Each piece takes characters from the front and returns what it read with the rest. -/

/-- The given characters. -/
def literal : List Char → List Char → Option (List Char)
  | [], rest => some rest
  | expected :: others, character :: rest =>
    if character = expected then literal others rest else none
  | _ :: _, [] => none

/-- Any number of blanks. -/
def skipBlanks (characters : List Char) : List Char := characters.dropWhile isBlank

/-- One or more decimal digits of any script. -/
def digits1 (characters : List Char) : Option (List Char × List Char) :=
  match characters.takeWhile isDecimalDigit with
  | [] => none
  | digits => some (digits, characters.dropWhile isDecimalDigit)

/-- Digits, and after a point any number of further digits. -/
def decimalDigits (characters : List Char) : Option (List Char × List Char) := do
  let (whole, rest) ← digits1 characters
  match rest with
  | '.' :: afterPoint =>
    some (whole ++ '.' :: afterPoint.takeWhile isDecimalDigit,
      afterPoint.dropWhile isDecimalDigit)
  | _ => some (whole, rest)

/-- ASCII digits with a point among or before them, but not after them. -/
def opacityDigits (characters : List Char) : Option (List Char × List Char) :=
  let whole := characters.takeWhile Char.isDigit
  let rest := characters.dropWhile Char.isDigit
  match rest with
  | '.' :: afterPoint =>
    match afterPoint.takeWhile Char.isDigit with
    | [] => if whole = [] then none else some (whole, rest)
    | fraction => some (whole ++ '.' :: fraction, afterPoint.dropWhile Char.isDigit)
  | _ => if whole = [] then none else some (whole, rest)

/-- The arguments of a function: for each a way to read it and the characters that follow it at
once. Commas part them, and blanks may stand around them. -/
def arguments :
    List ((List Char → Option (List Char × List Char)) × List Char) → List Char →
      Option (List (List Char) × List Char)
  | [], rest => some ([], rest)
  | (read, unit) :: others, characters => do
    let (argument, rest) ← read (skipBlanks characters)
    let rest := skipBlanks (← literal unit rest)
    let rest ← if others.isEmpty then some rest else literal [','] rest
    let (more, rest) ← arguments others rest
    some (argument :: more, rest)

/-- Nothing, or a line feed alone. -/
def isEnd (characters : List Char) : Bool := characters = [] || characters = ['\n']

/-- The arguments of the named function, when the whole text is a call of it. -/
def call (name : String)
    (pieces : List ((List Char → Option (List Char × List Char)) × List Char))
    (characters : List Char) : Option (List (List Char)) := do
  let rest ← literal (name.toList ++ ['(']) characters
  let (found, rest) ← arguments pieces rest
  if isEnd (← literal [')'] rest) then some found else none

/-! ### Channels -/

/-- The whole number of the digits of a function. Too many digits are refused. -/
def wholeOf (digits : List Char) : Except Fault Int :=
  Numeral.readInt (quoted (String.ofList digits)) digits

/-- The float of the digits of a function, which are always readable. -/
def floatOf (digits : List Char) : Float := (Numeral.readFloat? digits).getD 0.0

/-- A percentage of 255, rounded half up. -/
def channelOfPercentage (percentage : Int) : Except Fault Int := do
  let scaled ← Binary.ofInt (percentage * 255)
  Binary.toWhole .towardZero (scaled / 100.0 + 0.5)

/-- A part of one as a channel, rounded half up. -/
def channelOfPart (part : Float) : Except Fault Int :=
  Binary.toWhole .towardZero (part * 255.0 + 0.5)

/-! ### Hue, saturation, lightness and value -/

/-- The part of a number behind its point, toward zero. -/
def fractionOf (value : Float) : Except Fault Float := do
  return value - Float.ofInt (← Binary.toWhole .towardZero value)

/-- The place of a hue on the circle: a number from nought to one. -/
def wrapHue (hue : Float) : Except Fault Float := do
  let fraction ← fractionOf hue
  return if fraction < 0.0 then fraction + 1.0 else fraction

/-- The part of one channel, between the two extremes of a colour, at a hue. -/
def partAtHue (low high hue : Float) : Except Fault Float := do
  let hue ← wrapHue hue
  return if hue < 1.0 / 6.0 then low + (high - low) * hue * 6.0
    else if hue < 0.5 then high
    else if hue < 2.0 / 3.0 then low + (high - low) * (2.0 / 3.0 - hue) * 6.0
    else low

/-- The parts of the three channels of a hue, a lightness and a saturation. -/
def partsOfLightness (hue lightness saturation : Float) : Except Fault (List Float) := do
  if saturation == 0.0 then return [lightness, lightness, lightness]
  let high :=
    if lightness ≤ 0.5 then lightness * (1.0 + saturation)
    else lightness + saturation - lightness * saturation
  let low := 2.0 * lightness - high
  let third := 1.0 / 3.0
  return [← partAtHue low high (hue + third), ← partAtHue low high hue,
    ← partAtHue low high (hue - third)]

/-- The parts of the three channels of a hue, a saturation and a value. -/
def partsOfValue (hue saturation value : Float) : Except Fault (List Float) := do
  if saturation == 0.0 then return [value, value, value]
  let sector ← Binary.toWhole .towardZero (hue * 6.0)
  let fraction := hue * 6.0 - Float.ofInt sector
  let low := value * (1.0 - saturation)
  let falling := value * (1.0 - saturation * fraction)
  let rising := value * (1.0 - saturation * (1.0 - fraction))
  return match sector % 6 with
    | 0 => [value, rising, low]
    | 1 => [falling, value, low]
    | 2 => [low, value, rising]
    | 3 => [low, falling, value]
    | 4 => [rising, low, value]
    | _ => [value, low, falling]

/-! ### Texts -/

/-- The value of a lower case hexadecimal digit. -/
def hexValue? (character : Char) : Option Int :=
  if character.isDigit then some (character.toNat - 48)
  else if 'a' ≤ character && character ≤ 'f' then some (character.toNat - 87)
  else none

/-- The channels of hexadecimal digits: one digit each, which is doubled, or two. -/
def channelsOfHex : List Int → Option (List Int)
  | [red, green, blue] => some [red * 17, green * 17, blue * 17]
  | [red, green, blue, alpha] => some [red * 17, green * 17, blue * 17, alpha * 17]
  | [r, s, g, h, b, c] => some [r * 16 + s, g * 16 + h, b * 16 + c]
  | [r, s, g, h, b, c, a, d] => some [r * 16 + s, g * 16 + h, b * 16 + c, a * 16 + d]
  | _ => none

/-- The channels of a text that starts with a number sign. -/
def hex? (characters : List Char) : Option (List Int) := do
  let rest ← literal ['#'] characters
  let digits := rest.takeWhile fun character => (hexValue? character).isSome
  if isEnd (rest.drop digits.length) then channelsOfHex (← digits.mapM hexValue?) else none

/-- The functions other than that with an opacity between nought and one. -/
def function? (characters : List Char) : Option (Except Fault (List Int)) :=
  let whole := (digits1, [])
  let percentage := (digits1, ['%'])
  let decimal := (decimalDigits, [])
  let decimalPercentage := (decimalDigits, ['%'])
  let hue := [decimal, decimalPercentage, decimalPercentage]
  let ofParts (parts : Except Fault (List Float)) : Except Fault (List Int) := do
    (← parts).mapM channelOfPart
  match call "rgb" [whole, whole, whole] characters with
  | some found => some (found.mapM wholeOf)
  | none =>
  match call "rgb" [percentage, percentage, percentage] characters with
  | some found => some (found.mapM fun digits => do channelOfPercentage (← wholeOf digits))
  | none =>
  match call "hsl" hue characters with
  | some [h, s, l] =>
    some (ofParts (partsOfLightness (floatOf h / 360.0) (floatOf l / 100.0) (floatOf s / 100.0)))
  | some _ => none
  | none =>
  match (call "hsb" hue characters).orElse fun _ => call "hsv" hue characters with
  | some [h, s, v] =>
    some (ofParts (partsOfValue (floatOf h / 360.0) (floatOf s / 100.0) (floatOf v / 100.0)))
  | some _ => none
  | none => (call "rgba" [whole, whole, whole, whole] characters).map (·.mapM wholeOf)

/-- A text names a colour when it has at most this many characters. -/
def longestName : Nat := 100

/-- The three or four channels that a text names; nothing when it names none. -/
def channels? (text : String) : Option (Except Fault (List Int)) :=
  if longestName < text.length then none
  else
    let lowered := lowercase text
    match named? lowered with
    | some (red, green, blue) => some (.ok [red, green, blue])
    | none =>
      match hex? lowered.toList with
      | some channels => some (.ok channels)
      | none => function? lowered.toList

/-- The digits of the function with an opacity between nought and one: red, green and blue, and the
opacity. Its name may be in any case. -/
def opacityCall? (text : String) : Option (List (List Char)) :=
  let characters := stripBoth isBlank text.toList
  let name := characters.takeWhile (· ≠ '(')
  let lowered := name.map Char.toLower ++ characters.drop name.length
  call "rgba" [(digits1, []), (digits1, []), (digits1, []), (opacityDigits, [])] lowered

end SeriesChart.Color
