/-
This file makes colours of the values of options. A text is read as a style sheet would
read it; a tuple of three or four numbers gives the channels, and the opacity is full when
it is left out. Every channel of the result is in range.
-/

import SeriesChart.Color.Css
import SeriesChart.Value.Number

namespace SeriesChart.Color

/-- Three or four channels as a colour. A fault shows the value that they come from. -/
def ofChannels (source : Value) : List Int → Except Fault Color
  | [red, green, blue] => check ⟨red, green, blue, 255⟩
  | [red, green, blue, alpha] => check ⟨red, green, blue, alpha⟩
  | _ => source.refuse fun shown => .config (.channelCount shown)
where
  /-- Refuses a colour with a channel out of range. -/
  check (color : Color) : Except Fault Color :=
    if color.isValid then .ok color
    else source.refuse fun shown => .config (.channelOutOfRange shown)

theorem isValid_of_check {source : Value} {checked color : Color}
    (made : ofChannels.check source checked = .ok color) : color.isValid = true := by
  unfold ofChannels.check at made
  split at made
  · cases made
    assumption
  · exact absurd made (source.refuse_ne_ok _ _)

theorem isValid_of_ofChannels {source : Value} {channels : List Int} {color : Color}
    (made : ofChannels source channels = .ok color) : color.isValid = true := by
  unfold ofChannels at made
  split at made
  · exact isValid_of_check made
  · exact isValid_of_check made
  · exact absurd made (source.refuse_ne_ok _ _)

/-- The colour of the function with an opacity between nought and one. -/
def ofOpacityCall (shown : String) (red green blue opacity : List Char) : Except Fault Color := do
  let red ← wholeOf red
  let green ← wholeOf green
  let blue ← wholeOf blue
  let opacity := floatOf opacity
  if 255 < red || 255 < green || 255 < blue || 1.0 < opacity then
    throw (.config (.colorOutOfRange shown))
  return ⟨red, green, blue, ← Binary.toWhole .nearestEven (opacity * 255.0)⟩

/-- The colour that a text names. -/
def ofText (text : String) : Except Fault Color :=
  let shown := Text.quoted text
  match opacityCall? text with
  | some [red, green, blue, opacity] => ofOpacityCall shown red green blue opacity
  | _ =>
    match channels? text with
    | some (.ok channels) => ofChannels (.text text) channels
    | none | some (.error (.invalid _)) => .error (.config (.unrecognizedColor shown))
    | some (.error fault) => .error fault

/-- The colour that a value stands for. -/
def ofValue (value : Value) : Except Fault Color :=
  match value with
  | .text text => ofText text
  | .tuple items =>
    if items.length = 3 ∨ items.length = 4 then do ofChannels value (← items.mapM Value.toInt)
    else value.refuse fun shown => .config (.channelCount shown)
  | other => .error (.config (.unsupportedColor other.typeText))

/-- A colour as the tuple of its channels. -/
def toValue (color : Color) : Value :=
  .tuple [.int color.red, .int color.green, .int color.blue, .int color.alpha]

/-- A colour in range is made again of its own channels. -/
theorem ofValue_toValue (color : Color) (valid : color.isValid = true) :
    ofValue color.toValue = .ok color := by
  simp [ofValue, toValue, Value.toInt, ofChannels, ofChannels.check, valid, pure, Except.pure,
    bind, Except.bind]

end SeriesChart.Color
