/-
This file writes a text between quotes, as messages show it. The apostrophe is the quote
unless the text holds apostrophes and no double quote. A character without a picture is
written by its number, in two, four or eight hexadecimal digits. Raw bytes are quoted by
the same rules, but there every byte outside ASCII is written by its number.
-/

import SeriesChart.Text.Printable

namespace SeriesChart.Text

/-! ### Hexadecimal digits -/

/-- One hexadecimal digit, in lower case. -/
def hexDigit (value : Nat) : Char :=
  if value < 10 then Char.ofNat (48 + value) else Char.ofNat (87 + value)

/-- The last `count` hexadecimal digits of a number. -/
def hexDigits : Nat → Nat → List Char
  | 0, _ => []
  | count + 1, value => hexDigits count (value / 16) ++ [hexDigit (value % 16)]

/-! ### Escapes -/

/-- The number of a character after a backslash, with as many digits as it needs. -/
def numbered (codePoint : Nat) : List Char :=
  if codePoint < 0x100 then '\\' :: 'x' :: hexDigits 2 codePoint
  else if codePoint < 0x10000 then '\\' :: 'u' :: hexDigits 4 codePoint
  else '\\' :: 'U' :: hexDigits 8 codePoint

/-- One character inside a quoted text. -/
def escaped (quote : Char) (isPlain : Char → Bool) (character : Char) : List Char :=
  if character = quote || character = '\\' then ['\\', character]
  else if character = '\n' then ['\\', 'n']
  else if character = '\r' then ['\\', 'r']
  else if character = '\t' then ['\\', 't']
  else if isPlain character then [character]
  else numbered character.toNat

/-- The quote that a text is written between. -/
def quoteFor (characters : List Char) : Char :=
  if characters.contains '\'' && !characters.contains '"' then '"' else '\''

/-- The characters between quotes. -/
def quoteWith (isPlain : Char → Bool) (characters : List Char) : String :=
  let quote := quoteFor characters
  String.ofList (quote :: characters.flatMap (escaped quote isPlain) ++ [quote])

/-- A text as messages show it. -/
def quoted (text : String) : String := quoteWith isPrintable text.toList

/-- Raw bytes as messages show them: marked by a b before the quote. -/
def quotedBytes (bytes : List UInt8) : String :=
  "b" ++ quoteWith (fun character => 32 ≤ character.toNat && character.toNat < 127)
    (bytes.map fun byte => Char.ofNat byte.toNat)

end SeriesChart.Text
