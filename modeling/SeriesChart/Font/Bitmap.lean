/-
This file holds the built-in font, whose letters are pictures of whole pixels. It has one
size, whatever size is asked for. Each letter moves the pen by six pixels; a character of
Latin-1 without a letter moves nothing, and any other character cannot be set. The null
character ends a text. A text is measured as one line, also when it has several.
-/

import SeriesChart.Font.Basic
import SeriesChart.Font.Glyphs
import SeriesChart.Text.Quoted

namespace SeriesChart

/-! ### Characters -/

/-- The character belongs to Latin-1. -/
def isLatin (character : Char) : Bool := character.toNat < 256

/-- The characters of a text that are set. The first run of characters outside Latin-1 refuses the
text, also after its end. -/
def latinCharacters (text : String) : Except Fault (List Char) :=
  let characters := text.toList
  match characters.dropWhile isLatin with
  | [] => .ok (characters.takeWhile (· ≠ '\x00'))
  | first :: rest =>
    .error (.unencodable (String.ofList (Text.numbered first.toNat))
      (characters.takeWhile isLatin).length
      ((first :: rest).takeWhile fun character => !isLatin character).length)

/-! ### Letters -/

/-- How far a letter moves the pen. -/
def letterWidth : Nat := 6

/-- How high a line of text is. -/
def letterHeight : Nat := 11

/-- The letter as a mask of full and empty cells. -/
def Glyph.mask (glyph : Glyph) : Mask :=
  Mask.ofFunction glyph.width glyph.height fun row column =>
    if glyph.isInked row column then 255 else 0

/-- The letters of characters, set one after the other from a pen position on. -/
def lettersFrom (pen : Nat) : List Char → List Letter
  | [] => []
  | character :: rest =>
    match Glyph.ofChar? character with
    | some glyph =>
      ⟨pen + glyph.left, glyph.top, glyph.mask⟩ :: lettersFrom (pen + letterWidth) rest
    | none => lettersFrom pen rest

/-- The characters of the first line. The next line would begin below the picture of a text, which
is one line high. -/
def firstLine (characters : List Char) : List Char := characters.takeWhile (· ≠ '\n')

/-- The built-in font. -/
def Font.bitmap : Font where
  extent text := do
    let characters ← latinCharacters text
    let letters := characters.countP fun character => (Glyph.ofChar? character).isSome
    return (letterWidth * letters, letterHeight)
  letters text := return lettersFrom 0 (firstLine (← latinCharacters text))

/-- The fonts of a machine without font files: the built-in one stands in for all of them. -/
def Fonts.builtIn : Fonts := ⟨fun _ _ => .bitmap⟩

end SeriesChart
