/-
This file says which characters are blank and takes blanks off the ends of a text. Two
sets are in use: the blanks of the Unicode character database, which surround a time,
and the six of them that also surround a number when the text is plain ASCII.
-/

namespace SeriesChart.Text

/-! ### The two sets -/

/-- The blanks of ASCII texts: the space and the five controls from tab to carriage return. -/
def isAsciiBlank (character : Char) : Bool :=
  character = ' ' || (9 ≤ character.toNat && character.toNat ≤ 13)

/-- The blanks of all texts: those of ASCII, the four information separators, the next-line
control and the space separators and line separators of every script. -/
def isBlank (character : Char) : Bool :=
  let codePoint := character.toNat
  isAsciiBlank character || (0x1C ≤ codePoint && codePoint ≤ 0x1F) || codePoint = 0x85 ||
    codePoint = 0xA0 || codePoint = 0x1680 || (0x2000 ≤ codePoint && codePoint ≤ 0x200A) ||
    codePoint = 0x2028 || codePoint = 0x2029 || codePoint = 0x202F || codePoint = 0x205F ||
    codePoint = 0x3000

/-- The blanks that may surround a number: the information separators are not among them. -/
def isNumberBlank (character : Char) : Bool :=
  isAsciiBlank character || (128 ≤ character.toNat && isBlank character)

/-! ### Taking them off -/

/-- The characters without those of the class at both ends. -/
def stripBoth (class_ : Char → Bool) (characters : List Char) : List Char :=
  ((characters.dropWhile class_).reverse.dropWhile class_).reverse

/-- The text without the blanks at both ends. -/
def strip (text : String) : String := String.ofList (stripBoth isBlank text.toList)

end SeriesChart.Text
