/-
This file holds the letters of the built-in font: for every character that it knows, where
its picture stands in the cell of the character and what the picture looks like. The font
covers the printable part of Latin-1. A row of a picture is a binary number whose highest
digit is the leftmost pixel.
-/

namespace SeriesChart

/-- The picture of one character. The left edge may lie before the cell of the character. -/
structure Glyph where
  code : Nat
  left : Int
  top : Nat
  width : Nat
  rows : List Nat
  deriving DecidableEq, Repr

namespace Glyph

/-- The number of rows. -/
def height (glyph : Glyph) : Nat := glyph.rows.length

/-- The pixel of a row and a column is part of the letter. -/
def isInked (glyph : Glyph) (row column : Nat) : Bool :=
  (glyph.rows.getD row 0).testBit (glyph.width - 1 - column)

/-- The space, signs and digits. -/
def digitsAndSigns : List Glyph :=
  [⟨32, 0, 8, 1, [0]⟩,
    ⟨33, 1, 3, 2, [3, 3, 3, 3, 0, 3]⟩,
    ⟨34, 1, 3, 3, [5, 5, 5]⟩,
    ⟨35, 0, 2, 5, [10, 10, 31, 10, 10, 31, 10, 10]⟩,
    ⟨36, 0, 1, 5, [4, 15, 25, 30, 15, 3, 27, 30, 4]⟩,
    ⟨37, 0, 2, 5, [28, 21, 30, 4, 15, 21, 7]⟩,
    ⟨38, -1, 3, 6, [14, 24, 12, 31, 54, 31]⟩,
    ⟨39, 1, 2, 3, [3, 2, 4]⟩,
    ⟨40, 1, 2, 3, [1, 2, 6, 6, 6, 6, 2, 1]⟩,
    ⟨41, 1, 2, 3, [4, 2, 3, 3, 3, 3, 2, 4]⟩,
    ⟨42, 0, 2, 4, [2, 15, 6, 9]⟩,
    ⟨43, 0, 3, 5, [4, 4, 31, 4, 4]⟩,
    ⟨44, 1, 8, 3, [3, 2, 4]⟩,
    ⟨45, 0, 5, 5, [31]⟩,
    ⟨46, 1, 8, 2, [3]⟩,
    ⟨47, 1, 2, 4, [1, 1, 2, 2, 4, 4, 8, 8]⟩,
    ⟨48, 0, 2, 5, [14, 27, 27, 27, 27, 27, 14]⟩,
    ⟨49, 0, 2, 6, [12, 60, 12, 12, 12, 12, 63]⟩,
    ⟨50, 0, 2, 5, [14, 27, 3, 6, 12, 27, 31]⟩,
    ⟨51, 0, 2, 5, [14, 27, 3, 14, 3, 27, 14]⟩,
    ⟨52, 0, 2, 6, [6, 14, 22, 54, 63, 6, 6]⟩,
    ⟨53, 0, 2, 5, [31, 24, 30, 27, 3, 19, 30]⟩,
    ⟨54, 0, 2, 5, [14, 27, 24, 30, 27, 27, 14]⟩,
    ⟨55, 0, 2, 5, [31, 27, 3, 6, 6, 12, 12]⟩,
    ⟨56, 0, 2, 5, [14, 27, 27, 14, 27, 27, 14]⟩,
    ⟨57, 0, 2, 5, [14, 27, 27, 15, 3, 27, 14]⟩,
    ⟨58, 1, 5, 2, [3, 0, 0, 3]⟩,
    ⟨59, 0, 5, 3, [3, 0, 0, 3, 2, 4]⟩,
    ⟨60, 0, 3, 4, [3, 6, 12, 6, 3]⟩,
    ⟨61, 0, 4, 4, [15, 0, 15]⟩,
    ⟨62, 1, 3, 4, [12, 6, 3, 6, 12]⟩,
    ⟨63, 0, 3, 5, [14, 19, 6, 12, 0, 12]⟩,
    ⟨64, 0, 2, 6, [28, 50, 38, 42, 42, 39, 48, 28]⟩]

/-- The capitals and the signs that follow them. -/
def capitals : List Glyph :=
  [⟨65, -1, 3, 7, [60, 28, 20, 62, 54, 119]⟩,
    ⟨66, -1, 3, 6, [62, 27, 30, 27, 27, 62]⟩,
    ⟨67, 0, 3, 5, [15, 27, 24, 24, 27, 14]⟩,
    ⟨68, -1, 3, 6, [62, 27, 27, 27, 27, 62]⟩,
    ⟨69, -1, 3, 6, [63, 24, 30, 24, 27, 63]⟩,
    ⟨70, -1, 3, 6, [63, 24, 30, 24, 24, 60]⟩,
    ⟨71, 0, 3, 5, [14, 27, 24, 31, 27, 15]⟩,
    ⟨72, -1, 3, 7, [119, 54, 62, 54, 54, 119]⟩,
    ⟨73, 0, 3, 4, [15, 6, 6, 6, 6, 15]⟩,
    ⟨74, -1, 3, 6, [15, 6, 6, 54, 54, 28]⟩,
    ⟨75, -1, 3, 7, [118, 52, 56, 60, 54, 123]⟩,
    ⟨76, -1, 3, 6, [60, 24, 24, 24, 27, 63]⟩,
    ⟨77, -1, 3, 6, [49, 27, 27, 31, 21, 53]⟩,
    ⟨78, -1, 3, 7, [119, 58, 58, 54, 54, 114]⟩,
    ⟨79, 0, 3, 5, [14, 27, 27, 27, 27, 14]⟩,
    ⟨80, -1, 3, 6, [62, 27, 27, 30, 24, 60]⟩,
    ⟨81, 0, 3, 5, [14, 27, 27, 27, 27, 14, 3]⟩,
    ⟨82, -1, 3, 7, [124, 54, 54, 60, 54, 123]⟩,
    ⟨83, 0, 3, 5, [15, 25, 30, 7, 19, 30]⟩,
    ⟨84, -1, 3, 6, [63, 45, 12, 12, 12, 30]⟩,
    ⟨85, -1, 3, 7, [119, 54, 54, 54, 54, 28]⟩,
    ⟨86, -1, 3, 7, [119, 54, 20, 28, 28, 8]⟩,
    ⟨87, -1, 3, 7, [107, 42, 42, 62, 28, 20]⟩,
    ⟨88, 0, 3, 6, [51, 30, 12, 12, 30, 51]⟩,
    ⟨89, -1, 3, 7, [115, 51, 30, 12, 12, 30]⟩,
    ⟨90, 0, 3, 5, [31, 27, 6, 12, 27, 31]⟩,
    ⟨91, 1, 2, 3, [7, 6, 6, 6, 6, 6, 6, 7]⟩,
    ⟨92, 0, 2, 4, [8, 8, 4, 4, 2, 2, 1, 1]⟩,
    ⟨93, 1, 2, 3, [7, 3, 3, 3, 3, 3, 3, 7]⟩,
    ⟨94, 0, 2, 5, [4, 14, 27]⟩,
    ⟨95, 0, 10, 6, [63]⟩,
    ⟨96, 1, 2, 3, [6, 2, 1]⟩]

/-- The small letters and the signs that follow them. -/
def smallLetters : List Glyph :=
  [⟨97, 0, 4, 6, [28, 54, 30, 54, 63]⟩,
    ⟨98, -1, 2, 6, [56, 24, 30, 27, 27, 27, 62]⟩,
    ⟨99, 0, 4, 5, [14, 27, 24, 27, 14]⟩,
    ⟨100, 0, 2, 6, [14, 6, 30, 54, 54, 54, 31]⟩,
    ⟨101, 0, 4, 5, [14, 27, 31, 24, 15]⟩,
    ⟨102, 0, 2, 5, [7, 12, 31, 12, 12, 12, 31]⟩,
    ⟨103, 0, 4, 6, [27, 54, 54, 54, 30, 6, 60]⟩,
    ⟨104, -1, 2, 6, [56, 24, 30, 27, 27, 27, 27]⟩,
    ⟨105, 0, 2, 6, [12, 0, 60, 12, 12, 12, 63]⟩,
    ⟨106, 0, 2, 4, [3, 0, 15, 3, 3, 3, 3, 3, 14]⟩,
    ⟨107, -1, 2, 7, [112, 48, 54, 60, 56, 60, 55]⟩,
    ⟨108, 0, 2, 6, [60, 12, 12, 12, 12, 12, 63]⟩,
    ⟨109, -1, 4, 6, [62, 31, 21, 21, 21]⟩,
    ⟨110, -1, 4, 6, [54, 27, 27, 27, 27]⟩,
    ⟨111, 0, 4, 5, [14, 27, 27, 27, 14]⟩,
    ⟨112, -1, 4, 6, [62, 27, 27, 27, 30, 24, 60]⟩,
    ⟨113, 0, 4, 6, [27, 54, 54, 54, 30, 6, 15]⟩,
    ⟨114, 0, 4, 6, [55, 29, 24, 24, 60]⟩,
    ⟨115, 0, 4, 6, [30, 56, 30, 7, 62]⟩,
    ⟨116, 0, 2, 6, [24, 24, 62, 24, 24, 27, 14]⟩,
    ⟨117, -1, 4, 7, [118, 54, 54, 54, 31]⟩,
    ⟨118, -1, 4, 6, [59, 27, 14, 14, 4]⟩,
    ⟨119, -1, 4, 7, [107, 42, 62, 30, 20]⟩,
    ⟨120, 0, 4, 6, [59, 30, 12, 30, 55]⟩,
    ⟨121, -1, 4, 7, [119, 54, 54, 20, 28, 24, 112]⟩,
    ⟨122, 0, 4, 5, [31, 22, 12, 27, 31]⟩,
    ⟨123, 1, 2, 4, [3, 6, 6, 12, 6, 6, 6, 3]⟩,
    ⟨124, 2, 3, 1, [1, 1, 1, 1, 1, 1, 1]⟩,
    ⟨125, 0, 2, 4, [12, 6, 6, 3, 6, 6, 6, 12]⟩,
    ⟨126, 0, 4, 5, [13, 22]⟩]

/-- The signs of the upper half. -/
def signsOfLatin : List Glyph :=
  [⟨161, 1, 4, 2, [3, 0, 3, 3, 3, 3, 3]⟩,
    ⟨162, 0, 2, 5, [4, 4, 15, 25, 24, 15, 4, 4]⟩,
    ⟨163, 0, 2, 6, [14, 26, 8, 62, 8, 25, 62]⟩,
    ⟨164, 0, 3, 5, [17, 14, 10, 14, 17]⟩,
    ⟨165, 0, 2, 6, [51, 18, 63, 12, 63, 12, 30]⟩,
    ⟨166, 2, 2, 1, [1, 1, 1, 1, 0, 1, 1, 1, 1]⟩,
    ⟨167, 0, 2, 5, [15, 9, 12, 18, 9, 6, 18, 30]⟩,
    ⟨168, 1, 3, 3, [5]⟩,
    ⟨169, 0, 2, 6, [12, 18, 45, 41, 45, 18, 12]⟩,
    ⟨170, 1, 2, 4, [14, 1, 13, 0, 15]⟩,
    ⟨171, -1, 4, 7, [27, 54, 108, 54, 27]⟩,
    ⟨172, 0, 4, 5, [31, 1, 1]⟩,
    ⟨173, 0, 5, 5, [31]⟩,
    ⟨174, 0, 2, 7, [28, 34, 93, 89, 85, 34, 28]⟩,
    ⟨175, 0, 3, 4, [15]⟩,
    ⟨176, 0, 2, 4, [6, 9, 6]⟩,
    ⟨177, 0, 3, 5, [4, 4, 31, 4, 0, 31]⟩,
    ⟨178, 1, 2, 3, [3, 5, 2, 7]⟩,
    ⟨179, 1, 2, 3, [7, 2, 1, 6]⟩,
    ⟨180, 2, 2, 2, [1, 2]⟩,
    ⟨181, -1, 4, 7, [118, 54, 54, 54, 63, 32, 32]⟩,
    ⟨182, 0, 2, 6, [31, 42, 42, 26, 10, 10, 10, 27]⟩,
    ⟨183, 1, 5, 2, [3]⟩,
    ⟨184, 1, 8, 3, [2, 1, 6]⟩,
    ⟨185, 1, 2, 3, [6, 2, 2, 7]⟩,
    ⟨186, 1, 2, 4, [6, 9, 6, 0, 15]⟩,
    ⟨187, -1, 4, 7, [108, 54, 27, 54, 108]⟩,
    ⟨188, -1, 2, 7, [96, 34, 36, 122, 22, 47, 2]⟩,
    ⟨189, -1, 2, 7, [96, 34, 36, 123, 21, 34, 7]⟩,
    ⟨190, -1, 2, 7, [112, 34, 20, 106, 22, 47, 2]⟩,
    ⟨191, 0, 4, 5, [6, 0, 6, 6, 12, 25, 14]⟩]

/-- The letters with accents. -/
def accentedLetters : List Glyph :=
  [⟨192, -1, 0, 7, [16, 8, 0, 60, 28, 20, 62, 54, 119]⟩,
    ⟨193, -1, 0, 7, [8, 16, 0, 60, 28, 20, 62, 54, 119]⟩,
    ⟨194, -1, 0, 7, [8, 20, 0, 60, 28, 20, 62, 54, 119]⟩,
    ⟨195, -1, 0, 7, [26, 36, 0, 60, 28, 20, 62, 54, 119]⟩,
    ⟨196, -1, 1, 7, [20, 0, 60, 28, 20, 62, 54, 119]⟩,
    ⟨197, -1, 0, 7, [24, 36, 24, 60, 28, 20, 62, 54, 119]⟩,
    ⟨198, -1, 3, 7, [63, 29, 54, 60, 109, 111]⟩,
    ⟨199, 0, 3, 5, [15, 27, 24, 24, 27, 14, 2, 12]⟩,
    ⟨200, -1, 0, 6, [8, 4, 0, 63, 25, 30, 24, 27, 63]⟩,
    ⟨201, -1, 0, 6, [4, 8, 0, 63, 25, 30, 24, 27, 63]⟩,
    ⟨202, -1, 0, 6, [8, 20, 0, 63, 25, 30, 24, 27, 63]⟩,
    ⟨203, -1, 1, 6, [20, 0, 63, 25, 30, 24, 27, 63]⟩,
    ⟨204, 0, 0, 4, [4, 2, 0, 15, 6, 6, 6, 6, 15]⟩,
    ⟨205, 0, 0, 4, [2, 4, 0, 15, 6, 6, 6, 6, 15]⟩,
    ⟨206, 0, 0, 4, [4, 10, 0, 15, 6, 6, 6, 6, 15]⟩,
    ⟨207, 0, 1, 4, [10, 0, 15, 6, 6, 6, 6, 15]⟩,
    ⟨208, -1, 3, 6, [62, 27, 61, 25, 27, 62]⟩,
    ⟨209, -1, 0, 7, [26, 36, 0, 119, 50, 58, 62, 54, 118]⟩,
    ⟨210, 0, 0, 5, [8, 4, 0, 14, 27, 27, 27, 27, 14]⟩,
    ⟨211, 0, 0, 5, [4, 8, 0, 14, 27, 27, 27, 27, 14]⟩,
    ⟨212, 0, 0, 5, [4, 10, 0, 14, 27, 27, 27, 27, 14]⟩,
    ⟨213, 0, 0, 5, [13, 18, 0, 14, 27, 27, 27, 27, 14]⟩,
    ⟨214, 0, 1, 5, [10, 0, 14, 27, 27, 27, 27, 14]⟩,
    ⟨215, 0, 3, 5, [17, 10, 4, 10, 17]⟩,
    ⟨216, -1, 3, 7, [29, 54, 62, 54, 54, 92]⟩,
    ⟨217, -1, 0, 7, [16, 8, 0, 119, 54, 54, 54, 54, 28]⟩,
    ⟨218, -1, 0, 7, [4, 8, 0, 119, 54, 54, 54, 54, 28]⟩,
    ⟨219, -1, 0, 7, [8, 20, 0, 119, 54, 54, 54, 54, 28]⟩,
    ⟨220, -1, 1, 7, [20, 0, 119, 54, 54, 54, 54, 28]⟩,
    ⟨221, -1, 0, 7, [2, 4, 0, 115, 51, 30, 12, 12, 30]⟩,
    ⟨222, -1, 3, 6, [56, 30, 27, 27, 30, 56]⟩,
    ⟨223, -1, 3, 7, [28, 52, 62, 51, 51, 118]⟩,
    ⟨224, 0, 1, 6, [8, 4, 0, 28, 38, 30, 54, 63]⟩,
    ⟨225, 0, 1, 6, [4, 8, 0, 28, 38, 30, 54, 63]⟩,
    ⟨226, 0, 1, 6, [8, 20, 0, 28, 38, 30, 54, 63]⟩,
    ⟨227, 0, 1, 6, [26, 36, 0, 28, 38, 30, 54, 63]⟩,
    ⟨228, 0, 2, 6, [20, 0, 28, 38, 30, 54, 63]⟩,
    ⟨229, 0, 0, 6, [12, 18, 12, 0, 28, 38, 30, 54, 63]⟩,
    ⟨230, -1, 4, 6, [27, 45, 31, 44, 55]⟩,
    ⟨231, 0, 4, 5, [14, 27, 24, 27, 14, 2, 12]⟩,
    ⟨232, 0, 1, 5, [8, 4, 0, 14, 27, 31, 24, 15]⟩,
    ⟨233, 0, 1, 5, [4, 8, 0, 14, 27, 31, 24, 15]⟩,
    ⟨234, 0, 1, 5, [4, 10, 0, 14, 27, 31, 24, 15]⟩,
    ⟨235, 0, 2, 5, [10, 0, 14, 27, 31, 24, 15]⟩,
    ⟨236, 0, 1, 6, [8, 4, 0, 28, 12, 12, 12, 63]⟩,
    ⟨237, 0, 1, 6, [4, 8, 0, 28, 12, 12, 12, 63]⟩,
    ⟨238, 0, 1, 6, [8, 20, 0, 28, 12, 12, 12, 63]⟩,
    ⟨239, 0, 2, 6, [20, 0, 28, 12, 12, 12, 63]⟩,
    ⟨240, 0, 1, 5, [26, 12, 22, 15, 27, 27, 27, 14]⟩,
    ⟨241, -1, 1, 7, [26, 36, 0, 108, 54, 54, 54, 55]⟩,
    ⟨242, 0, 1, 5, [8, 4, 0, 14, 27, 27, 27, 14]⟩,
    ⟨243, 0, 1, 5, [4, 8, 0, 14, 27, 27, 27, 14]⟩,
    ⟨244, 0, 1, 5, [4, 10, 0, 14, 27, 27, 27, 14]⟩,
    ⟨245, 0, 1, 5, [13, 18, 0, 14, 27, 27, 27, 14]⟩,
    ⟨246, 0, 2, 5, [10, 0, 14, 27, 27, 27, 14]⟩,
    ⟨247, 0, 3, 5, [4, 0, 31, 0, 4]⟩,
    ⟨248, 0, 3, 5, [1, 14, 27, 31, 27, 14, 16]⟩,
    ⟨249, -1, 1, 7, [16, 8, 0, 118, 54, 54, 54, 31]⟩,
    ⟨250, -1, 1, 7, [8, 16, 0, 118, 54, 54, 54, 31]⟩,
    ⟨251, -1, 1, 7, [8, 20, 0, 118, 54, 54, 54, 31]⟩,
    ⟨252, -1, 2, 7, [20, 0, 118, 54, 54, 54, 31]⟩,
    ⟨253, -1, 1, 7, [4, 8, 0, 119, 54, 54, 20, 28, 24, 120]⟩,
    ⟨254, -1, 2, 6, [56, 24, 30, 27, 27, 27, 30, 24, 60]⟩,
    ⟨255, -1, 2, 7, [20, 0, 119, 54, 54, 20, 28, 24, 120]⟩]

/-- Every letter of the font. -/
def all : List Glyph :=
  digitsAndSigns ++ capitals ++ smallLetters ++ signsOfLatin ++ accentedLetters

/-- The letters by the codes of their characters. -/
def byCode : Array (Option Glyph) :=
  all.foldl (fun table glyph => table.setIfInBounds glyph.code (some glyph))
    (Array.replicate 256 none)

/-- The picture of a character, if the font has one. -/
def ofChar? (character : Char) : Option Glyph := byCode.getD character.toNat none

end Glyph

end SeriesChart
