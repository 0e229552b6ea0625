/-
This file writes arrays of floats. All cells have one width: either all of them are
positional, with at most eight places, or all have an exponent. They have one when the
largest is at least a hundred millions, the smallest below a tenthousandth, or the largest
more than a thousand times the smallest. Points stand below points; long rows are broken,
and the rows of higher directions are parted by empty lines.
-/

import SeriesChart.Number.Grid
import SeriesChart.Number.Shortest

namespace SeriesChart

/-! ### Digits -/

/-- How many places after the point, or after the first digit, are written at most. -/
def cellPlaces : Nat := 8

/-- The exact number `significand * 2 ^ exponent` rounded to whole multiples of a power of ten. -/
def roundedTo (significand : Nat) (exponent place : Int) : DecimalForm :=
  let digits := Rounding.nearestEven.quotient
    (significand * twoTo exponent.toNat * tenTo (-place).toNat)
    (Binary.denominator exponent * tenTo place.toNat)
  DecimalForm.trimmed ⟨digits.toNat, place⟩ (digitsOf digits.toNat).length

/-- The fewest digits that read back, or as many as there may be when those are fewer. -/
def limitedTo (significand : Nat) (exponent place : Int) : DecimalForm :=
  let shortest := Binary.shortest significand exponent
  if place ≤ shortest.exponent then shortest else roundedTo significand exponent place

/-- Both sides of the point, and the exponent if there is one. -/
structure CellText where
  whole : String
  places : String
  exponent : String := ""

/-- A number in positional form. -/
def DecimalForm.positional (form : DecimalForm) : CellText :=
  let unit := tenTo (-form.exponent).toNat
  let digits := digitsOf (form.digits % unit)
  { whole := toString (form.digits * tenTo form.exponent.toNat / unit)
    places := String.ofList
      (List.replicate ((-form.exponent).toNat - digits.length) '0' ++ digits) }

/-- A number with an exponent. -/
def DecimalForm.scientific (form : DecimalForm) : CellText :=
  match digitsOf form.digits with
  | [] => ⟨"0", "", "+00"⟩
  | first :: rest => ⟨first.toString, String.ofList rest,
      Binary.exponentText (form.exponent + rest.length)⟩

/-- The exponent of the first digit of a number. -/
def DecimalForm.leading (form : DecimalForm) : Int :=
  form.exponent + (digitsOf form.digits).length - 1

/-- A float as text, positional or with an exponent. Infinities and what is no number have none. -/
def cellText? (hasExponent : Bool) (value : Float) : Option CellText :=
  match Binary.ofFloat value with
  | .finite negative significand exponent =>
    let text :=
      if significand = 0 then
        if hasExponent then ⟨"0", "", "+00"⟩ else ⟨"0", "", ""⟩
      else if hasExponent then
        let leading := (Binary.shortest significand exponent).leading
        (limitedTo significand exponent (leading - cellPlaces)).scientific
      else (limitedTo significand exponent (-cellPlaces)).positional
    some { text with whole := (if negative then "-" else "") ++ text.whole }
  | _ => none

/-! ### One width for all cells -/

/-- Whether cells have exponents. -/
def needExponents (cells : List Float) : Bool :=
  let sizes := (cells.filter fun cell => cell.isFinite && cell != 0.0).map Float.abs
  match sizes with
  | [] => false
  | first :: rest =>
    let most := rest.foldl (fun most size => if most < size then size else most) first
    let least := rest.foldl (fun least size => if size < least then size else least) first
    most ≥ 100000000.0 || least < 0.0001 || most / least > 1000.0

/-- How wide the parts of a cell are. -/
structure CellWidths where
  hasExponent : Bool
  whole : Nat
  places : Nat
  exponent : Nat

/-- Blanks. -/
def blanks (count : Nat) : String := String.ofList (List.replicate count ' ')

/-- The length of the longest of some texts. -/
def longest (texts : List String) : Nat := texts.foldl (fun most text => max most text.length) 0

/-- The widths that all cells fit in. -/
def cellWidths (cells : List Float) : CellWidths :=
  let hasExponent := needExponents cells
  let texts := cells.filterMap (cellText? hasExponent)
  let places := longest (texts.map CellText.places)
  let exponent := longest (texts.map CellText.exponent)
  let behindPoint := places + (if hasExponent then exponent + 1 else 0)
  let named := cells.filter fun cell => !cell.isFinite
  let name := if named = [] then 0 else if named.any (· < 0.0) then 4 else 3
  { hasExponent, places, exponent
    whole := max (longest (texts.map CellText.whole)) (name - (behindPoint + 1)) }

/-- The number of characters of a cell. -/
def CellWidths.total (widths : CellWidths) : Nat :=
  widths.whole + 1 + widths.places + (if widths.hasExponent then widths.exponent + 1 else 0)

/-- A cell in the given widths. -/
def CellWidths.write (widths : CellWidths) (value : Float) : String :=
  match cellText? widths.hasExponent value with
  | none =>
    let name := if value.isNaN then "nan" else if value < 0.0 then "-inf" else "inf"
    blanks (widths.total - name.length) ++ name
  | some text =>
    let lacking := widths.places - text.places.length
    blanks (widths.whole - text.whole.length) ++ text.whole ++ "." ++ text.places ++
      (if widths.hasExponent then
        String.ofList (List.replicate lacking '0') ++ "e" ++ text.exponent.take 1 ++
          String.ofList (List.replicate (widths.exponent - text.exponent.length) '0') ++
          text.exponent.drop 1
      else blanks lacking)

/-! ### Rows -/

/-- A text without the blanks at its end. -/
def withoutTrailingBlanks (text : String) : String :=
  String.ofList (text.toList.reverse.dropWhile (· = ' ')).reverse

/-- The words of a row in lines of limited length, given the lines that are closed and the one that
is not. A line is closed only when it has words already. -/
def brokenLines (separator : String) (indent limit : Nat) (closed line : String) :
    List String → String
  | [] => closed ++ line
  | word :: rest =>
    let word' := if rest = [] then word else word ++ separator
    if limit < line.length + word.length && indent < line.length then
      brokenLines separator indent limit (closed ++ withoutTrailingBlanks line ++ "\n")
        (blanks indent ++ word') rest
    else brokenLines separator indent limit closed (line ++ word') rest

/-- An array whose cells are written in the given way. Its lines after the first one start with
`indent` blanks, and it may be `width` characters wide. -/
def nestedText (separator : String) (write : Float → String) :
    List Nat → Nat → Nat → List Float → String
  | [], _, _, cells => String.join (cells.map write)
  | [_], indent, width, cells =>
    let lines := brokenLines separator indent (width - 1) "" (blanks indent) (cells.map write)
    "[" ++ String.ofList (lines.toList.drop indent) ++ "]"
  | size :: rest, indent, width, cells =>
    let part := Grid.count rest
    let parts := (List.range size).map fun index =>
      nestedText separator write rest (indent + 1) (width - 1)
        ((cells.drop (index * part)).take part)
    let gap := withoutTrailingBlanks separator ++ String.ofList (List.replicate rest.length '\n')
    "[" ++ (gap ++ blanks indent).intercalate parts ++ "]"

/-! ### Arrays -/

namespace Grid

/-- How many characters a line may have. -/
def lineWidth : Nat := 75

/-- An array as text. One without cells is a pair of brackets. -/
def text (separator : String) (indent width : Nat) (grid : Grid) : String :=
  let cells := grid.cells.toList
  if cells = [] then "[]"
  else nestedText separator (cellWidths cells).write grid.shape indent width cells

/-- An array as labels show it. One without directions is shown as its number. -/
def plain (grid : Grid) : String :=
  match grid.number? with
  | some number => Binary.text number
  | none => grid.text " " 1 lineWidth

/-- An array as messages show it. One without cells tells what its text cannot show. -/
def shown (grid : Grid) : String :=
  let opening := "array("
  let body := opening ++ grid.text ", " (opening.length + 1) (lineWidth - 1)
  let sizes := "(" ++ ", ".intercalate (grid.shape.map toString) ++ ")"
  if grid.cells.isEmpty then
    body ++ ", " ++ (if grid.shape.length = 1 then "" else "shape=" ++ sizes ++ ", ") ++
      "dtype=float64)"
  else body ++ ")"

end Grid

end SeriesChart
