/-
This file paints through masks: a mask says for each of its cells how much of the colour
its pixel takes, as a byte. The mask of a text is made bolder by laying shifted copies over
each other. A mask that reaches over the edges of a picture is cut off on all four sides.
-/

import SeriesChart.Raster.Composite

namespace SeriesChart

/-! ### Masks -/

/-- Rows of bytes. -/
structure Mask where
  width : Nat
  height : Nat
  cells : Array UInt8
  deriving DecidableEq, Repr

namespace Mask

/-- The mask whose cells are told for every row and column. -/
def ofFunction (width height : Nat) (cell : Nat → Nat → UInt8) : Mask where
  width := width
  height := height
  cells := Array.ofFn fun index : Fin (width * height) =>
    cell (index.val / width) (index.val % width)

/-- The cell of a row and a column; zero outside the mask. -/
def cellAt (mask : Mask) (row column : Nat) : UInt8 :=
  if row < mask.height ∧ column < mask.width then
    mask.cells.getD (row * mask.width + column) 0
  else 0

/-- The mask of rows of bytes; a row that is too short is filled up with zeros. -/
def ofRows (rows : List (List UInt8)) : Mask :=
  ofFunction (rows.headD []).length rows.length fun row column => (rows.getD row []).getD column 0

/-- The rows of a mask. -/
def toRows (mask : Mask) : List (List UInt8) :=
  (List.range mask.height).map fun row =>
    (List.range mask.width).map fun column => mask.cellAt row column

theorem cellAt_ofFunction (width height : Nat) (cell : Nat → Nat → UInt8) {row column : Nat}
    (inRow : row < height) (inColumn : column < width) :
    (ofFunction width height cell).cellAt row column = cell row column := by
  have bound : row * width + column < width * height := by
    have next : (row + 1) * width ≤ height * width := Nat.mul_le_mul_right width inRow
    rw [Nat.mul_comm width height]
    rw [Nat.add_mul] at next
    omega
  have positive : 0 < width := by omega
  have quotient : (row * width + column) / width = row := by
    rw [Nat.mul_comm, Nat.mul_add_div positive, Nat.div_eq_of_lt inColumn]
    simp
  have remainder : (row * width + column) % width = column := by
    rw [Nat.mul_comm, Nat.mul_add_mod, Nat.mod_eq_of_lt inColumn]
  simp [cellAt, ofFunction, inRow, inColumn, bound, quotient, remainder]

/-- A mask of zeros. -/
def blank (width height : Nat) : Mask := ofFunction width height fun _ _ => 0

/-- Writes so many cells of a row of a mask over those of a row of `width` cells, from column `x` on.
What does not fit the row is cut off. -/
def writeRow (source : Mask) (row width start : Nat) (x : Int) : Nat → Array UInt8 → Array UInt8
  | 0, cells => cells
  | count + 1, cells =>
    let column := x + count
    source.writeRow row width start x count
      (if 0 ≤ column ∧ column < width then
        cells.setIfInBounds (start + column.toNat) (source.cellAt row count)
      else cells)

/-- Writes so many rows of a mask over those of a mask of another size, from row `y` on. What does
not fit is cut off. -/
def writeRows (source : Mask) (width height : Nat) (x y : Int) : Nat → Array UInt8 → Array UInt8
  | 0, cells => cells
  | count + 1, cells =>
    let row := y + count
    source.writeRows width height x y count
      (if 0 ≤ row ∧ row < height then
        source.writeRow count width (row.toNat * width) x source.width cells
      else cells)

/-- The mask with another one written over it, with the top left cell of that one at a place. Zeros
are written too; what reaches over an edge is cut off. -/
def paste (mask : Mask) (x y : Int) (source : Mask) : Mask :=
  { mask with cells := source.writeRows mask.width mask.height x y source.height mask.cells }

theorem size_writeRow (source : Mask) (row width start : Nat) (x : Int) (count : Nat)
    (cells : Array UInt8) :
    (source.writeRow row width start x count cells).size = cells.size := by
  induction count generalizing cells with
  | zero => rfl
  | succ count inductionHypothesis =>
    rw [writeRow, inductionHypothesis]
    split <;> simp

theorem size_writeRows (source : Mask) (width height : Nat) (x y : Int) (count : Nat)
    (cells : Array UInt8) :
    (source.writeRows width height x y count cells).size = cells.size := by
  induction count generalizing cells with
  | zero => rfl
  | succ count inductionHypothesis =>
    rw [writeRows, inductionHypothesis]
    split
    · exact size_writeRow ..
    · rfl

theorem getD_setIfInBounds (cells : Array UInt8) (place index : Nat) (cell : UInt8) :
    (cells.setIfInBounds place cell).getD index 0 =
      if place = index ∧ index < cells.size then cell else cells.getD index 0 := by
  simp only [Array.getD_eq_getD_getElem?, Array.getElem?_setIfInBounds]
  grind

/-- A written cell is that of the source, and all others stay. -/
theorem getD_writeRow (source : Mask) (row width start : Nat) (x : Int) (count : Nat)
    (cells : Array UInt8) (column : Nat) (inRow : column < width)
    (inside : start + column < cells.size) :
    (source.writeRow row width start x count cells).getD (start + column) 0 =
      if x ≤ column ∧ (column : Int) < x + count then source.cellAt row (column - x).toNat
      else cells.getD (start + column) 0 := by
  induction count generalizing cells with
  | zero => rw [writeRow, if_neg (by omega)]
  | succ count inductionHypothesis =>
    rw [writeRow, inductionHypothesis _ (by split <;> simpa using inside)]
    split
    · rw [if_pos (by omega)]
    · split
      · rw [getD_setIfInBounds]
        split
        · have place : (column - x).toNat = count := by omega
          rw [if_pos (by omega), place]
        · rw [if_neg (by omega)]
      · rw [if_neg (by omega)]

/-- Writing a row leaves the cells before and behind it. -/
theorem getD_writeRow_other (source : Mask) (row width start : Nat) (x : Int) (count : Nat)
    (cells : Array UInt8) (index : Nat) (outside : index < start ∨ start + width ≤ index) :
    (source.writeRow row width start x count cells).getD index 0 = cells.getD index 0 := by
  induction count generalizing cells with
  | zero => rfl
  | succ count inductionHypothesis =>
    rw [writeRow, inductionHypothesis]
    split
    · rw [getD_setIfInBounds, if_neg (by omega)]
    · rfl

theorem getD_writeRows (source : Mask) (width height : Nat) (x y : Int) (count : Nat)
    (cells : Array UInt8) (row column : Nat) (inRows : row < height) (inRow : column < width)
    (inside : row * width + column < cells.size) :
    (source.writeRows width height x y count cells).getD (row * width + column) 0 =
      if (y ≤ row ∧ (row : Int) < y + count) ∧ x ≤ column ∧ (column : Int) < x + source.width then
        source.cellAt (row - y).toNat (column - x).toNat
      else cells.getD (row * width + column) 0 := by
  induction count generalizing cells with
  | zero =>
    rw [writeRows, if_neg (by omega)]
  | succ count inductionHypothesis =>
    rw [writeRows, inductionHypothesis _ (by split <;> simpa [size_writeRow] using inside)]
    by_cases last : (row : Int) = y + count
    · have place : (y + (count : Int)).toNat = row := by omega
      have difference : (row - y).toNat = count := by omega
      rw [if_neg (by omega), if_pos (by omega), place, difference,
        getD_writeRow source count width _ x _ cells column inRow inside]
      split
      · rw [if_pos (by omega)]
      · rw [if_neg (by omega)]
    · have sameRows : (y ≤ row ∧ (row : Int) < y + (count + 1 : Nat)) ↔
          (y ≤ row ∧ (row : Int) < y + count) := by omega
      have stays : (if 0 ≤ y + (count : Int) ∧ y + (count : Int) < height then
          source.writeRow count width ((y + count).toNat * width) x source.width cells
          else cells).getD (row * width + column) 0 = cells.getD (row * width + column) 0 := by
        by_cases written : 0 ≤ y + (count : Int) ∧ y + (count : Int) < height
        · rw [if_pos written, getD_writeRow_other]
          have different : (y + count).toNat ≠ row := by omega
          rcases Nat.lt_or_gt_of_ne different with less | greater
          · have := Nat.mul_le_mul_right width less
            rw [Nat.succ_mul] at this
            omega
          · have := Nat.mul_le_mul_right width greater
            rw [Nat.succ_mul] at this
            omega
        · rw [if_neg written]
      simp only [sameRows, stays]

/-- Where the other mask lies its cells count; all others stay. -/
theorem cellAt_paste (mask : Mask) (x y : Int) (source : Mask)
    (full : mask.cells.size = mask.width * mask.height) {row column : Nat}
    (inRows : row < mask.height) (inRow : column < mask.width) :
    (mask.paste x y source).cellAt row column =
      if (y ≤ row ∧ (row : Int) < y + source.height) ∧
          x ≤ column ∧ (column : Int) < x + source.width then
        source.cellAt (row - y).toNat (column - x).toNat
      else mask.cellAt row column := by
  have inside : row * mask.width + column < mask.cells.size := by
    have next : (row + 1) * mask.width ≤ mask.height * mask.width :=
      Nat.mul_le_mul_right mask.width inRows
    rw [full, Nat.mul_comm mask.width]
    rw [Nat.add_mul] at next
    omega
  simp only [cellAt, paste, inRows, inRow, and_self, if_true]
  exact getD_writeRows source mask.width mask.height x y source.height mask.cells row column
    inRows inRow inside

/-- The largest of so many cells of a row, from a column on. -/
def largestFrom (mask : Mask) (row first : Nat) : Nat → UInt8
  | 0 => 0
  | count + 1 => max (mask.cellAt row (first + count)) (mask.largestFrom row first count)

/-- The mask laid over itself with shifts of 0, 1, and so on up to `weight - 1` columns: a cell is
the largest of those from `weight - 1` columns before it up to it. -/
def embolden (mask : Mask) (weight : Int) : Mask :=
  if weight ≤ 1 then mask
  else ofFunction (mask.width + weight.toNat - 1) mask.height fun row column =>
    let first := column + 1 - weight.toNat
    mask.largestFrom row first (min (column + 1) mask.width - first)

end Mask

/-! ### Painting -/

/-- The picture with a colour laid through a mask whose top left cell is at a place. -/
def Canvas.drawMask (canvas : Canvas) (x y : Int) (mask : Mask) (color : Color) : Canvas :=
  let box := canvas.clip x y (x + mask.width) (y + mask.height)
  canvas.composite box color fun row column =>
    (mask.cellAt (row - y).toNat (column - x).toNat).toFloat32 / 255.0

end SeriesChart
