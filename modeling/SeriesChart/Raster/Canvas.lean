/-
This file holds pictures: rows of pixels of four bytes each. A picture is changed through
boxes of pixels; a box lies wholly inside its picture, so nothing wraps around an edge.
What a change does is told pixel by pixel: inside the box the pixel becomes its image, and
outside it stays.
-/

import SeriesChart.ArrayForm
import SeriesChart.Color.Basic

namespace SeriesChart

/-! ### Pixels and pictures -/

/-- Four bytes: red, green, blue and opacity. -/
structure Pixel where
  red : UInt8
  green : UInt8
  blue : UInt8
  alpha : UInt8
  deriving DecidableEq, Repr, Inhabited

/-- The pixel that shows nothing. -/
def Pixel.clear : Pixel := ⟨0, 0, 0, 0⟩

/-- A picture, row by row from the top. -/
structure Canvas where
  width : Nat
  height : Nat
  pixels : Array Pixel
  size_eq : pixels.size = width * height

namespace Canvas

/-- A picture of one pixel everywhere. -/
def filled (width height : Nat) (pixel : Pixel) : Canvas where
  width := width
  height := height
  pixels := Array.replicate (width * height) pixel
  size_eq := by simp

/-- The pixel of a row and a column; none outside the picture. -/
def pixelAt? (canvas : Canvas) (row column : Nat) : Option Pixel :=
  if row < canvas.height ∧ column < canvas.width then
    canvas.pixels[row * canvas.width + column]?
  else none

/-- The two pictures have one size and the same pixels. -/
instance : BEq Canvas where
  beq first second :=
    first.width == second.width && first.height == second.height && first.pixels == second.pixels

/-- The picture with every pixel replaced by its image. -/
def map (canvas : Canvas) (change : Pixel → Pixel) : Canvas where
  width := canvas.width
  height := canvas.height
  pixels := canvas.pixels.map change
  size_eq := by simp [canvas.size_eq]

/-! ### Boxes -/

/-- A box of pixels: from the left column up to the right one, which is outside, and from the top
row up to the bottom one, which is outside. -/
structure Box where
  left : Nat
  top : Nat
  right : Nat
  bottom : Nat
  deriving DecidableEq, Repr

namespace Box

/-- The pixel of a row and a column belongs to the box. -/
def holds (box : Box) (row column : Nat) : Bool :=
  box.top ≤ row && row < box.bottom && box.left ≤ column && column < box.right

theorem holds_iff (box : Box) (row column : Nat) :
    box.holds row column ↔
      (box.top ≤ row ∧ row < box.bottom) ∧ box.left ≤ column ∧ column < box.right := by
  simp [holds, and_assoc]

/-- The box holds no pixel. -/
def isEmpty (box : Box) : Bool := box.right ≤ box.left || box.bottom ≤ box.top

theorem holds_of_isEmpty {box : Box} (empty : box.isEmpty = true) (row column : Nat) :
    box.holds row column = false := by
  simp only [isEmpty, Bool.or_eq_true, decide_eq_true_eq] at empty
  simp only [holds, Bool.and_eq_false_iff, decide_eq_false_iff_not]
  omega

/-- Some pixel of the box has a property. A box without columns has no rows to be looked at. -/
def any (box : Box) (property : Nat → Nat → Bool) : Bool :=
  !box.isEmpty && (List.range' box.top (box.bottom - box.top)).any fun row =>
    (List.range' box.left (box.right - box.left)).any fun column => property row column

theorem any_iff (box : Box) (property : Nat → Nat → Bool) :
    box.any property ↔ ∃ row column, box.holds row column ∧ property row column := by
  simp only [any, isEmpty, List.any_eq_true, List.mem_range'_1, holds, Bool.and_eq_true,
    Bool.not_eq_true', Bool.or_eq_false_iff, decide_eq_true_eq, decide_eq_false_iff_not]
  constructor
  · rintro ⟨_, row, rowIn, column, columnIn, found⟩
    exact ⟨row, column, ⟨⟨⟨by omega, by omega⟩, by omega⟩, by omega⟩, found⟩
  · rintro ⟨row, column, inside, found⟩
    exact ⟨by omega, row, by omega, column, by omega, found⟩

end Box

/-- The box of the whole picture. -/
def wholeBox (canvas : Canvas) : Box := ⟨0, 0, canvas.width, canvas.height⟩

/-- The part of a box, given by whole numbers of any size, that lies inside the picture. The right
column and the bottom row are outside the box. -/
def clip (canvas : Canvas) (left top right bottom : Int) : Box where
  left := left.toNat
  top := top.toNat
  right := min canvas.width right.toNat
  bottom := min canvas.height bottom.toNat

theorem holds_clip (canvas : Canvas) (left top right bottom : Int) (row column : Nat) :
    (canvas.clip left top right bottom).holds row column ↔
      (row < canvas.height ∧ column < canvas.width) ∧
        (top ≤ row ∧ (row : Int) < bottom) ∧ left ≤ column ∧ (column : Int) < right := by
  rw [Box.holds_iff]
  simp only [clip]
  omega

/-! ### Changes -/

/-- The pixels with `count` neighbours from `start` on replaced by their images, the last one
first. -/
def modifyRun (change : Nat → Pixel → Pixel) (start : Nat) :
    Nat → Array Pixel → Array Pixel
  | 0, pixels => pixels
  | count + 1, pixels =>
    modifyRun change start count (pixels.modify (start + count) (change count))

@[simp] theorem size_modifyRun (change : Nat → Pixel → Pixel) (start count : Nat)
    (pixels : Array Pixel) : (modifyRun change start count pixels).size = pixels.size := by
  induction count generalizing pixels with
  | zero => rfl
  | succ count inductionHypothesis => simp [modifyRun, inductionHypothesis]

theorem getElem?_modifyRun (change : Nat → Pixel → Pixel) (start count : Nat)
    (pixels : Array Pixel) (index : Nat) :
    (modifyRun change start count pixels)[index]? =
      if start ≤ index ∧ index < start + count then pixels[index]?.map (change (index - start))
      else pixels[index]? := by
  induction count generalizing pixels with
  | zero =>
    have outside : ¬(start ≤ index ∧ index < start + 0) := by omega
    simp only [modifyRun, if_neg outside]
  | succ count inductionHypothesis =>
    rw [modifyRun, inductionHypothesis, Array.getElem?_modify]
    by_cases last : start + count = index
    · subst last
      simp
    · simp only [last, if_false]
      split <;> split <;> first | rfl | omega

/-- The pixels with the runs of `count` rows from `top` on replaced by their images, the last row
first. -/
def modifyRows (change : Nat → Nat → Pixel → Pixel) (width left run top : Nat) :
    Nat → Array Pixel → Array Pixel
  | 0, pixels => pixels
  | count + 1, pixels =>
    modifyRows change width left run top count
      (modifyRun (fun offset => change (top + count) (left + offset))
        ((top + count) * width + left) run pixels)

@[simp] theorem size_modifyRows (change : Nat → Nat → Pixel → Pixel)
    (width left run top count : Nat) (pixels : Array Pixel) :
    (modifyRows change width left run top count pixels).size = pixels.size := by
  induction count generalizing pixels with
  | zero => rfl
  | succ count inductionHypothesis => simp [modifyRows, inductionHypothesis]

/-- A place in a row of the given width determines its row and its column. -/
theorem row_column_unique {width row column otherRow otherColumn : Nat} (inRow : column < width)
    (inOther : otherColumn < width)
    (equal : row * width + column = otherRow * width + otherColumn) :
    row = otherRow ∧ column = otherColumn := by
  have rows : row = otherRow := by
    rcases Nat.lt_trichotomy row otherRow with less | same | greater
    · have := Nat.mul_le_mul_right width less
      rw [Nat.succ_mul] at this
      omega
    · exact same
    · have := Nat.mul_le_mul_right width greater
      rw [Nat.succ_mul] at this
      omega
  subst rows
  exact ⟨rfl, by omega⟩

theorem getElem?_modifyRows (change : Nat → Nat → Pixel → Pixel)
    (width left run top count : Nat) (fits : left + run ≤ width) (pixels : Array Pixel)
    (row column : Nat) (inRow : column < width) :
    (modifyRows change width left run top count pixels)[row * width + column]? =
      if (top ≤ row ∧ row < top + count) ∧ left ≤ column ∧ column < left + run then
        pixels[row * width + column]?.map (change row column)
      else pixels[row * width + column]? := by
  induction count generalizing pixels with
  | zero =>
    have outside : ¬((top ≤ row ∧ row < top + 0) ∧ left ≤ column ∧ column < left + run) := by omega
    simp only [modifyRows, if_neg outside]
  | succ count inductionHypothesis =>
    rw [modifyRows, inductionHypothesis, getElem?_modifyRun]
    by_cases inRun : (top + count) * width + left ≤ row * width + column ∧
        row * width + column < (top + count) * width + left + run
    · obtain ⟨offset, place⟩ := Nat.le.dest inRun.1
      have inRowOfRun : left + offset < width := by omega
      have places : row * width + column = (top + count) * width + (left + offset) := by omega
      have same := row_column_unique inRow inRowOfRun places
      have difference : row * width + column - ((top + count) * width + left) = offset := by omega
      obtain ⟨rfl, rfl⟩ := same
      simp only [inRun, and_self, if_true, difference]
      have outside : ¬((top ≤ top + count ∧ top + count < top + count) ∧ left ≤ left + offset ∧
          left + offset < left + run) := by omega
      have inside : (top ≤ top + count ∧ top + count < top + (count + 1)) ∧
          left ≤ left + offset ∧ left + offset < left + run := by omega
      rw [if_neg outside, if_pos inside]
    · simp only [inRun, if_false]
      by_cases lastRow : row = top + count
      · subst lastRow
        have noColumn : ¬(left ≤ column ∧ column < left + run) := by omega
        simp [noColumn]
      · have sameRows : (top ≤ row ∧ row < top + (count + 1)) ↔
            (top ≤ row ∧ row < top + count) := by omega
        simp only [sameRows]

/-- The rows of a box that a change goes through: none when it has no columns. -/
def rowCount (box : Box) : Nat := if box.isEmpty then 0 else box.bottom - box.top

/-- The picture with the pixels of a box replaced by their images. What of the box lies outside the
picture is passed over. -/
def modifyBox (canvas : Canvas) (box : Box) (change : Nat → Nat → Pixel → Pixel) : Canvas where
  width := canvas.width
  height := canvas.height
  pixels := modifyRows change canvas.width box.left (min canvas.width box.right - box.left) box.top
    (rowCount box) canvas.pixels
  size_eq := by simp [canvas.size_eq]

@[simp] theorem width_modifyBox (canvas : Canvas) (box : Box)
    (change : Nat → Nat → Pixel → Pixel) : (canvas.modifyBox box change).width = canvas.width :=
  rfl

@[simp] theorem height_modifyBox (canvas : Canvas) (box : Box)
    (change : Nat → Nat → Pixel → Pixel) : (canvas.modifyBox box change).height = canvas.height :=
  rfl

/-- Inside the box a pixel becomes its image, and outside it stays. -/
theorem pixelAt?_modifyBox (canvas : Canvas) (box : Box) (change : Nat → Nat → Pixel → Pixel)
    (row column : Nat) :
    (canvas.modifyBox box change).pixelAt? row column =
      if box.holds row column then (canvas.pixelAt? row column).map (change row column)
      else canvas.pixelAt? row column := by
  simp only [pixelAt?, width_modifyBox, height_modifyBox]
  by_cases inside : row < canvas.height ∧ column < canvas.width
  · simp only [inside, and_self, if_true]
    by_cases empty : box.isEmpty
    · simp [modifyBox, rowCount, empty, modifyRows, Box.holds_of_isEmpty empty]
    have rows : rowCount box = box.bottom - box.top := by simp [rowCount, empty]
    by_cases wide : box.left ≤ min canvas.width box.right
    · rw [modifyBox, getElem?_modifyRows _ _ _ _ _ _ (by omega) _ _ _ inside.2, rows]
      have same : ((box.top ≤ row ∧ row < box.top + (box.bottom - box.top)) ∧
          box.left ≤ column ∧ column < box.left + (min canvas.width box.right - box.left)) ↔
          box.holds row column := by
        simp only [Box.holds, Bool.and_eq_true, decide_eq_true_eq]
        omega
      simp only [same]
    · have none : min canvas.width box.right - box.left = 0 := by omega
      have unchanged : (canvas.modifyBox box change).pixels = canvas.pixels := by
        simp only [modifyBox, none]
        generalize rowCount box = count
        induction count with
        | zero => rfl
        | succ count inductionHypothesis => simpa [modifyRows, modifyRun] using inductionHypothesis
      have outside : box.holds row column = false := by
        simp only [Box.holds, Bool.and_eq_false_iff, decide_eq_false_iff_not]
        omega
      rw [unchanged, outside]
      simp
  · simp [inside]

end Canvas

/-! ### Painting -/

/-- A step of painting: it changes the picture, and may give up on the way. What it had painted
before stays. -/
abbrev Painting := EStateM Fault Canvas Unit

namespace Canvas

/-- The byte of a channel, which must be one. -/
def channelByte (value : Int) : Except Fault UInt8 :=
  if Color.isChannel value then .ok value.toNat.toUInt8
  else .error (.overflow (.outOfBounds value "uint8"))

/-- Writes one channel of every pixel. -/
def clearChannel (value : Int) (write : UInt8 → Pixel → Pixel) : Painting := do
  let byte ← channelByte value
  modify fun canvas => canvas.map (write byte)

/-- Writes a colour to every pixel, channel after channel. -/
def clear (color : Color) : Painting := do
  clearChannel color.red fun byte pixel => { pixel with red := byte }
  clearChannel color.green fun byte pixel => { pixel with green := byte }
  clearChannel color.blue fun byte pixel => { pixel with blue := byte }
  clearChannel color.alpha fun byte pixel => { pixel with alpha := byte }

/-- A new picture of one colour. -/
def create (width height : Int) (color : Color) : Except Fault Canvas := do
  if width < 0 ∨ height < 0 then throw (.invalid .canvasSize)
  ArrayForm.check ⟨.byte, [height, width, 4]⟩
  match (clear color).run (filled width.toNat height.toNat .clear) with
  | .ok _ canvas => return canvas
  | .error fault _ => throw fault

/-! ### Copies -/

/-- Where a slice of `size` places starts or stops: a negative place counts from the end. -/
def slicePlace (size : Nat) (place : Int) : Nat :=
  if place < 0 then (place + size).toNat else min size place.toNat

/-- Copies a picture into the canvas with its top left corner at a place. What reaches over the
right or the bottom edge is cut off. A place left of or above the canvas counts from its far end,
and then the sizes must still agree, a single row or column being repeated. -/
def blit (source : Canvas) (x y : Int) : Painting := do
  let canvas ← get
  let bottom := min (canvas.height : Int) (y + source.height)
  let right := min (canvas.width : Int) (x + source.width)
  if y < bottom ∧ x < right then
    let rows := (bottom - y).toNat
    let columns := (right - x).toNat
    let box : Box := ⟨slicePlace canvas.width x, slicePlace canvas.height y,
      slicePlace canvas.width right, slicePlace canvas.height bottom⟩
    let targetRows := box.bottom - box.top
    let targetColumns := box.right - box.left
    if (rows = targetRows ∨ rows = 1) ∧ (columns = targetColumns ∨ columns = 1) then
      set (canvas.modifyBox box fun row column pixel =>
        (source.pixelAt? (if rows = 1 then 0 else row - box.top)
          (if columns = 1 then 0 else column - box.left)).getD pixel)
    else
      throw (.invalid (.pastedShape [rows, columns, 4] [targetRows, targetColumns, 4]))

end Canvas

end SeriesChart
