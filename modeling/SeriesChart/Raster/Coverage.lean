/-
This file lays a colour over a part of a picture through coverages that are given as
numbers in nested lists: one for all pixels, one for each column, or one for each pixel. A
single row or column of them is repeated; any other number of them that is not the size of
the part is refused. The part is named by places that may count from the far end of the
picture.
-/

import SeriesChart.Number.Grid
import SeriesChart.Raster.Composite

namespace SeriesChart

/-! ### Coverages -/

namespace Grid

/-- One number, or as many as there are pixels. -/
def spans (count size : Nat) : Bool := count = 1 || count = size

/-- Whether the numbers can be spread over a part of a picture. -/
def checkSpread (grid : Grid) (height width : Nat) : Except Fault Unit :=
  let refused := .error (.invalid (.coverageShape grid.shape [height, width]))
  match grid.shape with
  | [] => .ok ()
  | [columns] => if spans columns width then .ok () else refused
  | [rows, columns] => if spans rows height && spans columns width then .ok () else refused
  | _ => .error (.invalid .coverageDirections)

/-- The place of an entry, or that of the only one. -/
def pick (count place : Nat) : Nat := if count = 1 then 0 else place

/-- The number for the pixel of a row and a column, counted from the corner of the part. -/
def spreadAt (grid : Grid) (row column : Nat) : Float :=
  match grid.shape with
  | [columns] => grid.cells.getD (pick columns column) 0.0
  | [rows, columns] => grid.cells.getD (pick rows row * columns + pick columns column) 0.0
  | _ => grid.cells.getD 0 0.0

end Grid

/-! ### Painting -/

namespace Canvas

/-- The box between places that count from the far end when they are negative. -/
def slice (canvas : Canvas) (left top right bottom : Int) : Box where
  left := slicePlace canvas.width left
  top := slicePlace canvas.height top
  right := slicePlace canvas.width right
  bottom := slicePlace canvas.height bottom

/-- Lays a colour over a box through coverages. They are not looked at when the box is empty. -/
def compositeCovered (box : Box) (color : Color) (coverage : Nested) : Painting := do
  unless box.isEmpty do
    let grid ← Grid.ofNested coverage
    grid.checkSpread (box.bottom - box.top) (box.right - box.left)
    modify fun canvas => canvas.composite box color fun row column =>
      Binary.toSingle (grid.spreadAt (row - box.top) (column - box.left))

end Canvas

end SeriesChart
