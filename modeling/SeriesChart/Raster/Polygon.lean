/-
This file fills polygons. A pixel belongs to a polygon by its centre: on the line through
the centres of a row the edges of the polygon are crossed at certain places, and between
the first and the second, the third and the fourth, and so on, the row is inside. An edge
belongs to a row when it starts at or above the line and ends below it, or the other way
round, so that a corner on the line counts once.
-/

import SeriesChart.Number.Extremes
import SeriesChart.Raster.Composite

namespace SeriesChart

section Crossings

variable {Number : Type} [Scalar Number]

/-! ### Edges -/

/-- An edge from one corner to the next. -/
structure Edge (Number : Type) where
  x0 : Number
  y0 : Number
  x1 : Number
  y1 : Number

/-- The edges of a closed polygon: each corner with the next one, and the last with the first. -/
def edgesOf (corners : List (Number × Number)) : List (Edge Number) :=
  List.zipWith (fun first second => ⟨first.1, first.2, second.1, second.2⟩) corners
    (corners.tail ++ corners.take 1)

omit [Scalar Number] in
/-- An edge goes from a corner to a corner. -/
theorem ends_of_mem_edgesOf {corners : List (Number × Number)} {edge : Edge Number}
    (known : edge ∈ edgesOf corners) :
    ∃ first ∈ corners, ∃ second ∈ corners, edge = ⟨first.1, first.2, second.1, second.2⟩ := by
  unfold edgesOf at known
  rw [← List.map_uncurry_zip_eq_zipWith] at known
  obtain ⟨⟨first, second⟩, paired, rfl⟩ := List.mem_map.mp known
  obtain ⟨firstMem, secondMem⟩ := List.of_mem_zip paired
  refine ⟨first, firstMem, second, ?_, rfl⟩
  obtain inTail | inFirst := List.mem_append.mp secondMem
  · exact List.mem_of_mem_tail inTail
  · exact List.mem_of_mem_take inFirst

/-- The line of a row: the centres of its pixels lie half a pixel below its upper edge. -/
def centerLine (row : Int) : Number := Scalar.ofInt row + Scalar.half

/-- The edge crosses a line. -/
def Edge.crosses (edge : Edge Number) (line : Number) : Bool :=
  (decide (edge.y0 ≤ line) && decide (line < edge.y1)) ||
    (decide (edge.y1 ≤ line) && decide (line < edge.y0))

/-- Where an edge that crosses a line does so. -/
def Edge.crossingAt (edge : Edge Number) (line : Number) : Number :=
  edge.x0 + (line - edge.y0) * (edge.x1 - edge.x0) / (edge.y1 - edge.y0)

/-! ### Rows -/

/-- The order in which crossings are paired; what is no number comes last. -/
def comesBefore (first second : Number) : Bool :=
  decide (first ≤ second) || Scalar.isUndefined second

/-- The places where the edges cross a line, from left to right. -/
def crossings (edges : List (Edge Number)) (line : Number) : List Number :=
  ((edges.filter (·.crosses line)).map (·.crossingAt line)).mergeSort comesBefore

/-- The first with the second, the third with the fourth, and so on. -/
def pairUp : List Number → List (Number × Number)
  | first :: second :: rest => (first, second) :: pairUp rest
  | _ => []

omit [Scalar Number] in
theorem mem_of_mem_pairUp {numbers : List Number} {pair : Number × Number}
    (known : pair ∈ pairUp numbers) : pair.1 ∈ numbers ∧ pair.2 ∈ numbers := by
  fun_induction pairUp numbers with
  | case1 first second rest inductionHypothesis =>
    obtain rfl | known := List.mem_cons.mp known
    · exact ⟨List.mem_cons_self, List.mem_cons_of_mem _ List.mem_cons_self⟩
    · obtain ⟨inFirst, inSecond⟩ := inductionHypothesis known
      exact ⟨List.mem_cons_of_mem _ (List.mem_cons_of_mem _ inFirst),
        List.mem_cons_of_mem _ (List.mem_cons_of_mem _ inSecond)⟩
  | case2 => cases known

/-- The columns whose centres lie between two crossings: the first and the last of them, before they
are cut off at the edges of the picture. -/
def spanBetween (crossing : Number × Number) : Except Fault (Int × Int) := do
  let first ← Scalar.toInt .up (crossing.1 - Scalar.half)
  return (first, ← Scalar.toInt .down (crossing.2 - Scalar.half))

/-- The spans of a row. -/
def spansOfRow (edges : List (Edge Number)) (row : Int) : List (Except Fault (Int × Int)) :=
  (pairUp (crossings edges (centerLine row))).map spanBetween

/-- The rows that a polygon may touch: from the upper edge down to the lower one. -/
def rowRange (height : Nat) (rows : List Number) : Except Fault (Int × Int) :=
  match rows with
  | [] => .ok (0, -1)
  | first :: rest => do
    let top ← Scalar.toInt .down (smallest first rest)
    let bottom ← Scalar.toInt .up (largest first rest)
    return (max 0 top, min (height - 1) bottom)

end Crossings

/-! ### Filling -/

namespace Canvas

/-- Fills spans of a row, one after the other. A span that cannot be told ends the filling. -/
def fillSpans (row : Int) (color : Color) : List (Except Fault (Int × Int)) → Painting
  | [] => pure ()
  | span :: rest => do
    let (first, last) ← span
    modify fun canvas => canvas.fillBox (canvas.clip first row (last + 1) (row + 1)) color
    fillSpans row color rest

/-- Fills `count` rows of a polygon from a row on. -/
def fillRows {Number : Type} [Scalar Number] (edges : List (Edge Number)) (color : Color) :
    Nat → Int → Painting
  | 0, _ => pure ()
  | count + 1, row => do
    fillSpans row color (spansOfRow edges row)
    fillRows edges color count (row + 1)

/-- Fills a polygon. Fewer than three corners enclose nothing. -/
def fillPolygon {Number : Type} [Scalar Number] (corners : List (Number × Number))
    (color : Color) : Painting := do
  if 3 ≤ corners.length then
    let height := (← get).height
    let (top, bottom) ← rowRange height (corners.map Prod.snd)
    fillRows (edgesOf corners) color (bottom + 1 - top).toNat top

/-- Fills a polygon whose columns and rows are given apart. Unless there are as many of both they
are no corners, and nothing is filled. -/
def fillPolygonAt {Number : Type} [Scalar Number] (columns rows : List Number) (color : Color) :
    Painting := do
  if columns.length = rows.length then fillPolygon (columns.zip rows) color

end Canvas

end SeriesChart
