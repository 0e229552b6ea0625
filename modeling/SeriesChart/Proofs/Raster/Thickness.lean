/-
This file tells how thick lines are. Across a level or an upright segment a line has as many pixels
as the square brush has in a row, and a square that reaches equally far to all sides of its middle
has an odd number of them. So the width that is asked for is kept when it is odd, and a line of an
even width has one pixel more.
-/

import SeriesChart.Proofs.Raster.Lines
import SeriesChart.Scene.Marks
import SeriesChart.Sheet

namespace SeriesChart

/-! ### Walks along an axis -/

/-- Steps from one number towards another one, and not beyond it, come to the numbers between. -/
theorem exists_steps_iff (first last place : ℤ) :
    (∃ count : ℕ, count < (last - first).natAbs + 1 ∧
        first + (last - first).sign * count = place) ↔
      min first last ≤ place ∧ place ≤ max first last := by
  obtain up | rfl | down := lt_trichotomy first last
  · rw [Int.sign_eq_one_of_pos (by omega)]
    exact ⟨fun ⟨count, inside, reached⟩ => by omega,
      fun between => ⟨(place - first).toNat, by omega, by omega⟩⟩
  · rw [sub_self, Int.sign_zero]
    exact ⟨fun ⟨count, inside, reached⟩ => by omega, fun between => ⟨0, by omega, by omega⟩⟩
  · rw [Int.sign_eq_neg_one_of_neg (by omega)]
    exact ⟨fun ⟨count, inside, reached⟩ => by omega,
      fun between => ⟨(first - place).toNat, by omega, by omega⟩⟩

namespace Segment

variable {segment : Segment}

/-- A level segment goes through the places of its row from one end to the other. -/
theorem mem_walk_of_level (level : segment.y0 = segment.y1) (place : ℤ × ℤ) :
    place ∈ segment.walk ↔
      (min segment.x0 segment.x1 ≤ place.1 ∧ place.1 ≤ max segment.x0 segment.x1) ∧
        place.2 = segment.y0 := by
  have flat : segment.down = 0 := by simp [down, level]
  have length : segment.major.toNat = (segment.x1 - segment.x0).natAbs := by
    unfold major
    rw [flat, max_eq_left segment.across_nonneg]
    exact Int.toNat_natCast _
  have after (count : ℕ) : segment.placeAfter count =
      (segment.x0 + (segment.x1 - segment.x0).sign * count, segment.y0) := by
    unfold placeAfter
    rw [flat, if_pos segment.across_nonneg, level, sub_self, Int.sign_zero, zero_mul, add_zero]
  rw [walk_eq, length, ← exists_steps_iff, List.mem_map]
  simp only [List.mem_range, after, Prod.ext_iff]
  constructor
  · rintro ⟨count, inside, column, row⟩
    exact ⟨⟨count, inside, column⟩, row.symm⟩
  · rintro ⟨⟨count, inside, column⟩, row⟩
    exact ⟨count, inside, column, row.symm⟩

/-- An upright segment goes through the places of its column from one end to the other. -/
theorem mem_walk_of_upright (upright : segment.x0 = segment.x1) (place : ℤ × ℤ) :
    place ∈ segment.walk ↔
      (min segment.y0 segment.y1 ≤ place.2 ∧ place.2 ≤ max segment.y0 segment.y1) ∧
        place.1 = segment.x0 := by
  have narrow : segment.across = 0 := by simp [across, upright]
  have length : segment.major.toNat = (segment.y1 - segment.y0).natAbs := by
    unfold major
    rw [narrow, max_eq_right segment.down_nonneg]
    exact Int.toNat_natCast _
  have after (count : ℕ) : segment.placeAfter count =
      (segment.x0, segment.y0 + (segment.y1 - segment.y0).sign * count) := by
    unfold placeAfter
    dsimp only
    rw [narrow, upright, sub_self, Int.sign_zero, zero_mul, zero_mul, add_zero]
    -- A segment without any extent counts as level, and is walked nowhere.
    split
    · rename_i flat
      have none : segment.y1 - segment.y0 = 0 := by
        unfold down at flat
        omega
      rw [none, Int.sign_zero, zero_mul, zero_mul]
    · rfl
  rw [walk_eq, length, ← exists_steps_iff, List.mem_map]
  simp only [List.mem_range, after, Prod.ext_iff]
  constructor
  · rintro ⟨count, inside, column, row⟩
    exact ⟨⟨count, inside, row⟩, column.symm⟩
  · rintro ⟨⟨count, inside, row⟩, column⟩
    exact ⟨count, inside, column.symm, row⟩

/-! ### Pixels across a segment -/

variable (segment)

/-- The ends of a segment. -/
def ends : List (ℤ × ℤ) := [(segment.x0, segment.y0), (segment.x1, segment.y1)]

/-- How many pixels of a picture the line between the ends of a segment hits across a position: how
many of the column there when the segment is level, and else how many of the row. -/
def hitsAcross (canvas : Canvas) (brush : ℤ) (position : ℕ) : ℕ :=
  let hits := lineHits canvas.width canvas.height segment.ends brush
  if segment.y0 = segment.y1 then
    ((Finset.range canvas.height).filter fun row => hits.holds row position).card
  else ((Finset.range canvas.width).filter fun column => hits.holds position column).card

/-- The position lies strictly between the ends of a level or an upright segment: it is a column
when the segment is level, and else a row. -/
def IsInner (position : ℕ) : Prop :=
  (segment.y0 = segment.y1 ∧
      min segment.x0 segment.x1 < position ∧ position < max segment.x0 segment.x1) ∨
    (segment.x0 = segment.x1 ∧
      min segment.y0 segment.y1 < position ∧ position < max segment.y0 segment.y1)

instance (position : ℕ) : Decidable (segment.IsInner position) :=
  inferInstanceAs (Decidable (_ ∨ _))

/-- All stamps of the brush along a segment lie wholly inside the picture. -/
def FitsOn (canvas : Canvas) (brush : ℤ) : Prop :=
  ∀ place ∈ segment.walk,
    (brush / 2 ≤ place.1 ∧ place.1 + brush / 2 < canvas.width) ∧
      brush / 2 ≤ place.2 ∧ place.2 + brush / 2 < canvas.height

instance (canvas : Canvas) (brush : ℤ) : Decidable (segment.FitsOn canvas brush) :=
  inferInstanceAs (Decidable (∀ place ∈ segment.walk, _))

end Segment

/-- If the places within a radius of a middle are hit and no others, and none of them lies outside
of the picture, then one more than twice the radius are hit. -/
theorem card_hits {size : ℕ} {hit : ℕ → Bool} {middle radius : ℤ} (nonneg : 0 ≤ radius)
    (first : radius ≤ middle) (last : middle + radius < size)
    (near : ∀ place < size, hit place = true ↔ |(place : ℤ) - middle| ≤ radius) :
    (((Finset.range size).filter fun place => hit place = true).card : ℤ) = 2 * radius + 1 := by
  have between : ((Finset.range size).filter fun place => hit place = true) =
      Finset.Icc (middle - radius).toNat (middle + radius).toNat := by
    ext place
    rw [Finset.mem_filter, Finset.mem_range, Finset.mem_Icc]
    constructor
    · rintro ⟨inside, held⟩
      have bounds := abs_le.mp ((near place inside).mp held)
      omega
    · intro bounds
      have inside : place < size := by omega
      exact ⟨inside, (near place inside).mpr (abs_le.mpr (by omega))⟩
  rw [between, Nat.card_Icc]
  omega

namespace Segment

variable {segment : Segment} {canvas : Canvas} {brush : ℤ}

theorem holds_ends_iff (positive : 1 ≤ brush) {width height row column : ℕ} (inRow : row < height)
    (inColumn : column < width) :
    (lineHits width height segment.ends brush).holds row column = true ↔
      ∃ place ∈ segment.walk, Reaches (brush / 2) place row column := by
  rw [holds_lineHits inRow inColumn segment.ends positive]
  constructor
  · rintro ⟨other, known, reached⟩
    obtain rfl := List.mem_singleton.mp known
    exact reached
  · exact fun reached => ⟨segment, List.mem_singleton_self segment, reached⟩

section Reached

variable {radius : ℤ} (nonneg : 0 ≤ radius) {row column : ℕ}

include nonneg

/-- In a column between the ends of a level segment the brush reaches what is near to its row. -/
theorem reaches_iff_of_level (level : segment.y0 = segment.y1)
    (between : min segment.x0 segment.x1 ≤ column ∧ column ≤ max segment.x0 segment.x1) :
    (∃ place ∈ segment.walk, Reaches radius place row column) ↔
      |(row : ℤ) - segment.y0| ≤ radius := by
  constructor
  · rintro ⟨place, known, near, -⟩
    rwa [((mem_walk_of_level level place).mp known).2] at near
  · intro near
    refine ⟨(column, segment.y0), (mem_walk_of_level level _).mpr ⟨between, rfl⟩, near, ?_⟩
    rwa [sub_self, abs_zero]

/-- In a row between the ends of an upright segment the brush reaches what is near to its column. -/
theorem reaches_iff_of_upright (upright : segment.x0 = segment.x1)
    (between : min segment.y0 segment.y1 ≤ row ∧ row ≤ max segment.y0 segment.y1) :
    (∃ place ∈ segment.walk, Reaches radius place row column) ↔
      |(column : ℤ) - segment.x0| ≤ radius := by
  constructor
  · rintro ⟨place, known, -, near⟩
    rwa [((mem_walk_of_upright upright place).mp known).2] at near
  · intro near
    refine ⟨(segment.x0, row), (mem_walk_of_upright upright _).mpr ⟨between, rfl⟩, ?_, near⟩
    rwa [sub_self, abs_zero]

end Reached

/-- Across a segment there are as many hits as the brush has pixels in a row. -/
theorem hitsAcross_eq (positive : 1 ≤ brush) (fits : segment.FitsOn canvas brush) {position : ℕ}
    (inner : segment.IsInner position) :
    (segment.hitsAcross canvas brush position : ℤ) = 2 * (brush / 2) + 1 := by
  have nonneg : 0 ≤ brush / 2 := by omega
  unfold hitsAcross
  dsimp only
  obtain ⟨level, behind, before⟩ | ⟨upright, behind, before⟩ := inner
  · obtain ⟨⟨-, inColumn⟩, first, last⟩ := fits (position, segment.y0)
      ((mem_walk_of_level level _).mpr ⟨⟨behind.le, before.le⟩, rfl⟩)
    rw [if_pos level]
    refine card_hits nonneg first last fun row inRow => ?_
    rw [holds_ends_iff positive inRow (by omega),
      reaches_iff_of_level nonneg level ⟨behind.le, before.le⟩]
  · obtain ⟨⟨first, last⟩, -, inRow⟩ := fits (segment.x0, position)
      ((mem_walk_of_upright upright _).mpr ⟨⟨behind.le, before.le⟩, rfl⟩)
    rw [if_neg (by omega)]
    refine card_hits nonneg first last fun column inColumn => ?_
    rw [holds_ends_iff positive (by omega) inColumn,
      reaches_iff_of_upright nonneg upright ⟨behind.le, before.le⟩]

end Segment

/-! ### Strokes -/

/-- The second picture is the first with a line of a colour through places, which is of a thickness
across all level and upright segments that are not cut off. -/
structure Canvas.HasStroke (canvas drawn : Canvas) (color : Color) (places : List (ℤ × ℤ))
    (brush thickness : ℤ) : Prop where
  /-- The pixels that are hit take the whole of the colour, and the others nothing. -/
  painted : drawn = canvas.composite canvas.wholeBox color fun row column =>
    if (lineHits canvas.width canvas.height places brush).holds row column then 1.0 else 0.0
  /-- A line hits what the lines between the ends of its segments hit. -/
  joined : ∀ row column, row < canvas.height → column < canvas.width →
    ((lineHits canvas.width canvas.height places brush).holds row column = true ↔
      ∃ segment ∈ segmentsOf places,
        (lineHits canvas.width canvas.height segment.ends brush).holds row column = true)
  thick : ∀ segment ∈ segmentsOf places, segment.FitsOn canvas brush →
    ∀ position, segment.IsInner position → segment.hitsAcross canvas brush position = thickness

/-- A line is as thick as the brush has pixels in a row. -/
theorem Canvas.hasStroke_drawLine (canvas : Canvas) (color : Color) {places : List (ℤ × ℤ)}
    (enough : 2 ≤ places.length) {brush : ℤ} (positive : 1 ≤ brush) :
    canvas.HasStroke (canvas.drawLine places color brush) color places brush
      (2 * (brush / 2) + 1) := by
  refine ⟨canvas.drawLine_eq (not_lt.mpr enough) color brush, fun row column inRow inColumn => ?_,
    fun segment _ fits position inner => Segment.hitsAcross_eq positive fits inner⟩
  simp only [holds_lineHits inRow inColumn places positive,
    Segment.holds_ends_iff positive inRow inColumn]
  rfl

/-- The pixels nearest to the places of a line. -/
def Device.pixels (device : Device) (points : List (Float × Float)) : List (ℤ × ℤ) :=
  points.map fun point => (device.wordPixel point.1, device.wordPixel point.2)

theorem Device.paintPolyline_eq (device : Device) {points : List (Float × Float)}
    (enough : 2 ≤ points.length) (color : Color) {width : Float} {pixel : ℤ}
    (told : device.pixel width = .ok pixel) (canvas : Canvas) :
    device.paintPolyline points color width canvas =
      .ok () (canvas.drawLine (device.pixels points) color (max 1 pixel)) := by
  unfold paintPolyline brush
  rw [if_pos enough, told]
  rfl

theorem Device.hasStroke_paintPolyline (device : Device) {points : List (Float × Float)}
    (enough : 2 ≤ points.length) (color : Color) {width : Float} {pixel : ℤ}
    (told : device.pixel width = .ok pixel) (canvas : Canvas) : ∃ drawn : Canvas,
      device.paintPolyline points color width canvas = .ok () drawn ∧
        canvas.HasStroke drawn color (device.pixels points) (max 1 pixel)
          (2 * (max 1 pixel / 2) + 1) := by
  have enoughPixels : 2 ≤ (device.pixels points).length := by rwa [pixels, List.length_map]
  exact ⟨_, device.paintPolyline_eq enough color told canvas,
    canvas.hasStroke_drawLine color enoughPixels (le_max_left _ _)⟩

/-- The line of a chart is two pixels wide where a logical pixel is one of the picture. -/
theorem Device.pixel_chartLineWidth {device : Device} (unscaled : device.ratio = 1.0) :
    device.pixel chartLineWidth = .ok 2 := by
  unfold pixel chartLineWidth
  rw [unscaled]
  decide +kernel

/-- Every line is as thick as the brush has pixels in a row, which is the width that is asked for if
that is odd and one more if it is even. A stroke of some logical width asks for the width nearest to
it in pixels, and for one at least; so the line of a chart, which asks for two of them where a
logical pixel is one of the picture, is three pixels thick. -/
theorem strokes_of_brush (canvas : Canvas) (color : Color) :
    (∀ (places : List (ℤ × ℤ)) (brush : ℤ), 2 ≤ places.length → 1 ≤ brush →
      canvas.HasStroke (canvas.drawLine places color brush) color places brush
        (2 * (brush / 2) + 1)) ∧
    (∀ (segment : Segment) (brush : ℤ) (position : ℕ), 1 ≤ brush → segment.FitsOn canvas brush →
      segment.IsInner position →
        (segment.hitsAcross canvas brush position = brush ↔ Odd brush) ∧
        (segment.hitsAcross canvas brush position = brush + 1 ↔ Even brush)) ∧
    (∀ (device : Device) (points : List (Float × Float)) (width : Float) (pixel : ℤ),
      2 ≤ points.length → device.pixel width = .ok pixel → ∃ drawn : Canvas,
        device.paintPolyline points color width canvas = .ok () drawn ∧
          canvas.HasStroke drawn color (device.pixels points) (max 1 pixel)
            (2 * (max 1 pixel / 2) + 1)) ∧
    ∀ (device : Device) (points : List (Float × Float)),
      2 ≤ points.length → device.ratio = 1.0 → ∃ drawn : Canvas,
        device.paintPolyline points color chartLineWidth canvas = .ok () drawn ∧
          canvas.HasStroke drawn color (device.pixels points) 2 3 := by
  refine ⟨fun places brush enough positive => canvas.hasStroke_drawLine color enough positive,
    fun segment brush position positive fits inner => ?_,
    fun device points width pixel enough told =>
      device.hasStroke_paintPolyline enough color told canvas,
    fun device points enough unscaled =>
      device.hasStroke_paintPolyline enough color (Device.pixel_chartLineWidth unscaled) canvas⟩
  rw [Segment.hitsAcross_eq positive fits inner, Int.odd_iff, Int.even_iff]
  omega

/-- A line of two pixels comes out with three. -/
theorem thickened_line :
    ¬∀ (canvas : Canvas) (color : Color) (places : List (ℤ × ℤ)) (brush : ℤ),
      2 ≤ places.length → 1 ≤ brush →
      canvas.HasStroke (canvas.drawLine places color brush) color places brush brush := by
  intro always
  have stroke := always (.filled 5 5 .clear) ⟨255, 0, 0, 255⟩ [(1, 2), (3, 2)] 2 (by decide)
    (by decide)
  have across := stroke.thick ⟨1, 2, 3, 2⟩ List.mem_cons_self (by decide) 2 (by decide)
  exact absurd across (by decide +kernel)

end SeriesChart
