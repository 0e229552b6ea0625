/-
This file tells which pixels a line covers: those that the square brush reaches from some place of
the walk along some segment. A stamp of the brush marks what lies inside the picture and nothing
else, so marks at an edge do not come out at the other one; and as the marks of all stamps are
collected before anything is painted, a pixel that many stamps reach is painted once.
-/

import SeriesChart.Proofs.Raster.Marks
import SeriesChart.Proofs.Raster.Walk

namespace SeriesChart

/-! ### Marked pixels -/

namespace Hits

@[simp] theorem size_markRun (start count : ℕ) (marks : Array Bool) :
    (markRun start count marks).size = marks.size := by
  induction count generalizing marks with
  | zero => rfl
  | succ count inductionHypothesis => simp [markRun, inductionHypothesis]

@[simp] theorem size_markRows (width left run top count : ℕ) (marks : Array Bool) :
    (markRows width left run top count marks).size = marks.size := by
  induction count generalizing marks with
  | zero => rfl
  | succ count inductionHypothesis => simp [markRows, inductionHypothesis]

theorem getD_markRun (start count : ℕ) {marks : Array Bool} {index : ℕ}
    (placed : index < marks.size) :
    (markRun start count marks).getD index false = true ↔
      marks.getD index false = true ∨ start ≤ index ∧ index < start + count := by
  induction count generalizing marks with
  | zero =>
    refine (or_iff_left ?_).symm
    omega
  | succ count inductionHypothesis =>
    have placed' : index < (marks.setIfInBounds (start + count) true).size := by simpa using placed
    rw [markRun, inductionHypothesis placed', Array.getD_eq_getD_getElem?,
      Array.getElem?_setIfInBounds, Array.getD_eq_getD_getElem?]
    by_cases last : start + count = index
    · subst last
      simp [placed]
    · rw [if_neg last]
      refine or_congr_right ?_
      omega

theorem getD_markRows {width left run : ℕ} (fits : left + run ≤ width) (top count : ℕ)
    {marks : Array Bool} {row column : ℕ} (inRow : column < width)
    (placed : row * width + column < marks.size) :
    (markRows width left run top count marks).getD (row * width + column) false = true ↔
      marks.getD (row * width + column) false = true ∨
        (top ≤ row ∧ row < top + count) ∧ left ≤ column ∧ column < left + run := by
  induction count generalizing marks with
  | zero =>
    refine (or_iff_left ?_).symm
    omega
  | succ count inductionHypothesis =>
    rw [markRows, inductionHypothesis (by simpa using placed), getD_markRun _ _ placed, or_assoc]
    refine or_congr_right ?_
    have inRun : (top + count) * width + left ≤ row * width + column ∧
        row * width + column < (top + count) * width + left + run ↔
        row = top + count ∧ left ≤ column ∧ column < left + run := by
      constructor
      · rintro ⟨first, last⟩
        obtain ⟨offset, place⟩ := Nat.le.dest first
        have inOther : left + offset < width := by omega
        have same : row * width + column = (top + count) * width + (left + offset) := by omega
        obtain ⟨rfl, rfl⟩ := Canvas.row_column_unique inRow inOther same
        omega
      · rintro ⟨rfl, first, last⟩
        omega
    rw [inRun]
    omega

variable {hits : Hits}

/-- There is a mark, set or not, for every pixel of a picture of that size. -/
structure HasSize (width height : ℕ) (hits : Hits) : Prop where
  width_eq : hits.width = width
  height_eq : hits.height = height
  size_eq : hits.marks.size = width * height

variable {width height : ℕ}

theorem hasSize_none : (none width height).HasSize width height :=
  ⟨rfl, rfl, Array.size_replicate⟩

theorem not_holds_none (width height row column : ℕ) :
    (none width height).holds row column = false := by
  unfold holds none
  rw [Array.getD_eq_getD_getElem?, Array.getElem?_replicate]
  split <;> rfl

theorem HasSize.stamp (sized : hits.HasSize width height) (radius : ℤ) (place : ℤ × ℤ) :
    (hits.stamp radius place).HasSize width height := by
  unfold Hits.stamp
  dsimp only
  split
  · exact sized
  · exact ⟨sized.width_eq, sized.height_eq, by rw [size_markRows, sized.size_eq]⟩

theorem HasSize.placed (sized : hits.HasSize width height) {row column : ℕ} (inRow : row < height)
    (inColumn : column < width) : row * width + column < hits.marks.size := by
  have next : (row + 1) * width ≤ height * width := Nat.mul_le_mul_right width inRow
  rw [sized.size_eq, Nat.mul_comm width]
  rw [Nat.add_mul] at next
  omega

end Hits

/-! ### The pixels that a brush reaches -/

/-- A square brush that reaches so far around a place covers the pixel of a row and a column. -/
def Reaches (radius : ℤ) (place : ℤ × ℤ) (row column : ℕ) : Prop :=
  |(row : ℤ) - place.2| ≤ radius ∧ |(column : ℤ) - place.1| ≤ radius

instance (radius : ℤ) (place : ℤ × ℤ) (row column : ℕ) :
    Decidable (Reaches radius place row column) := inferInstanceAs (Decidable (_ ∧ _))

namespace Hits

variable {width height : ℕ} {hits : Hits} {row column : ℕ} (inRow : row < height)
  (inColumn : column < width)

include inRow inColumn

/-- A stamp marks the pixels inside the picture that the brush reaches, and no others. -/
theorem holds_stamp (sized : hits.HasSize width height) (radius : ℤ) (place : ℤ × ℤ) :
    (hits.stamp radius place).holds row column = true ↔
      hits.holds row column = true ∨ Reaches radius place row column := by
  have placed := sized.placed inRow inColumn
  unfold Hits.stamp Reaches
  dsimp only
  rw [abs_le, abs_le]
  rw [sized.width_eq, sized.height_eq]
  split
  · refine (or_iff_left ?_).symm
    omega
  · unfold holds
    dsimp only
    rw [sized.width_eq, getD_markRows (by omega) _ _ inColumn placed]
    refine or_congr_right ?_
    omega

/-- Stamps at several places mark what the brush reaches from some of them. -/
theorem holds_stamps (sized : hits.HasSize width height) (radius : ℤ) (places : List (ℤ × ℤ)) :
    (places.foldl (Hits.stamp · radius) hits).HasSize width height ∧
      ((places.foldl (Hits.stamp · radius) hits).holds row column = true ↔
        hits.holds row column = true ∨ ∃ place ∈ places, Reaches radius place row column) := by
  induction places generalizing hits with
  | nil => exact ⟨sized, by simp⟩
  | cons place rest inductionHypothesis =>
    obtain ⟨sized', marked⟩ := inductionHypothesis (sized.stamp radius place)
    refine ⟨sized', marked.trans ?_⟩
    rw [holds_stamp inRow inColumn sized, List.exists_mem_cons_iff, or_assoc]

/-- The walks of several segments mark what the brush reaches from some place of some of them. -/
theorem holds_walks (sized : hits.HasSize width height) (radius : ℤ) (segments : List Segment) :
    (segments.foldl (fun hits segment => segment.walk.foldl (Hits.stamp · radius) hits)
      hits).holds row column = true ↔
        hits.holds row column = true ∨
          ∃ segment ∈ segments, ∃ place ∈ segment.walk, Reaches radius place row column := by
  induction segments generalizing hits with
  | nil => simp
  | cons segment rest inductionHypothesis =>
    obtain ⟨sized', marked⟩ := holds_stamps inRow inColumn sized radius segment.walk
    rw [List.foldl_cons, inductionHypothesis sized', marked, List.exists_mem_cons_iff, or_assoc]

end Hits

/-! ### Lines -/

/-- The line through places covers the pixel of a row and a column: a brush of that width reaches
the pixel from some place of the walk along some segment. -/
def LineCovers (places : List (ℤ × ℤ)) (brush : ℤ) (row column : ℕ) : Prop :=
  ∃ segment ∈ segmentsOf places, ∃ place ∈ segment.walk, Reaches (brush / 2) place row column

instance (places : List (ℤ × ℤ)) (brush : ℤ) (row column : ℕ) :
    Decidable (LineCovers places brush row column) :=
  inferInstanceAs (Decidable (∃ segment ∈ segmentsOf places, ∃ place ∈ segment.walk,
    Reaches (brush / 2) place row column))

theorem holds_lineHits {width height row column : ℕ} (inRow : row < height)
    (inColumn : column < width) (places : List (ℤ × ℤ)) {brush : ℤ} (positive : 1 ≤ brush) :
    (lineHits width height places brush).holds row column = true ↔
      LineCovers places brush row column := by
  have radius : brushRadius brush = brush / 2 := max_eq_right (by omega)
  unfold lineHits
  rw [Hits.holds_walks inRow inColumn Hits.hasSize_none, Hits.not_holds_none, radius]
  simp only [Bool.false_eq_true, false_or]
  rfl

/-- How much of a pixel the line covers: all of it or nothing. -/
def lineCoverage (places : List (ℤ × ℤ)) (brush : ℤ) (row column : ℕ) : Float32 :=
  if LineCovers places brush row column then 1.0 else 0.0

namespace Canvas

/-- Only what a change does inside the box counts. -/
theorem modifyBox_congr (canvas : Canvas) {box : Box} {first second : ℕ → ℕ → Pixel → Pixel}
    (same : ∀ row column, box.holds row column = true → first row column = second row column) :
    canvas.modifyBox box first = canvas.modifyBox box second := by
  refine eq_of_pixelAt ?_ ?_ fun row column _ _ => ?_
  · rw [width_modifyBox, width_modifyBox]
  · rw [height_modifyBox, height_modifyBox]
  · rw [pixelAt?_modifyBox, pixelAt?_modifyBox]
    by_cases inside : box.holds row column = true
    · rw [if_pos inside, if_pos inside, same row column inside]
    · rw [if_neg inside, if_neg inside]

/-- Only the coverage inside the box counts. -/
theorem composite_congr (canvas : Canvas) {box : Box} (color : Color)
    {first second : ℕ → ℕ → Float32}
    (same : ∀ row column, box.holds row column = true → first row column = second row column) :
    canvas.composite box color first = canvas.composite box color second := by
  have shown : (box.any fun row column => first row column * (Paint.ofColor color).opacity > 0.0) =
      box.any fun row column => second row column * (Paint.ofColor color).opacity > 0.0 := by
    rw [Bool.eq_iff_iff, Box.any_iff, Box.any_iff]
    refine exists_congr fun row => exists_congr fun column => and_congr_right fun inside => ?_
    rw [same row column inside]
  have painted : (canvas.modifyBox box fun row column pixel => pixel.blend (Paint.ofColor color)
      (first row column * (Paint.ofColor color).opacity)) =
      canvas.modifyBox box fun row column pixel => pixel.blend (Paint.ofColor color)
        (second row column * (Paint.ofColor color).opacity) :=
    canvas.modifyBox_congr fun row column inside => by rw [same row column inside]
  unfold composite
  dsimp only
  rw [shown, painted]

/-- A line is laid over the whole picture at once. -/
theorem drawLine_eq_composite (canvas : Canvas) {places : List (ℤ × ℤ)} (enough : 2 ≤ places.length)
    (color : Color) {brush : ℤ} (positive : 1 ≤ brush) :
    canvas.drawLine places color brush =
      canvas.composite canvas.wholeBox color (lineCoverage places brush) := by
  rw [drawLine_eq canvas (not_lt.mpr enough)]
  refine composite_congr canvas color fun row column inside => ?_
  obtain ⟨⟨-, inRow⟩, -, inColumn⟩ := (Box.holds_iff _ _ _).mp inside
  exact if_congr (holds_lineHits inRow inColumn places positive) rfl rfl

/-- What laying a colour over the whole picture makes of a pixel. -/
theorem pixelAt?_lay_wholeBox {canvas : Canvas} (color : Color) (coverage : ℕ → ℕ → Float32)
    {row column : ℕ} {pixel : Pixel} (placed : canvas.pixelAt? row column = some pixel) :
    (canvas.composite canvas.wholeBox color coverage).pixelAt? row column = some
      (if Patch.shows ⟨canvas.wholeBox, coverage⟩ color then
        pixel.blend (Paint.ofColor color) (coverage row column * (Paint.ofColor color).opacity)
      else pixel) := by
  have inside : canvas.wholeBox.holds row column = true := by
    unfold pixelAt? at placed
    split at placed
    · rename_i within
      exact (Box.holds_iff _ _ _).mpr ⟨⟨Nat.zero_le _, within.1⟩, Nat.zero_le _, within.2⟩
    · cases placed
  by_cases shown : Patch.shows ⟨canvas.wholeBox, coverage⟩ color = true
  · have painted : canvas.composite canvas.wholeBox color coverage =
        canvas.modifyBox canvas.wholeBox fun row column pixel =>
          pixel.blend (Paint.ofColor color)
            (coverage row column * (Paint.ofColor color).opacity) := if_pos shown
    rw [painted, pixelAt?_modifyBox, if_pos inside, placed, if_pos shown, Option.map_some]
  · have left : canvas.composite canvas.wholeBox color coverage = canvas := if_neg shown
    rw [left, placed, if_neg shown]

end Canvas

/-- Thirty-two bits with a sign can hold the whole number. -/
def IsWord (number : ℤ) : Prop := -2 ^ 31 ≤ number ∧ number < 2 ^ 31

instance (number : ℤ) : Decidable (IsWord number) := inferInstanceAs (Decidable (_ ∧ _))

theorem forM_checkPlace {numbers : List ℤ} (words : ∀ number ∈ numbers, IsWord number) :
    numbers.forM checkPlace = .ok () := by
  induction numbers with
  | nil => rfl
  | cons number rest inductionHypothesis =>
    obtain ⟨⟨low, high⟩, others⟩ := List.forall_mem_cons.mp words
    have passes : checkPlace number = .ok () := by
      have limit : ((twoTo 31 : ℕ) : ℤ) = 2 ^ 31 := by decide
      unfold checkPlace
      dsimp only
      rw [limit, if_pos (by simpa using ⟨low, high⟩)]
    show checkPlace number >>= (fun _ => rest.forM checkPlace) = _
    rw [passes]
    exact inductionHypothesis others

/-- Columns and rows that fit the words of an array are the places of a line. -/
theorem drawLineAt_of_words (canvas : Canvas) {places : List (ℤ × ℤ)} (enough : 2 ≤ places.length)
    (color : Color) (brush : ℤ) (words : ∀ place ∈ places, IsWord place.1 ∧ IsWord place.2) :
    Canvas.drawLineAt (places.map Prod.fst) (places.map Prod.snd) color brush canvas =
      .ok () (canvas.drawLine places color brush) := by
  have columns := forM_checkPlace
    (List.forall_mem_map.mpr fun place known => (words place known).1)
  have rows := forM_checkPlace (List.forall_mem_map.mpr fun place known => (words place known).2)
  have asPairs : (places.map Prod.fst).zip (places.map Prod.snd) = places := by
    rw [List.zip_map', List.map_id']
  have isLine : 2 ≤ (places.map Prod.fst).length := by rwa [List.length_map]
  have noneLacks : ¬(places.map Prod.snd).length < (places.map Prod.fst).length := by
    rw [List.length_map, List.length_map]
    exact lt_irrefl _
  unfold Canvas.drawLineAt
  rw [Canvas.forM_lift, Canvas.forM_lift, columns, rows, if_pos isLine, if_neg noneLacks, asPairs]
  rfl

/-- A line lays its colour over the picture once, with the whole of it on the pixels that a brush
reaches from some place of its segments, and nothing of it on the others; so every pixel takes the
colour at most once. Places that fit the words of an array are never missed. -/
theorem line_covers (canvas : Canvas) {places : List (ℤ × ℤ)} (enough : 2 ≤ places.length)
    (color : Color) {brush : ℤ} (positive : 1 ≤ brush) :
    canvas.drawLine places color brush =
      canvas.composite canvas.wholeBox color (lineCoverage places brush) ∧
    (∀ row column pixel, canvas.pixelAt? row column = some pixel →
      (canvas.drawLine places color brush).pixelAt? row column = some
        (if Patch.shows ⟨canvas.wholeBox, lineCoverage places brush⟩ color then
          pixel.blend (Paint.ofColor color)
            (lineCoverage places brush row column * (Paint.ofColor color).opacity)
        else pixel)) ∧
    ((∀ place ∈ places, IsWord place.1 ∧ IsWord place.2) →
      Canvas.drawLineAt (places.map Prod.fst) (places.map Prod.snd) color brush canvas =
        .ok () (canvas.drawLine places color brush)) := by
  have composited := canvas.drawLine_eq_composite enough color positive
  refine ⟨composited, fun row column pixel placed => ?_,
    drawLineAt_of_words canvas enough color brush⟩
  rw [composited]
  exact Canvas.pixelAt?_lay_wholeBox color _ placed

/-- A line that starts left of a picture of three pixels and turns back at the second of them covers
the first two. -/
theorem line_covers_returning :
    2 ≤ [((-2 : ℤ), (0 : ℤ)), (1, 0), (0, 0)].length ∧ (1 : ℤ) ≤ 1 ∧
    (Canvas.filled 3 1 .clear).drawLine [(-2, 0), (1, 0), (0, 0)] ⟨255, 0, 0, 26⟩ 1 =
      (Canvas.filled 3 1 .clear).composite (Canvas.filled 3 1 .clear).wholeBox ⟨255, 0, 0, 26⟩
        (lineCoverage [(-2, 0), (1, 0), (0, 0)] 1) ∧
    Canvas.drawLineAt [-2, 1, 0] [0, 0, 0] ⟨255, 0, 0, 26⟩ 1 (.filled 3 1 .clear) =
      .ok () ((Canvas.filled 3 1 .clear).drawLine [(-2, 0), (1, 0), (0, 0)] ⟨255, 0, 0, 26⟩ 1) ∧
    LineCovers [(-2, 0), (1, 0), (0, 0)] 1 0 0 ∧ LineCovers [(-2, 0), (1, 0), (0, 0)] 1 0 1 ∧
    ¬LineCovers [(-2, 0), (1, 0), (0, 0)] 1 0 2 := by
  have covers := line_covers (Canvas.filled 3 1 .clear)
    (by decide : 2 ≤ [((-2 : ℤ), (0 : ℤ)), (1, 0), (0, 0)].length) ⟨255, 0, 0, 26⟩
    (by decide : (1 : ℤ) ≤ 1)
  exact ⟨by decide, by decide, covers.1, covers.2.2 (by decide), by decide, by decide, by decide⟩

end SeriesChart
