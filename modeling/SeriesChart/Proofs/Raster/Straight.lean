/-
This file compares the two ways of painting a straight line. A level or an upright line of one
pixel may be painted at once, as a run of a row or of a column, or pixel by pixel along a walk. Both
paint the same pixels of every picture, in whatever direction the line goes and wherever it is cut
off. They differ only in what becomes of a colour that a pixel without opacity has kept, so two
pictures without such colours come out alike byte by byte.
-/

import SeriesChart.Proofs.Raster.Thickness

namespace SeriesChart

/-! ### Painted pixels -/

namespace Patch

/-- The pixel of a row and a column takes a part of the colour that is laid over the patch. -/
def Paints (patch : Patch) (row column : ℕ) : Prop :=
  patch.box.holds row column = true ∧ patch.coverage row column > 0.0

instance (patch : Patch) (row column : ℕ) : Decidable (patch.Paints row column) :=
  inferInstanceAs (Decidable (_ ∧ _))

/-- Every pixel of the box is covered as a whole or not at all. -/
def IsStencil (patch : Patch) : Prop :=
  ∀ row column, patch.coverage row column = 1.0 ∨ patch.coverage row column = 0.0

theorem isStencil_solid (box : Canvas.Box) : (solid box).IsStencil := fun _ _ => Or.inl rfl

theorem isStencil_choice (box : Canvas.Box) (chosen : ℕ → ℕ → Bool) :
    IsStencil ⟨box, fun row column => if chosen row column then 1.0 else 0.0⟩ := by
  intro row column
  dsimp only
  split
  · exact Or.inl rfl
  · exact Or.inr rfl

theorem paints_solid_iff (box : Canvas.Box) (row column : ℕ) :
    (solid box).Paints row column ↔ box.holds row column = true :=
  and_iff_left (by decide : (1.0 : Float32) > 0.0)

theorem paints_choice_iff (box : Canvas.Box) (chosen : ℕ → ℕ → Bool) (row column : ℕ) :
    Paints ⟨box, fun row column => if chosen row column then 1.0 else 0.0⟩ row column ↔
      box.holds row column = true ∧ chosen row column = true := by
  refine and_congr_right fun _ => ?_
  dsimp only
  split
  · rename_i yes
    exact iff_of_true (by decide) yes
  · rename_i no
    exact iff_of_false (by decide) no

section Stencils

variable {patch : Patch} (stencil : patch.IsStencil)

include stencil

theorem IsStencil.coverage_eq {row column : ℕ} (painted : patch.Paints row column) :
    patch.coverage row column = 1.0 :=
  (stencil row column).resolve_right fun none =>
    absurd painted.2 (by rw [none]; decide)

theorem IsStencil.leavesOut {row column : ℕ} (unpainted : ¬patch.Paints row column) :
    patch.LeavesOut row column := fun inside =>
  (stencil row column).resolve_left fun whole =>
    unpainted ⟨inside, by rw [whole]; decide⟩

/-- A painted pixel takes the whole of the colour, if that can be seen. -/
theorem IsStencil.pixelAt?_lay {color : Color} {canvas : Canvas} {row column : ℕ} {pixel : Pixel}
    (placed : canvas.pixelAt? row column = some pixel) (painted : patch.Paints row column) :
    (patch.lay color canvas).pixelAt? row column = some
      (if 1.0 * (Paint.ofColor color).opacity > 0.0 then
        pixel.blend (Paint.ofColor color) (1.0 * (Paint.ofColor color).opacity)
      else pixel) := by
  have whole := stencil.coverage_eq painted
  split
  · rename_i seen
    have shown : patch.shows color = true :=
      (Canvas.Box.any_iff _ _).mpr ⟨row, column, painted.1, by rw [whole]; exact decide_eq_true seen⟩
    have changed : patch.lay color canvas = canvas.modifyBox patch.box fun row column pixel =>
        pixel.blend (Paint.ofColor color)
          (patch.coverage row column * (Paint.ofColor color).opacity) := if_pos shown
    rw [changed, Canvas.pixelAt?_modifyBox, if_pos painted.1, placed, Option.map_some, whole]
  · rename_i unseen
    have kept : patch.lay color canvas = canvas := by
      refine if_neg fun shown => ?_
      obtain ⟨otherRow, otherColumn, -, taken⟩ := (Canvas.Box.any_iff _ _).mp shown
      rw [decide_eq_true_eq] at taken
      obtain whole | none := stencil otherRow otherColumn
      · rw [whole] at taken
        exact unseen taken
      · rw [none] at taken
        exact not_pos_zero_mul _ taken
    rw [kept, placed]

end Stencils

end Patch

namespace Canvas

/-- No pixel of the picture has a colour without opacity. -/
def ShowsAll (canvas : Canvas) : Prop :=
  ∀ row column pixel, canvas.pixelAt? row column = some pixel → pixel.alpha = 0 → pixel = .clear

/-- Two stencils that paint the same pixels make the same of a picture that shows all its
colours. -/
theorem lay_eq_lay {canvas : Canvas} (showsAll : canvas.ShowsAll) {color : Color}
    (finite : (Paint.ofColor color).IsFinite) {first second : Patch} (stencil : first.IsStencil)
    (otherStencil : second.IsStencil)
    (same : ∀ row column, first.Paints row column ↔ second.Paints row column) :
    first.lay color canvas = second.lay color canvas := by
  have sized := canvas.hasSize_self.composite first.box color first.coverage
  have otherSized := canvas.hasSize_self.composite second.box color second.coverage
  refine eq_of_pixelAt (sized.1.trans otherSized.1.symm) (sized.2.trans otherSized.2.symm)
    fun row column inRow inColumn => ?_
  obtain ⟨pixel, placed⟩ := exists_pixelAt (sized.2 ▸ inRow) (sized.1 ▸ inColumn)
  by_cases painted : first.Paints row column
  · rw [stencil.pixelAt?_lay placed painted,
      otherStencil.pixelAt?_lay placed ((same row column).mp painted)]
  · have keeps {patch : Patch} (unpainted : patch.LeavesOut row column) :
        (patch.lay color canvas).pixelAt? row column = some pixel := by
      rw [Patch.pixelAt?_lay finite placed unpainted]
      split
      · rename_i lost
        rw [showsAll row column pixel placed lost.1]
      · rfl
    rw [keeps (stencil.leavesOut painted),
      keeps (otherStencil.leavesOut (painted ∘ (same row column).mpr))]

end Canvas

/-! ### Runs and walks -/

/-- A brush of one pixel reaches the place that it is put on. -/
theorem exists_reaches_zero_iff (places : List (ℤ × ℤ)) (row column : ℕ) :
    (∃ place ∈ places, Reaches (1 / 2) place row column) ↔ ((column : ℤ), (row : ℤ)) ∈ places := by
  have only (place : ℤ × ℤ) : Reaches (1 / 2) place row column ↔
      place = ((column : ℤ), (row : ℤ)) := by
    unfold Reaches
    rw [abs_le, abs_le, Prod.ext_iff]
    omega
  simp only [only, exists_eq_right]

namespace Mark

/-- Some of the pixel of a row and a column is covered when the shape is drawn on the picture. -/
def Paints (mark : Mark) (canvas : Canvas) (row column : ℕ) : Prop :=
  ∃ patch ∈ toldPatches (mark.patches canvas), patch.Paints row column

/-- The line between two places as a walk from the one to the other. -/
def walked (start stop : ℤ × ℤ) (brush : ℤ) : Mark :=
  .line [start.1, stop.1] [start.2, stop.2] brush

/-- The line between two places, as a run of pixels if it is one pixel wide and level or upright. -/
def straight (start stop : ℤ × ℤ) (brush : ℤ) : Mark :=
  if brush ≤ 1 ∧ start.2 = stop.2 then .horizontal start.1 stop.1 start.2
  else if brush ≤ 1 ∧ start.1 = stop.1 then .vertical start.1 start.2 stop.2
  else walked start stop brush

theorem paints_of_patches {mark : Mark} {canvas : Canvas} {patch : Patch}
    (told : mark.patches canvas = [.ok (some patch)]) (row column : ℕ) :
    mark.Paints canvas row column ↔ patch.Paints row column := by
  unfold Paints
  rw [told]
  exact ⟨fun ⟨_, known, painted⟩ => List.mem_singleton.mp known ▸ painted,
    fun painted => ⟨patch, List.mem_singleton_self patch, painted⟩⟩

section Walks

variable {start stop : ℤ × ℤ} (isWord : IsWord start.1 ∧ IsWord start.2)
  (isOtherWord : IsWord stop.1 ∧ IsWord stop.2)

include isWord isOtherWord

/-- What a walk lays over a picture: the whole of the colour on the pixels that are hit. -/
theorem patches_walked (canvas : Canvas) (brush : ℤ) :
    (walked start stop brush).patches canvas = [.ok (some ⟨canvas.wholeBox, fun row column =>
      if (lineHits canvas.width canvas.height [start, stop] brush).holds row column then 1.0
      else 0.0⟩)] := by
  have columns : [start.1, stop.1].forM checkPlace = .ok () :=
    forM_checkPlace (List.forall_mem_cons.mpr
      ⟨isWord.1, List.forall_mem_singleton.mpr isOtherWord.1⟩)
  have rows : [start.2, stop.2].forM checkPlace = .ok () :=
    forM_checkPlace (List.forall_mem_cons.mpr
      ⟨isWord.2, List.forall_mem_singleton.mpr isOtherWord.2⟩)
  show [canvas.linePatch [start.1, stop.1] [start.2, stop.2] brush] = _
  unfold Canvas.linePatch
  rw [columns, rows]
  rfl

theorem paints_walked_iff (canvas : Canvas) {brush : ℤ} (positive : 1 ≤ brush) (row column : ℕ) :
    (walked start stop brush).Paints canvas row column ↔
      (row < canvas.height ∧ column < canvas.width) ∧
        ∃ place ∈ (Segment.mk start.1 start.2 stop.1 stop.2).walk,
          Reaches (brush / 2) place row column := by
  have ends : (Segment.mk start.1 start.2 stop.1 stop.2).ends = [start, stop] := rfl
  rw [paints_of_patches (patches_walked isWord isOtherWord canvas brush), Patch.paints_choice_iff,
    Canvas.Box.holds_iff, ← ends]
  simp only [Canvas.wholeBox, Nat.zero_le, true_and]
  refine and_congr_right fun inside => ?_
  exact Segment.holds_ends_iff positive inside.1 inside.2

/-- A level walk of one pixel paints a run of its row. -/
theorem paints_horizontal_iff (canvas : Canvas) (level : start.2 = stop.2) (row column : ℕ) :
    (horizontal start.1 stop.1 start.2).Paints canvas row column ↔
      (walked start stop 1).Paints canvas row column := by
  rw [paints_walked_iff isWord isOtherWord canvas le_rfl, paints_of_patches rfl,
    Patch.paints_solid_iff, Canvas.holds_clip, exists_reaches_zero_iff,
    Segment.mem_walk_of_level level]
  dsimp only
  omega

/-- An upright walk of one pixel paints a run of its column. -/
theorem paints_vertical_iff (canvas : Canvas) (upright : start.1 = stop.1) (row column : ℕ) :
    (vertical start.1 start.2 stop.2).Paints canvas row column ↔
      (walked start stop 1).Paints canvas row column := by
  rw [paints_walked_iff isWord isOtherWord canvas le_rfl, paints_of_patches rfl,
    Patch.paints_solid_iff, Canvas.holds_clip, exists_reaches_zero_iff,
    Segment.mem_walk_of_upright upright]
  dsimp only
  omega

/-- However a line is painted, it paints the same pixels. -/
theorem paints_straight_iff (canvas : Canvas) {brush : ℤ} (positive : 1 ≤ brush)
    (row column : ℕ) :
    (straight start stop brush).Paints canvas row column ↔
      (walked start stop brush).Paints canvas row column := by
  unfold straight
  split
  · rename_i level
    obtain rfl : brush = 1 := le_antisymm level.1 positive
    exact paints_horizontal_iff isWord isOtherWord canvas level.2 row column
  · split
    · rename_i upright
      obtain rfl : brush = 1 := le_antisymm upright.1 positive
      exact paints_vertical_iff isWord isOtherWord canvas upright.2 row column
    · rfl

/-- Whichever way a line is painted, it is a stencil that is laid over the picture. -/
theorem exists_patch_walked (canvas : Canvas) (brush : ℤ) : ∃ patch : Patch,
    patch.IsStencil ∧ (walked start stop brush).patches canvas = [.ok (some patch)] :=
  ⟨_, Patch.isStencil_choice _ _, patches_walked isWord isOtherWord canvas brush⟩

theorem exists_patch_straight (canvas : Canvas) (brush : ℤ) : ∃ patch : Patch,
    patch.IsStencil ∧ (straight start stop brush).patches canvas = [.ok (some patch)] := by
  unfold straight
  split
  · exact ⟨_, Patch.isStencil_solid _, rfl⟩
  · split
    · exact ⟨_, Patch.isStencil_solid _, rfl⟩
    · exact exists_patch_walked isWord isOtherWord canvas brush

end Walks

/-- A shape of one patch is drawn by laying it. -/
theorem draw_of_patches {mark : Mark} {canvas : Canvas} {patch : Patch}
    (told : mark.patches canvas = [.ok (some patch)]) (color : Color) :
    mark.draw color canvas = .ok () (patch.lay color canvas) := by
  rw [draw_eq, told, Canvas.laySteps_single]
  rfl

end Mark

/-! ### Lines of a device -/

namespace Device

theorem wordPixel_eq {device : Device} {length : Float} {pixel : ℤ}
    (told : device.pixel length = .ok pixel) (isWord : IsWord pixel) :
    device.wordPixel length = pixel := by
  have least : leastWord = -2 ^ 31 := by decide
  have inside : leastWord ≤ pixel ∧ pixel < -leastWord := by
    rw [least, neg_neg]
    exact isWord
  unfold wordPixel
  rw [told]
  exact if_pos inside

theorem place_eq_ok {device : Device} {x y : Float} {place : ℤ × ℤ}
    (told : device.place x y = .ok place) :
    device.pixel x = .ok place.1 ∧ device.pixel y = .ok place.2 := by
  obtain ⟨column, columnTold, told⟩ := except_bind_eq_ok told
  obtain ⟨row, rowTold, told⟩ := except_bind_eq_ok told
  cases told
  exact ⟨columnTold, rowTold⟩

section Lines

variable {device : Device} {x0 y0 x1 y1 : Float} {start stop : ℤ × ℤ}
  (starts : device.place x0 y0 = .ok start) (stops : device.place x1 y1 = .ok stop)
  (isWord : IsWord start.1 ∧ IsWord start.2) (isOtherWord : IsWord stop.1 ∧ IsWord stop.2)
  {width : Float} {pixel : ℤ} (told : device.pixel width = .ok pixel) (color : Color)
  (canvas : Canvas)

include starts stops isWord isOtherWord told

/-- The line through two places is a walk between the pixels nearest to them. -/
theorem paintPolyline_eq_draw :
    device.paintPolyline [(x0, y0), (x1, y1)] color width canvas =
      (Mark.walked start stop (max 1 pixel)).draw color canvas := by
  obtain ⟨column0, row0⟩ := place_eq_ok starts
  obtain ⟨column1, row1⟩ := place_eq_ok stops
  have pixels : device.pixels [(x0, y0), (x1, y1)] = [start, stop] := by
    unfold Device.pixels
    rw [List.map_cons, List.map_singleton, wordPixel_eq column0 isWord.1,
      wordPixel_eq row0 isWord.2, wordPixel_eq column1 isOtherWord.1,
      wordPixel_eq row1 isOtherWord.2]
  rw [device.paintPolyline_eq le_rfl color told canvas, pixels]
  refine (drawLineAt_of_words canvas le_rfl color (max 1 pixel) ?_).symm
  exact List.forall_mem_cons.mpr ⟨isWord, List.forall_mem_singleton.mpr isOtherWord⟩

/-- A straight line is painted as a run where it can be, and else as a walk. -/
theorem paintLine_eq_draw :
    device.paintLine x0 y0 x1 y1 color width canvas =
      (Mark.straight start stop (max 1 pixel)).draw color canvas := by
  have brush : device.brush width = .ok (max 1 pixel) := by
    unfold Device.brush
    rw [told]
    rfl
  unfold paintLine Mark.straight
  rw [starts, stops, brush]
  show (if max 1 pixel ≤ 1 ∧ start.2 = stop.2 then _ else _ : Painting) canvas = _
  split
  · rfl
  · split
    · rfl
    · exact paintPolyline_eq_draw starts stops isWord isOtherWord told color canvas

end Lines

end Device

/-- The painting draws the shape in every colour on every picture, and does not give up. -/
structure Mark.IsDrawnBy (mark : Mark) (painting : Color → Painting) : Prop where
  drawn : ∀ color canvas, painting color canvas = mark.draw color canvas
  returns : ∀ color canvas, ∃ after, painting color canvas = .ok () after

/-- A straight line paints the pixels that the walk between the pixels nearest to its ends paints,
whether it is painted as a run or not; on a picture that shows all its colours the two leave the
same bytes. If the width has no number of pixels both ways give up before they paint. -/
theorem paintLine_agrees (device : Device) {x0 y0 x1 y1 : Float} {start stop : ℤ × ℤ}
    (starts : device.place x0 y0 = .ok start) (stops : device.place x1 y1 = .ok stop)
    (small : |start.1| < 2 ^ 31 ∧ |start.2| < 2 ^ 31)
    (otherSmall : |stop.1| < 2 ^ 31 ∧ |stop.2| < 2 ^ 31) (width : Float) :
    (∀ fault, device.pixel width = .error fault → ∀ color canvas,
      device.paintLine x0 y0 x1 y1 color width canvas = .error fault canvas ∧
      device.paintPolyline [(x0, y0), (x1, y1)] color width canvas = .error fault canvas) ∧
    ∀ pixel, device.pixel width = .ok pixel →
      (Mark.straight start stop (max 1 pixel)).IsDrawnBy
        (device.paintLine x0 y0 x1 y1 · width) ∧
      (Mark.walked start stop (max 1 pixel)).IsDrawnBy
        (device.paintPolyline [(x0, y0), (x1, y1)] · width) ∧
      (∀ canvas row column, (Mark.straight start stop (max 1 pixel)).Paints canvas row column ↔
        (Mark.walked start stop (max 1 pixel)).Paints canvas row column) ∧
      ∀ color (canvas : Canvas), (Paint.ofColor color).IsFinite → canvas.ShowsAll →
        device.paintLine x0 y0 x1 y1 color width canvas =
          device.paintPolyline [(x0, y0), (x1, y1)] color width canvas := by
  have isWord : IsWord start.1 ∧ IsWord start.2 := by
    rw [abs_lt, abs_lt] at small
    exact ⟨⟨small.1.1.le, small.1.2⟩, small.2.1.le, small.2.2⟩
  have isOtherWord : IsWord stop.1 ∧ IsWord stop.2 := by
    rw [abs_lt, abs_lt] at otherSmall
    exact ⟨⟨otherSmall.1.1.le, otherSmall.1.2⟩, otherSmall.2.1.le, otherSmall.2.2⟩
  refine ⟨fun fault refused color canvas => ?_, fun pixel told => ?_⟩
  · have noBrush : device.brush width = .error fault := by
      unfold Device.brush
      rw [refused]
      rfl
    unfold Device.paintLine Device.paintPolyline
    rw [starts, stops, noBrush]
    exact ⟨rfl, rfl⟩
  · have positive : 1 ≤ max 1 pixel := le_max_left _ _
    have straight (color : Color) (canvas : Canvas) :=
      Device.paintLine_eq_draw starts stops isWord isOtherWord told color canvas
    have walked (color : Color) (canvas : Canvas) :=
      Device.paintPolyline_eq_draw starts stops isWord isOtherWord told color canvas
    have same (canvas : Canvas) (row column : ℕ) :=
      Mark.paints_straight_iff isWord isOtherWord canvas positive row column
    refine ⟨⟨straight, fun color canvas => ?_⟩, ⟨walked, fun color canvas => ?_⟩, same,
      fun color canvas finite showsAll => ?_⟩
    · obtain ⟨patch, -, patches⟩ := Mark.exists_patch_straight isWord isOtherWord canvas _
      exact ⟨_, (straight color canvas).trans (Mark.draw_of_patches patches color)⟩
    · obtain ⟨patch, -, patches⟩ := Mark.exists_patch_walked isWord isOtherWord canvas _
      exact ⟨_, (walked color canvas).trans (Mark.draw_of_patches patches color)⟩
    · obtain ⟨patch, stencil, patches⟩ := Mark.exists_patch_straight isWord isOtherWord canvas _
      obtain ⟨other, otherStencil, otherPatches⟩ :=
        Mark.exists_patch_walked isWord isOtherWord canvas _
      rw [straight, walked, Mark.draw_of_patches patches, Mark.draw_of_patches otherPatches]
      refine congrArg _ (Canvas.lay_eq_lay showsAll finite stencil otherStencil
        fun row column => ?_)
      rw [← Mark.paints_of_patches patches, ← Mark.paints_of_patches otherPatches]
      exact same canvas row column

-- A level line that goes to the left and leaves the picture is the run of a row, cut off.
theorem paintLine_agrees_leftwards :
    let device : Device := ⟨8.0, 4.0, 1.5, ⟨255, 255, 255, 255⟩, "sans", .builtIn⟩
    device.place 4.0 1.2 = .ok (6, 2) ∧ device.place (-3.0) 1.2 = .ok (-4, 2) ∧
      device.pixel 0.5 = .ok 1 ∧
      (Mark.straight (6, 2) (-4, 2) 1).IsDrawnBy (device.paintLine 4.0 1.2 (-3.0) 1.2 · 0.5) ∧
      ∀ canvas row column, (Mark.horizontal 6 (-4) 2).Paints canvas row column ↔
        (Mark.walked (6, 2) (-4, 2) 1).Paints canvas row column := by
  intro device
  have starts : device.place 4.0 1.2 = .ok (6, 2) := by decide +kernel
  have stops : device.place (-3.0) 1.2 = .ok (-4, 2) := by decide +kernel
  have told : device.pixel 0.5 = .ok 1 := by decide +kernel
  obtain ⟨drawn, -, same, -⟩ :=
    (paintLine_agrees device starts stops (by decide) (by decide) 0.5).2 1 told
  exact ⟨starts, stops, told, drawn, same⟩

end SeriesChart
