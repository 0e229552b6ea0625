/-
This file tells how boxes, masks and discs are cut off at the edges of a picture. A shape is told
without a picture, by how much of every pixel it covers, wherever that pixel is; drawing it on a
picture of any size gives the pixels that the picture has their parts of the colour and touches
nothing else. So no place is too far out for a shape, and nothing of it comes out at another edge.
-/

import SeriesChart.Proofs.Raster.EvenOdd

namespace SeriesChart

/-! ### A colour laid over a picture -/

/-- How much a shape covers of the pixel of a row and a column; none for the pixels that it does not
touch. -/
abbrev Footprint := ℕ → ℕ → Option Float32

namespace Canvas

/-- Some pixel of the picture takes a part of the colour that can be seen. -/
def Sees (canvas : Canvas) (color : Color) (footprint : Footprint) : Prop :=
  ∃ row column part, (row < canvas.height ∧ column < canvas.width) ∧
    footprint row column = some part ∧ part * (Paint.ofColor color).opacity > 0.0

/-- The second picture is the first with a colour laid over the footprint of a shape. -/
structure LaysOver (canvas drawn : Canvas) (color : Color) (footprint : Footprint) : Prop where
  sized : drawn.HasSize canvas.width canvas.height
  /-- A pixel that the shape does not touch stays. -/
  untouched : ∀ row column, footprint row column = none →
    drawn.pixelAt? row column = canvas.pixelAt? row column
  /-- A pixel that it touches takes its part of the colour. -/
  touched : canvas.Sees color footprint → ∀ row column part, footprint row column = some part →
    drawn.pixelAt? row column = (canvas.pixelAt? row column).map fun pixel =>
      pixel.blend (Paint.ofColor color) (part * (Paint.ofColor color).opacity)
  /-- A colour that is seen nowhere changes nothing. -/
  unseen : ¬canvas.Sees color footprint → drawn = canvas

variable {canvas : Canvas} {color : Color} {footprint : Footprint}

/-- There is only one picture with a colour laid over a footprint. -/
theorem LaysOver.unique {first second : Canvas} (laysFirst : canvas.LaysOver first color footprint)
    (laysSecond : canvas.LaysOver second color footprint) : first = second := by
  by_cases seen : canvas.Sees color footprint
  · refine eq_of_pixelAt (laysFirst.sized.1.trans laysSecond.sized.1.symm)
      (laysFirst.sized.2.trans laysSecond.sized.2.symm) fun row column _ _ => ?_
    cases touch : footprint row column with
    | none => rw [laysFirst.untouched row column touch, laysSecond.untouched row column touch]
    | some part =>
      rw [laysFirst.touched seen row column part touch,
        laysSecond.touched seen row column part touch]
  · rw [laysFirst.unseen seen, laysSecond.unseen seen]

end Canvas

namespace Patch

/-- The patch is what the picture has of a footprint: its box holds the pixels of the picture that
the shape touches, and tells how much of them it covers. -/
def Traces (patch : Patch) (canvas : Canvas) (footprint : Footprint) : Prop :=
  ∀ row column part, patch.box.holds row column = true ∧ patch.coverage row column = part ↔
    (row < canvas.height ∧ column < canvas.width) ∧ footprint row column = some part

/-- A patch that is cut off at the edges traces a footprint if the two agree inside the picture. -/
theorem traces_clip {canvas : Canvas} {footprint : Footprint} {left top right bottom : ℤ}
    {coverage : ℕ → ℕ → Float32}
    (agree : ∀ row column, row < canvas.height → column < canvas.width →
      footprint row column =
        if (top ≤ row ∧ (row : ℤ) < bottom) ∧ left ≤ column ∧ (column : ℤ) < right then
          some (coverage row column)
        else none) :
    Traces ⟨canvas.clip left top right bottom, coverage⟩ canvas footprint := by
  intro row column part
  rw [Canvas.holds_clip, and_assoc]
  refine and_congr_right fun inside => ?_
  rw [agree row column inside.1 inside.2]
  split
  · rename_i within
    rw [and_iff_right within, Option.some.injEq]
  · rename_i beyond
    exact iff_of_false (fun both => beyond both.1) nofun

variable {patch : Patch} {canvas : Canvas} {footprint : Footprint}

theorem Traces.shows_iff (traces : patch.Traces canvas footprint) (color : Color) :
    patch.shows color = true ↔ canvas.Sees color footprint := by
  unfold shows Canvas.Sees
  rw [Canvas.Box.any_iff]
  refine exists_congr fun row => exists_congr fun column => ?_
  rw [decide_eq_true_eq]
  constructor
  · rintro ⟨inside, taken⟩
    obtain ⟨placed, touch⟩ := (traces row column _).mp ⟨inside, rfl⟩
    exact ⟨_, placed, touch, taken⟩
  · rintro ⟨part, placed, touch, taken⟩
    obtain ⟨inside, rfl⟩ := (traces row column part).mpr ⟨placed, touch⟩
    exact ⟨inside, taken⟩

/-- Laying a colour over what a picture has of a footprint is laying it over the footprint. -/
theorem Traces.laysOver (traces : patch.Traces canvas footprint) (color : Color) :
    canvas.LaysOver (patch.lay color canvas) color footprint where
  sized := canvas.hasSize_self.composite _ _ _
  untouched row column untouched := by
    refine Canvas.pixelAt?_composite_outside _ _ _ _ (Bool.eq_false_iff.mpr fun inside => ?_)
    obtain ⟨-, touch⟩ := (traces row column _).mp ⟨inside, rfl⟩
    rw [untouched] at touch
    cases touch
  touched seen row column part touch := by
    have painted : patch.lay color canvas = canvas.modifyBox patch.box fun row column pixel =>
        pixel.blend (Paint.ofColor color)
          (patch.coverage row column * (Paint.ofColor color).opacity) :=
      if_pos ((traces.shows_iff color).mpr seen)
    rw [painted, Canvas.pixelAt?_modifyBox]
    by_cases placed : row < canvas.height ∧ column < canvas.width
    · obtain ⟨inside, rfl⟩ := (traces row column part).mpr ⟨placed, touch⟩
      rw [if_pos inside]
    · have missing : canvas.pixelAt? row column = none := if_neg placed
      rw [missing, Option.map_none, Option.map_none, ite_self]
  unseen hidden := if_neg fun shown => hidden ((traces.shows_iff color).mp shown)

end Patch

/-! ### Footprints -/

/-- The box between two corners covers the pixels from the one up to the other, both included. -/
def boxFootprint (x0 y0 x1 y1 : ℤ) : Footprint := fun row column =>
  if (min y0 y1 ≤ row ∧ row ≤ max y0 y1) ∧ min x0 x1 ≤ column ∧ column ≤ max x0 x1 then some 1.0
  else none

/-- A mask at a place covers, for each of its cells, the part of a pixel that the cell tells. -/
def Mask.footprint (mask : Mask) (x y : ℤ) : Footprint := fun row column =>
  if (0 ≤ row - y ∧ row - y < mask.height) ∧ 0 ≤ column - x ∧ column - x < mask.width then
    some ((mask.cellAt (row - y).toNat (column - x).toNat).toFloat32 / 255.0)
  else none

/-- The centre of the pixel of a row and a column is no further from a place than the radius. -/
def IsWithin (x y radius : ℚ) (row column : ℕ) : Prop :=
  (column + 1 / 2 - x) ^ 2 + (row + 1 / 2 - y) ^ 2 ≤ radius ^ 2

instance (x y radius : ℚ) (row column : ℕ) : Decidable (IsWithin x y radius row column) :=
  inferInstanceAs (Decidable (_ ≤ _))

/-- A disc covers the pixels whose centres are within its radius, and nothing of the others around
it. -/
def discFootprint (x y radius : ℚ) : Footprint := fun row column =>
  if IsWithin x y radius row column then some 1.0
  else if (⌊y - radius⌋ ≤ row ∧ row ≤ ⌈y + radius⌉) ∧
      ⌊x - radius⌋ ≤ column ∧ column ≤ ⌈x + radius⌉ then some 0.0
  else none

/-! ### Discs of fractions -/

theorem isInDisc_exact (x y radius : ℚ) (row column : ℕ) :
    isInDisc x y (radius * radius) row column = true ↔ IsWithin x y radius row column := by
  unfold isInDisc IsWithin
  rw [half_exact, decide_eq_true_eq, sq, sq, sq]
  rfl

theorem discExtent_exact (center radius : ℚ) :
    discExtent center radius = .ok (⌊center - radius⌋, ⌈center + radius⌉ + 1) := by
  unfold discExtent
  rw [toInt_down_exact, toInt_up_exact]
  rfl

/-- A centre that is no further from the middle along an axis than the radius lies in the extent. -/
theorem within_extent {center radius : ℚ} (positive : 0 < radius) {place : ℕ}
    (near : (place + 1 / 2 - center) ^ 2 ≤ radius ^ 2) :
    ⌊center - radius⌋ ≤ place ∧ (place : ℤ) ≤ ⌈center + radius⌉ := by
  obtain ⟨low, high⟩ := abs_le.mp (abs_le_of_sq_le_sq near positive.le)
  constructor
  · have first : (⌊center - radius⌋ : ℚ) < place + 1 := by
      linarith [Int.floor_le (center - radius)]
    exact Int.lt_add_one_iff.mp (by exact_mod_cast first)
  · have last : (place : ℚ) < ⌈center + radius⌉ := by linarith [Int.le_ceil (center + radius)]
    exact_mod_cast last.le

/-- No pixel of a disc lies outside its extents. -/
theorem IsWithin.extents {x y radius : ℚ} (positive : 0 < radius) {row column : ℕ}
    (within : IsWithin x y radius row column) :
    (⌊y - radius⌋ ≤ row ∧ (row : ℤ) ≤ ⌈y + radius⌉) ∧
      ⌊x - radius⌋ ≤ column ∧ (column : ℤ) ≤ ⌈x + radius⌉ := by
  unfold IsWithin at within
  have across := sq_nonneg ((column : ℚ) + 1 / 2 - x)
  have down := sq_nonneg ((row : ℚ) + 1 / 2 - y)
  exact ⟨within_extent positive (by linarith), within_extent positive (by linarith)⟩

namespace Canvas

/-- Filling a disc does not give up. -/
theorem fillDisc_exact (canvas : Canvas) (x y : ℚ) {radius : ℚ} (positive : 0 < radius)
    (color : Color) :
    fillDisc x y radius color canvas = .ok () (canvas.fillInside
      (⌊x - radius⌋, ⌈x + radius⌉ + 1) (⌊y - radius⌋, ⌈y + radius⌉ + 1) color
      (isInDisc x y (radius * radius))) := by
  have some : ¬radius ≤ Scalar.zero := not_le.mpr positive
  unfold fillDisc
  rw [if_neg some, discExtent_exact, discExtent_exact]
  rfl

/-! ### Clipping -/

variable (canvas : Canvas) (color : Color)

/-- Boxes, masks and discs are laid over a picture by their footprints, wherever they are. -/
structure ClipsShapes : Prop where
  horizontal : ∀ x0 x1 y : ℤ,
    canvas.LaysOver (canvas.drawHorizontal x0 x1 y color) color (boxFootprint x0 y x1 y)
  vertical : ∀ x y0 y1 : ℤ,
    canvas.LaysOver (canvas.drawVertical x y0 y1 color) color (boxFootprint x y0 x y1)
  box : ∀ x0 y0 x1 y1 : ℤ,
    canvas.LaysOver (canvas.drawBox x0 y0 x1 y1 color) color (boxFootprint x0 y0 x1 y1)
  mask : ∀ (x y : ℤ) (mask : Mask),
    canvas.LaysOver (canvas.drawMask x y mask color) color (mask.footprint x y)
  disc : ∀ x y radius : ℚ, 0 < radius → ∃ drawn : Canvas,
    fillDisc x y radius color canvas = .ok () drawn ∧
      canvas.LaysOver drawn color (discFootprint x y radius)

/-- What is cut off at an edge is left out, and nothing else is. -/
theorem clipsShapes : canvas.ClipsShapes color where
  horizontal x0 x1 y := by
    refine (Patch.traces_clip fun row column _ _ => ?_).laysOver color
    exact if_congr (by omega) rfl rfl
  vertical x y0 y1 := by
    refine (Patch.traces_clip fun row column _ _ => ?_).laysOver color
    exact if_congr (by omega) rfl rfl
  box x0 y0 x1 y1 := by
    refine (Patch.traces_clip fun row column _ _ => ?_).laysOver color
    exact if_congr (by omega) rfl rfl
  mask x y mask := by
    refine (Patch.traces_clip fun row column _ _ => ?_).laysOver color
    exact if_congr (by omega) rfl rfl
  disc x y radius positive := by
    refine ⟨_, canvas.fillDisc_exact x y positive color, ?_⟩
    rw [fillInside_eq]
    refine (Patch.traces_clip fun row column _ _ => ?_).laysOver color
    unfold discFootprint
    simp only [isInDisc_exact, Int.lt_add_one_iff]
    -- The box around the disc only matters for the pixels that are too far from the middle.
    by_cases within : IsWithin x y radius row column
    · rw [if_pos within, if_pos (within.extents positive), if_pos within]
    · rw [if_neg within, if_neg within]

/-- A mask that reaches over the top left corner leaves its last cell there. -/
example : ((filled 2 1 .clear).drawMask (-1) (-1) (.ofRows [[7, 8], [9, 255]])
    ⟨10, 20, 30, 255⟩).pixels = #[⟨10, 20, 30, 255⟩, .clear] := by
  decide +kernel

end Canvas

end SeriesChart
