/-
This file tells what a copy of a picture leaves on a canvas. A copy that begins on the canvas is cut
off at the right and the bottom edge and comes out right, so a picture copied over another one of
its size is there afterwards. A copy that begins left of or above the canvas is not cut off there:
its first row or column is counted from the far end of the canvas, and its last one is so too if all
of it lies before the first of the canvas. Then as many are written as the copy has, at the far end,
where none of them belongs. In all other cases fewer are written than the copy has, and only a copy
of a single row or column is let through, which leaves nothing.
-/

import SeriesChart.Proofs.Raster.Painting
import SeriesChart.Raster.Coverage

namespace SeriesChart

namespace Canvas

/-! ### Pictures with a copy in them -/

/-- The pixel of a row and a column lies under a picture whose top left corner is at a place. -/
def Covers (source : Canvas) (x y : Int) (row column : Nat) : Prop :=
  (y ≤ row ∧ (row : Int) < y + source.height) ∧ x ≤ column ∧ (column : Int) < x + source.width

/-- The second picture is the first with a source laid on it, cut off on all four sides. -/
structure TakesCopy (canvas source : Canvas) (x y : Int) (copied : Canvas) : Prop where
  sized : copied.HasSize canvas.width canvas.height
  /-- A pixel under the source becomes that of the source. -/
  covered : ∀ row column, row < canvas.height → column < canvas.width →
    source.Covers x y row column →
      copied.pixelAt? row column = source.pixelAt? (row - y).toNat (column - x).toNat
  /-- All other pixels stay. -/
  kept : ∀ row column, ¬source.Covers x y row column →
    copied.pixelAt? row column = canvas.pixelAt? row column

variable {canvas source : Canvas} {x y : Int}

/-- There is only one picture with a copy in it. -/
theorem TakesCopy.unique {first second : Canvas} (takesFirst : canvas.TakesCopy source x y first)
    (takesSecond : canvas.TakesCopy source x y second) : first = second := by
  refine eq_of_pixelAt (takesFirst.sized.1.trans takesSecond.sized.1.symm)
    (takesFirst.sized.2.trans takesSecond.sized.2.symm) fun row column inRow inColumn => ?_
  rw [takesFirst.sized.2] at inRow
  rw [takesFirst.sized.1] at inColumn
  by_cases under : source.Covers x y row column
  · rw [takesFirst.covered row column inRow inColumn under,
      takesSecond.covered row column inRow inColumn under]
  · rw [takesFirst.kept row column under, takesSecond.kept row column under]

/-- A source that covers no pixel of the canvas leaves it as it is. -/
theorem takesCopy_self
    (missed : ∀ row column, row < canvas.height → column < canvas.width →
      ¬source.Covers x y row column) : canvas.TakesCopy source x y canvas where
  sized := canvas.hasSize_self
  covered row column inRow inColumn under := absurd under (missed row column inRow inColumn)
  kept _ _ _ := rfl

/-- A source of the same size covers the whole canvas. -/
theorem takesCopy_of_hasSize (sized : source.HasSize canvas.width canvas.height) :
    canvas.TakesCopy source 0 0 source where
  sized := sized
  covered row column _ _ _ := by
    rw [Int.sub_zero, Int.sub_zero, Int.toNat_natCast, Int.toNat_natCast]
  kept row column beside := by
    obtain ⟨widths, heights⟩ := sized
    have outside : ¬(row < source.height ∧ column < source.width) := by
      unfold Covers at beside
      omega
    rw [pixelAt?, pixelAt?, ← widths, ← heights, if_neg outside, if_neg outside]

/-! ### Rows and columns -/

/-- How many rows or columns of its source a copy reads: those of `length`, from a place on, that do
not lie behind `size`. The ones before the first place count as well. -/
def reached (size length : Nat) (place : Int) : Nat :=
  (min (size : Int) (place + length) - place).toNat

/-- How many rows or columns of the canvas a copy writes. -/
def written (size length : Nat) (place : Int) : Nat :=
  slicePlace size (min (size : Int) (place + length)) - slicePlace size place

/-- A place, counted from the far end if it lies before the first one. -/
def fromEnd (size : Nat) (place : Int) : Int := if place < 0 then place + size else place

/-- The rows or columns begin before the first one of the canvas, and are not as many when they are
counted from its far end: they begin even before that, or do not all lie before the first one. -/
def Overhangs (size length : Nat) (place : Int) : Prop :=
  place < 0 ∧ (place < -size ∨ 0 ≤ place + length)

/-- The rows or columns that are read are written from `start` on, one after the other. -/
structure LandsAt (size length : Nat) (place : Int) (start : Nat) : Prop where
  inside : start < size
  first : slicePlace size place = start
  last : slicePlace size (min (size : Int) (place + length)) = min size (start + length)
  reached_eq : reached size length place = min size (start + length) - start

section Side

variable {size length : Nat} {place : Int}

/-- What does not overhang lands on the canvas, at its place or counted from the far end. -/
theorem exists_landsAt (begun : place < size ∧ 0 < length) (fits : ¬Overhangs size length place) :
    ∃ start : Nat, (start : Int) = fromEnd size place ∧ LandsAt size length place start := by
  unfold Overhangs at fits
  by_cases before : place < 0
  -- Both ends lie before the first place, so both are counted from the far end.
  · have start : ((place + size).toNat : Int) = fromEnd size place := by
      unfold fromEnd
      rw [if_pos before]
      omega
    refine ⟨_, start, ?_, if_pos before, ?_, ?_⟩
    · omega
    · unfold slicePlace
      rw [if_pos (by omega)]
      omega
    · unfold reached
      omega
  · have start : (place.toNat : Int) = fromEnd size place := by
      unfold fromEnd
      rw [if_neg before]
      omega
    refine ⟨_, start, ?_, ?_, ?_, ?_⟩
    · omega
    · unfold slicePlace
      rw [if_neg before]
      omega
    · unfold slicePlace
      rw [if_neg (by omega)]
      omega
    · unfold reached
      omega

theorem LandsAt.written_eq {start : Nat} (lands : LandsAt size length place start) :
    written size length place = reached size length place := by
  rw [written, lands.last, lands.first, lands.reached_eq]

/-- What overhangs is not written in full. -/
theorem written_lt_reached (begun : place < size ∧ 0 < length)
    (overhangs : Overhangs size length place) :
    written size length place < reached size length place := by
  obtain ⟨before, beyond⟩ := overhangs
  unfold reached written slicePlace
  rw [if_pos before]
  split <;> omega

/-- What is read can be spread over what is written, unless it overhangs with more than one row or
column. -/
theorem spreads_iff (begun : place < size ∧ 0 < length) :
    (reached size length place = written size length place ∨ reached size length place = 1) ↔
      (Overhangs size length place → reached size length place = 1) := by
  by_cases overhangs : Overhangs size length place
  · have fewer := written_lt_reached begun overhangs
    rw [or_iff_right (Nat.ne_of_gt fewer), imp_iff_right overhangs]
  · obtain ⟨start, -, lands⟩ := exists_landsAt begun overhangs
    exact iff_of_true (Or.inl lands.written_eq.symm) fun other => absurd other overhangs

/-- Rows or columns that begin before the first one of the canvas and are let through end before it
too. -/
theorem ends_of_negative (before : place < 0)
    (single : Overhangs size length place → reached size length place = 1) {index : Nat}
    (inside : index < size) : ¬(index : Int) < place + length := by
  by_cases overhangs : Overhangs size length place
  · have one := single overhangs
    unfold reached at one
    omega
  · unfold Overhangs at overhangs
    omega

/-- A single row or column is read in its own place. -/
theorem LandsAt.read_eq {start index : Nat} (lands : LandsAt size length place start)
    (inside : start ≤ index ∧ index < min size (start + length)) :
    (if reached size length place = 1 then 0 else index - start) = index - start := by
  split
  · rename_i single
    rw [lands.reached_eq] at single
    omega
  · rfl

end Side

/-! ### Copying -/

/-- The source has pixels, and begins before the bottom and the right edge of the canvas. -/
def IsBegun (canvas source : Canvas) (x y : Int) : Prop :=
  (y < canvas.height ∧ 0 < source.height) ∧ x < canvas.width ∧ 0 < source.width

/-- Neither the rows nor the columns overhang, unless there is only one of them. -/
structure Admits (canvas source : Canvas) (x y : Int) : Prop where
  rows : Overhangs canvas.height source.height y → reached canvas.height source.height y = 1
  columns : Overhangs canvas.width source.width x → reached canvas.width source.width x = 1

/-- The box that a copy writes. -/
def copyBox (canvas source : Canvas) (x y : Int) : Box :=
  canvas.slice x y (min (canvas.width : Int) (x + source.width))
    (min (canvas.height : Int) (y + source.height))

/-- What a copy leaves if it is not refused. -/
def withCopy (canvas source : Canvas) (x y : Int) : Canvas :=
  canvas.modifyBox (canvas.copyBox source x y) fun row column pixel =>
    (source.pixelAt?
      (if reached canvas.height source.height y = 1 then 0
        else row - (canvas.copyBox source x y).top)
      (if reached canvas.width source.width x = 1 then 0
        else column - (canvas.copyBox source x y).left)).getD pixel

theorem isBegun_iff : canvas.IsBegun source x y ↔
    y < min (canvas.height : Int) (y + source.height) ∧
      x < min (canvas.width : Int) (x + source.width) := by
  unfold IsBegun
  omega

theorem admits_iff (begun : canvas.IsBegun source x y) : canvas.Admits source x y ↔
    (reached canvas.height source.height y = written canvas.height source.height y ∨
        reached canvas.height source.height y = 1) ∧
      (reached canvas.width source.width x = written canvas.width source.width x ∨
        reached canvas.width source.width x = 1) := by
  rw [spreads_iff begun.1, spreads_iff begun.2]
  exact ⟨fun admits => ⟨admits.rows, admits.columns⟩, fun both => ⟨both.1, both.2⟩⟩

theorem blit_of_not_isBegun (beyond : ¬canvas.IsBegun source x y) :
    blit source x y canvas = .ok () canvas := by
  rw [isBegun_iff] at beyond
  unfold blit
  rw [get_bind]
  simp only [if_neg beyond]
  rfl

theorem blit_of_admits (begun : canvas.IsBegun source x y) (admits : canvas.Admits source x y) :
    blit source x y canvas = .ok () (canvas.withCopy source x y) := by
  rw [admits_iff begun] at admits
  rw [isBegun_iff] at begun
  unfold blit
  rw [get_bind]
  simp only [if_pos begun]
  exact congrFun (if_pos admits) canvas

theorem blit_of_not_admits (begun : canvas.IsBegun source x y)
    (refused : ¬canvas.Admits source x y) :
    ∃ fault, blit source x y canvas = .error fault canvas := by
  rw [admits_iff begun] at refused
  rw [isBegun_iff] at begun
  unfold blit
  rw [get_bind]
  simp only [if_pos begun]
  exact ⟨_, congrFun (if_neg refused) canvas⟩

theorem exists_blit_iff : (∃ copied, blit source x y canvas = .ok () copied) ↔
    (canvas.IsBegun source x y → canvas.Admits source x y) := by
  by_cases begun : canvas.IsBegun source x y
  case neg =>
    exact iff_of_true ⟨canvas, blit_of_not_isBegun begun⟩ fun other => absurd other begun
  rw [imp_iff_right begun]
  by_cases admits : canvas.Admits source x y
  · exact iff_of_true ⟨_, blit_of_admits begun admits⟩ admits
  · obtain ⟨fault, refused⟩ := blit_of_not_admits begun admits
    refine iff_of_false ?_ admits
    rintro ⟨copied, copies⟩
    rw [refused] at copies
    cases copies

/-! ### What a copy leaves -/

/-- A copy that is not begun has nothing to change. -/
theorem takesCopy_of_not_isBegun (beyond : ¬canvas.IsBegun source x y) :
    canvas.TakesCopy source x y canvas := by
  refine takesCopy_self fun row column inRow inColumn under => beyond ?_
  unfold Covers at under
  unfold IsBegun
  omega

/-- Nor has one that begins left of or above the canvas and is let through. -/
theorem Admits.takesCopy_self (admits : canvas.Admits source x y) (before : y < 0 ∨ x < 0) :
    canvas.TakesCopy source x y canvas := by
  refine Canvas.takesCopy_self fun row column inRow inColumn under => ?_
  rcases before with above | aside
  · exact ends_of_negative above admits.rows inRow under.1.2
  · exact ends_of_negative aside admits.columns inColumn under.2.2

/-- A copy of a single row or column that overhangs writes nothing. -/
theorem withCopy_of_overhangs (begun : canvas.IsBegun source x y)
    (admits : canvas.Admits source x y)
    (overhangs : Overhangs canvas.height source.height y ∨
      Overhangs canvas.width source.width x) : canvas.withCopy source x y = canvas := by
  have empty : (canvas.copyBox source x y).isEmpty = true := by
    simp only [Box.isEmpty, Bool.or_eq_true, decide_eq_true_eq]
    rcases overhangs with rows | columns
    · have fewer := written_lt_reached begun.1 rows
      rw [admits.rows rows] at fewer
      exact Or.inr (Nat.sub_eq_zero_iff_le.mp (Nat.lt_one_iff.mp fewer))
    · have fewer := written_lt_reached begun.2 columns
      rw [admits.columns columns] at fewer
      exact Or.inl (Nat.sub_eq_zero_iff_le.mp (Nat.lt_one_iff.mp fewer))
  refine eq_of_pixelAt rfl rfl fun row column _ _ => ?_
  rw [withCopy, pixelAt?_modifyBox, Box.holds_of_isEmpty empty, if_neg Bool.false_ne_true]

theorem LandsAt.copyBox_eq {left top : Nat} (rows : LandsAt canvas.height source.height y top)
    (columns : LandsAt canvas.width source.width x left) :
    canvas.copyBox source x y =
      ⟨left, top, min canvas.width (left + source.width),
        min canvas.height (top + source.height)⟩ := by
  unfold copyBox slice
  rw [rows.first, rows.last, columns.first, columns.last]

/-- What lands on the canvas is laid on it there. -/
theorem LandsAt.takesCopy_withCopy {left top : Nat}
    (rows : LandsAt canvas.height source.height y top)
    (columns : LandsAt canvas.width source.width x left) :
    canvas.TakesCopy source left top (canvas.withCopy source x y) where
  sized := canvas.hasSize_self
  covered row column inRow inColumn under := by
    have inRows : top ≤ row ∧ row < min canvas.height (top + source.height) := by
      unfold Covers at under
      omega
    have inColumns : left ≤ column ∧ column < min canvas.width (left + source.width) := by
      unfold Covers at under
      omega
    have held : (canvas.copyBox source x y).holds row column := by
      rw [rows.copyBox_eq columns, Box.holds_iff]
      exact ⟨inRows, inColumns⟩
    have inSource : row - top < source.height ∧ column - left < source.width := by omega
    obtain ⟨old, known⟩ := exists_pixelAt inRow inColumn
    obtain ⟨new, shown⟩ := exists_pixelAt inSource.1 inSource.2
    rw [withCopy, pixelAt?_modifyBox, if_pos held, rows.copyBox_eq columns, rows.read_eq inRows,
      columns.read_eq inColumns, Int.toNat_sub, Int.toNat_sub, known, shown]
    rfl
  kept row column beside := by
    have outside : ¬(canvas.copyBox source x y).holds row column := by
      rw [rows.copyBox_eq columns, Box.holds_iff]
      show ¬((top ≤ row ∧ row < min canvas.height (top + source.height)) ∧
        left ≤ column ∧ column < min canvas.width (left + source.width))
      unfold Covers at beside
      omega
    rw [withCopy, pixelAt?_modifyBox, if_neg outside]

/-- A copy that does not overhang is laid on the canvas at its place, counted from the far end if it
begins before the canvas. -/
theorem exists_blit_fromEnd (begun : canvas.IsBegun source x y)
    (rows : ¬Overhangs canvas.height source.height y)
    (columns : ¬Overhangs canvas.width source.width x) :
    ∃ copied, blit source x y canvas = .ok () copied ∧
      canvas.TakesCopy source (fromEnd canvas.width x) (fromEnd canvas.height y) copied := by
  obtain ⟨top, atTop, rowsLand⟩ := exists_landsAt begun.1 rows
  obtain ⟨left, atLeft, columnsLand⟩ := exists_landsAt begun.2 columns
  have admits : canvas.Admits source x y :=
    ⟨fun overhangs => absurd overhangs rows, fun overhangs => absurd overhangs columns⟩
  refine ⟨_, blit_of_admits begun admits, ?_⟩
  rw [← atTop, ← atLeft]
  exact rowsLand.takesCopy_withCopy columnsLand

/-! ### Copies that come out right -/

/-- Wherever a copy begins on the canvas or behind its far edges, it comes out right. -/
theorem exists_blit_of_nonneg (canvas source : Canvas) {x y : Int} (rightwards : 0 ≤ x)
    (downwards : 0 ≤ y) :
    ∃ copied, blit source x y canvas = .ok () copied ∧ canvas.TakesCopy source x y copied := by
  have inRows := Int.not_lt.mpr downwards
  have inColumns := Int.not_lt.mpr rightwards
  by_cases begun : canvas.IsBegun source x y
  · have copies :=
      exists_blit_fromEnd begun (fun overhangs => inRows overhangs.1) fun overhangs => inColumns overhangs.1
    rwa [fromEnd, fromEnd, if_neg inRows, if_neg inColumns] at copies
  · exact ⟨canvas, blit_of_not_isBegun begun, takesCopy_of_not_isBegun begun⟩

/-- A picture copied over another one of its size is there afterwards. -/
theorem blit_of_hasSize (sized : source.HasSize canvas.width canvas.height) :
    blit source 0 0 canvas = .ok () source := by
  obtain ⟨copied, copies, takes⟩ :=
    exists_blit_of_nonneg canvas source (Int.le_refl 0) (Int.le_refl 0)
  rw [copies, takes.unique (takesCopy_of_hasSize sized)]

/-- A copy that is counted from the far end comes out right only if it changes nothing there. -/
theorem takesCopy_iff_of_fromEnd {copied : Canvas} (admits : canvas.Admits source x y)
    (takes : canvas.TakesCopy source (fromEnd canvas.width x) (fromEnd canvas.height y) copied) :
    canvas.TakesCopy source x y copied ↔ (y < 0 ∨ x < 0 →
      canvas.TakesCopy source (fromEnd canvas.width x) (fromEnd canvas.height y) canvas) := by
  by_cases before : y < 0 ∨ x < 0
  · rw [imp_iff_right before]
    constructor
    · intro right
      rwa [right.unique (admits.takesCopy_self before)] at takes
    · intro there
      rw [takes.unique there]
      exact admits.takesCopy_self before
  · obtain ⟨inRows, inColumns⟩ := not_or.mp before
    rw [fromEnd, fromEnd, if_neg inRows, if_neg inColumns] at takes
    exact iff_of_true takes fun negative => absurd negative before

/-- A copy is let through, and writes no pixel that does not belong there. -/
structure CopiesInPlace (canvas source : Canvas) (x y : Int) : Prop where
  admits : canvas.Admits source x y
  /-- What is written at the far end of the canvas does not belong there, so it is there already. -/
  around : ¬Overhangs canvas.height source.height y → ¬Overhangs canvas.width source.width x →
    (y < 0 ∨ x < 0 →
      canvas.TakesCopy source (fromEnd canvas.width x) (fromEnd canvas.height y) canvas)

/-- A copy is refused exactly when it is begun and overhangs with more than one row or column. It
comes out right, cut off on all four sides, exactly when it is not begun, or it is not refused and
leaves the far end of the canvas as it was in case it is counted from there. -/
theorem blit_copies_iff (canvas source : Canvas) (x y : Int) :
    ((∃ copied, blit source x y canvas = .ok () copied) ↔
      (canvas.IsBegun source x y → canvas.Admits source x y)) ∧
    ((∃ copied, blit source x y canvas = .ok () copied ∧ canvas.TakesCopy source x y copied) ↔
      (canvas.IsBegun source x y → canvas.CopiesInPlace source x y)) := by
  refine ⟨exists_blit_iff, ?_⟩
  by_cases begun : canvas.IsBegun source x y
  case neg =>
    exact iff_of_true ⟨canvas, blit_of_not_isBegun begun, takesCopy_of_not_isBegun begun⟩
      fun other => absurd other begun
  rw [imp_iff_right begun]
  by_cases admits : canvas.Admits source x y
  case neg =>
    refine iff_of_false ?_ fun inPlace => admits inPlace.admits
    rintro ⟨copied, copies, -⟩
    exact admits (exists_blit_iff.mp ⟨copied, copies⟩ begun)
  -- What overhangs is now a single row or column, which is written nowhere; all else lands.
  by_cases overhangs : Overhangs canvas.height source.height y ∨
      Overhangs canvas.width source.width x
  · have unchanged : blit source x y canvas = .ok () canvas := by
      rw [blit_of_admits begun admits, withCopy_of_overhangs begun admits overhangs]
    have before : y < 0 ∨ x < 0 := overhangs.imp And.left And.left
    exact iff_of_true ⟨canvas, unchanged, admits.takesCopy_self before⟩
      ⟨admits, fun rows columns => absurd overhangs (not_or.mpr ⟨rows, columns⟩)⟩
  · obtain ⟨rows, columns⟩ := not_or.mp overhangs
    obtain ⟨copied, copies, takes⟩ := exists_blit_fromEnd begun rows columns
    have right := takesCopy_iff_of_fromEnd admits takes
    rw [copies]
    constructor
    · rintro ⟨_, same, belongs⟩
      cases same
      exact ⟨admits, fun _ _ => right.mp belongs⟩
    · intro inPlace
      exact ⟨copied, rfl, right.mpr (inPlace.around rows columns)⟩

/-- A pixel that is copied to a place wholly left of the canvas comes out near the right edge. -/
example : (blit (filled 1 1 ⟨255, 0, 0, 255⟩) (-2) 0 (filled 3 1 .clear)).state.pixels =
    #[.clear, ⟨255, 0, 0, 255⟩, .clear] := by
  decide +kernel

/-- Two columns that reach over the left edge by one are refused, though one of them belongs on the
canvas. -/
theorem refused_over_left_edge :
    ¬∀ (canvas source : Canvas) (x y : Int),
      ∃ copied, blit source x y canvas = .ok () copied ∧ canvas.TakesCopy source x y copied := by
  intro always
  obtain ⟨copied, copies, -⟩ := always (filled 2 1 .clear) (filled 2 1 ⟨255, 0, 0, 255⟩) (-1) 0
  have refused : blit (filled 2 1 ⟨255, 0, 0, 255⟩) (-1) 0 (filled 2 1 .clear) =
      .error (.invalid (.pastedShape [1, 2, 4] [1, 0, 4])) (filled 2 1 .clear) := rfl
  rw [refused] at copies
  cases copies

end Canvas

/-! ### Pictures put back -/

theorem Sheet.putPicture_of_hasSize {picture canvas : Canvas}
    (sized : picture.HasSize canvas.width canvas.height) :
    Sheet.putPicture picture canvas = .ok () picture := by
  have fits : picture.height = canvas.height ∧ picture.width = canvas.width :=
    ⟨sized.2, sized.1⟩
  show (if picture.height = canvas.height ∧ picture.width = canvas.width then
    Canvas.blit picture 0 0 else throw _ : Painting) canvas = _
  rw [if_pos fits]
  exact Canvas.blit_of_hasSize sized

end SeriesChart
