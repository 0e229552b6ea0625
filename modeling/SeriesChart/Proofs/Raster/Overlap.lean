/-
This file tells when filling a polygon whose corners are floats gives a pixel more than one coat.
A chord holds the centres at both of its ends, so two chords of a row that meet at the centre of a
pixel both hold it, and a translucent colour is laid over it twice. Chords that do not meet at a
centre have no pixel in common, however their ends were rounded, and as they are drawn from left to
right it is enough that no chord meets the next one.
-/

import SeriesChart.Proofs.Number.HalfBelow
import SeriesChart.Proofs.Number.Order
import SeriesChart.Proofs.Raster.Chords

namespace SeriesChart

/-! ### The order of crossings -/

/-- Where a float lies in the order of crossings: what is no number lies beyond all others. -/
def sortLevel (number : Float) : WithTop (WithBot (WithTop ℚ)) :=
  if number.isNaN = true then ⊤ else level number

theorem comesBefore_iff_sortLevel (first second : Float) :
    comesBefore first second = true ↔ sortLevel first ≤ sortLevel second := by
  unfold comesBefore sortLevel
  rw [Bool.or_eq_true, decide_eq_true_eq]
  by_cases otherUndefined : second.isNaN = true
  · rw [if_pos otherUndefined]
    exact iff_of_true (Or.inr otherUndefined) le_top
  · rw [if_neg otherUndefined]
    by_cases undefined : first.isNaN = true
    · rw [if_pos undefined]
      refine iff_of_false ?_ (not_le.mpr (WithTop.coe_lt_top _))
      rintro (atMost | isNaN)
      · exact absurd undefined (Bool.eq_false_iff.mp (isNaN_of_le atMost).1)
      · exact otherUndefined isNaN
    · rw [if_neg undefined, WithTop.coe_le_coe]
      exact (or_iff_left otherUndefined).trans
        (le_iff_level (Bool.eq_false_iff.mpr undefined) (Bool.eq_false_iff.mpr otherUndefined))

/-- Finite crossings are ordered as what they are worth. -/
theorem sortLevel_le_iff {first second : Float} (finite : first.isFinite = true)
    (otherFinite : second.isFinite = true) :
    sortLevel first ≤ sortLevel second ↔ worth first ≤ worth second := by
  unfold sortLevel
  rw [isNaN_of_isFinite finite, isNaN_of_isFinite otherFinite, if_neg Bool.false_ne_true,
    if_neg Bool.false_ne_true, level_of_isFinite finite, level_of_isFinite otherFinite,
    WithTop.coe_le_coe, WithBot.coe_le_coe, WithTop.coe_le_coe]

/-! ### The order of chords -/

section Pairs

variable {Number : Type} {before : Number → Number → Prop} {numbers : List Number}
  (sorted : numbers.Pairwise before)

include sorted

theorem before_of_mem_pairUp {pair : Number × Number} (paired : pair ∈ pairUp numbers) :
    before pair.1 pair.2 := by
  fun_induction pairUp numbers with
  | case1 first second rest inductionHypothesis =>
    obtain ⟨fromFirst, sorted⟩ := List.pairwise_cons.mp sorted
    obtain rfl | further := List.mem_cons.mp paired
    · exact fromFirst _ List.mem_cons_self
    · exact inductionHypothesis (List.pairwise_cons.mp sorted).2 further
  | case2 => cases paired

/-- Each pair ends before the next one begins. -/
theorem pairwise_pairUp :
    (pairUp numbers).Pairwise fun first second => before first.2 second.1 := by
  fun_induction pairUp numbers with
  | case1 first second rest inductionHypothesis =>
    obtain ⟨fromSecond, sorted⟩ := List.pairwise_cons.mp (List.pairwise_cons.mp sorted).2
    exact List.pairwise_cons.mpr ⟨fun pair paired => fromSecond _ (mem_of_mem_pairUp paired).1,
      inductionHypothesis sorted⟩
  | case2 => exact .nil

end Pairs

theorem pairwise_chordsFrom (edges : List (Edge Float)) (count : ℕ) (row : ℤ) :
    (chordsFrom edges count row).Pairwise fun first second => first.row ≤ second.row ∧
      (first.row = second.row → sortLevel first.right ≤ sortLevel second.left) := by
  unfold chordsFrom
  rw [List.pairwise_flatMap]
  refine ⟨fun offset _ => ?_,
    List.pairwise_lt_range.imp fun below first inFirst second inSecond => ?_⟩
  · unfold chordsOfRow
    rw [List.pairwise_map]
    have sorted := pairwise_crossings comesBefore_iff_sortLevel edges (centerLine (row + offset))
    exact (pairwise_pairUp sorted).imp fun ordered => ⟨le_refl _, fun _ => ordered⟩
  · have firstRow := (mem_chordsOfRow_iff.mp inFirst).1
    have secondRow := (mem_chordsOfRow_iff.mp inSecond).1
    exact ⟨by omega, fun same => by omega⟩

/-- A chord that is drawn lies in a row of the picture, and one half below its ends is finite. -/
structure Chord.IsDrawn (height : ℕ) (chord : Chord Float) : Prop where
  inside : 0 ≤ chord.row ∧ chord.row < height
  left : (chord.left - Scalar.half).isFinite = true
  right : (chord.right - Scalar.half).isFinite = true
  ordered : worth chord.left ≤ worth chord.right

/-- A chord comes before another one in a later row or farther right in the same row. -/
def Chord.IsBefore (first second : Chord Float) : Prop :=
  first.row ≤ second.row ∧ (first.row = second.row → worth first.right ≤ worth second.left)

theorem Chord.isFinite_of_isTold {chord : Chord Float} (told : chord.isTold = true) :
    (chord.left - Scalar.half).isFinite = true ∧ (chord.right - Scalar.half).isFinite = true := by
  unfold isTold at told
  cases equal : chord.columns with
  | error fault =>
    rw [equal] at told
    cases told
  | ok columns =>
    obtain ⟨first, leftRead, equal⟩ := except_bind_eq_ok equal
    obtain ⟨last, rightRead, -⟩ := except_bind_eq_ok equal
    exact ⟨isFinite_of_toWhole leftRead, isFinite_of_toWhole rightRead⟩

section Drawn

variable {height : ℕ} {corners : List (Float × Float)}

theorem isDrawn_of_mem {chord : Chord Float} (known : chord ∈ drawnChords height corners) :
    chord.IsDrawn height := by
  obtain ⟨count, row, top, bottom, equal⟩ := exists_chordsFrom height corners
  rw [equal] at known
  obtain ⟨left, right⟩ := Chord.isFinite_of_isTold (List.mem_takeWhile_imp known)
  obtain ⟨⟨above, below⟩, inRow⟩ :=
    mem_chordsFrom_iff.mp ((List.takeWhile_sublist _).subset known)
  have ordered := before_of_mem_pairUp (pairwise_crossings comesBefore_iff_sortLevel _ _)
    (mem_chordsOfRow_iff.mp inRow).2
  exact ⟨by omega, left, right,
    (sortLevel_le_iff (isFinite_of_sub left) (isFinite_of_sub right)).mp ordered⟩

theorem pairwise_drawnChords : (drawnChords height corners).Pairwise Chord.IsBefore := by
  have drawn (chord : Chord Float) := @isDrawn_of_mem height corners chord
  obtain ⟨count, row, top, bottom, equal⟩ := exists_chordsFrom height corners
  rw [equal] at drawn ⊢
  refine ((pairwise_chordsFrom _ count row).sublist (List.takeWhile_sublist _)).imp_of_mem ?_
  intro first second firstMem secondMem ⟨rows, ordered⟩
  refine ⟨rows, fun same => ?_⟩
  exact (sortLevel_le_iff (isFinite_of_sub (drawn _ firstMem).right)
    (isFinite_of_sub (drawn _ secondMem).left)).mp (ordered same)

end Drawn

/-! ### Chords that meet -/

/-- The place is the centre of a column of pixels, as far as floats can tell. -/
def IsAtCenter (place : Float) (column : ℕ) : Prop :=
  (place - Scalar.half).isFinite = true ∧ worth (place - Scalar.half) = column

/-- In a column that leaves room for a half, only its very centre counts. -/
theorem isAtCenter_iff (place : Float) {column : ℕ} (small : column < 2 ^ 52) :
    IsAtCenter place column ↔ place.isFinite = true ∧ worth place = column + 1 / 2 := by
  constructor
  · rintro ⟨finite, met⟩
    exact ⟨isFinite_of_sub finite, (worth_sub_half_eq_iff finite small).mp met⟩
  · rintro ⟨finite, above⟩
    have near := isNear_sub finite worth_half.1
    rw [worth_half.2, above, add_sub_cancel_right] at near
    have close := near.isClose (abs_natCast_le (small.trans (by decide)))
    exact ⟨close.finite, (worth_sub_half_eq_iff close.finite small).mpr above⟩

/-- The first chord ends where the second one begins, at the centre of a pixel. -/
def Chord.Meets (width : ℕ) (first second : Chord Float) : Prop :=
  first.row = second.row ∧
    ∃ column < width, IsAtCenter first.right column ∧ IsAtCenter second.left column

/-- The boxes have no pixel in common. -/
def Canvas.Box.Disjoint (first second : Canvas.Box) : Prop :=
  ∀ row column, ¬(first.holds row column = true ∧ second.holds row column = true)

namespace Chord.IsDrawn

variable {canvas : Canvas} {first second third : Chord Float}

/-- The box of a chord holds the columns from the left end to the right one. -/
theorem holds_chordBox_iff (drawn : first.IsDrawn canvas.height) (row column : ℕ) :
    (canvas.chordBox first).holds row column = true ↔
      (row < canvas.height ∧ column < canvas.width) ∧ first.row = row ∧
        worth (first.left - Scalar.half) ≤ column ∧
        column ≤ worth (first.right - Scalar.half) := by
  have told : first.columns = .ok
      (⌈worth (first.left - Scalar.half)⌉, ⌊worth (first.right - Scalar.half)⌋) := by
    unfold Chord.columns spanBetween
    show (Binary.toWhole .up (first.left - Scalar.half) >>= _) = _
    rw [toWhole_up drawn.left]
    show (Binary.toWhole .down (first.right - Scalar.half) >>= _) = _
    rw [toWhole_down drawn.right]
    rfl
  rw [Canvas.holds_chordBox told, Int.ceil_le, Int.le_floor, Int.cast_natCast]

variable (drawn : first.IsDrawn canvas.height) (otherDrawn : second.IsDrawn canvas.height)
  (before : first.IsBefore second)

include drawn otherDrawn before

/-- A chord has a pixel in common with a later one just when they meet at a centre. -/
theorem meets_iff :
    first.Meets canvas.width second ↔
      ¬(canvas.chordBox first).Disjoint (canvas.chordBox second) := by
  unfold Canvas.Box.Disjoint
  simp only [not_forall, not_not]
  constructor
  · rintro ⟨same, column, below, ends, begins⟩
    have row : (first.row.toNat : ℤ) = first.row := Int.toNat_of_nonneg drawn.inside.1
    have inRow : first.row.toNat < canvas.height := by
      have := drawn.inside.2
      omega
    refine ⟨first.row.toNat, column, (drawn.holds_chordBox_iff _ _).mpr ?_,
      (otherDrawn.holds_chordBox_iff _ _).mpr ?_⟩
    · exact ⟨⟨inRow, below⟩, row.symm,
        worth_sub_half_le drawn.left drawn.right drawn.ordered ends.2.le, ends.2.ge⟩
    · exact ⟨⟨inRow, below⟩, same.symm.trans row.symm, begins.2.le,
        le_worth_sub_half otherDrawn.left otherDrawn.right otherDrawn.ordered begins.2.ge⟩
  · rintro ⟨row, column, held, otherHeld⟩
    obtain ⟨⟨-, below⟩, inRow, -, stop⟩ := (drawn.holds_chordBox_iff row column).mp held
    obtain ⟨-, otherInRow, start, -⟩ := (otherDrawn.holds_chordBox_iff row column).mp otherHeld
    have same := inRow.trans otherInRow.symm
    -- The column lies between one half below both ends, which come in this order.
    have ends := worth_sub_half_le drawn.right otherDrawn.left (before.2 same) start
    have begins := le_worth_sub_half drawn.right otherDrawn.left (before.2 same) stop
    exact ⟨same, column, below, ⟨drawn.right, le_antisymm ends stop⟩, otherDrawn.left,
      le_antisymm start begins⟩

/-- A chord that meets a later one also meets those in between. -/
theorem meets_of_meets (thirdDrawn : third.IsDrawn canvas.height) (next : second.IsBefore third)
    (meets : first.Meets canvas.width third) : first.Meets canvas.width second := by
  obtain ⟨same, column, below, ends, begins⟩ := meets
  have firstRow : first.row = second.row := le_antisymm before.1 (next.1.trans same.ge)
  have ordered := otherDrawn.ordered.trans (next.2 (firstRow.symm.trans same))
  refine ⟨firstRow, column, below, ends, otherDrawn.left, le_antisymm ?_ ?_⟩
  · exact worth_sub_half_le otherDrawn.left thirdDrawn.left ordered begins.2.le
  · exact le_worth_sub_half drawn.right otherDrawn.left (before.2 firstRow) ends.2.ge

end Chord.IsDrawn

/-- Chords of which none meets the next one do not meet at all. -/
theorem pairwise_of_isChain {canvas : Canvas} {chords : List (Chord Float)}
    (drawn : ∀ chord ∈ chords, chord.IsDrawn canvas.height)
    (ordered : chords.Pairwise Chord.IsBefore)
    (chain : chords.IsChain fun first second => ¬first.Meets canvas.width second) :
    chords.Pairwise fun first second => ¬first.Meets canvas.width second := by
  induction chords with
  | nil => exact .nil
  | cons first rest inductionHypothesis =>
    obtain ⟨before, orderedRest⟩ := List.pairwise_cons.mp ordered
    have drawnRest (chord : Chord Float) (known : chord ∈ rest) : chord.IsDrawn canvas.height :=
      drawn chord (List.mem_cons_of_mem _ known)
    refine List.pairwise_cons.mpr
      ⟨fun third known meets => ?_, inductionHypothesis drawnRest orderedRest chain.tail⟩
    cases rest with
    | nil => cases known
    | cons second more =>
      have notNext : ¬first.Meets canvas.width second := chain.rel
      obtain rfl | further := List.mem_cons.mp known
      · exact notNext meets
      · have next := (List.pairwise_cons.mp orderedRest).1 third further
        exact notNext ((drawn first List.mem_cons_self).meets_of_meets
          (drawnRest second List.mem_cons_self) (before second List.mem_cons_self)
          (drawnRest third known) next meets)

/-! ### Coats -/

/-- No place is held twice just when the items have none in common. -/
theorem countP_le_one_iff {Item : Type} (holds : Item → ℕ → ℕ → Bool) (items : List Item) :
    (∀ row column, items.countP (holds · row column) ≤ 1) ↔ items.Pairwise fun first second =>
      ∀ row column, ¬(holds first row column = true ∧ holds second row column = true) := by
  induction items with
  | nil => exact iff_of_true (fun _ _ => Nat.zero_le 1) .nil
  | cons item rest inductionHypothesis =>
    rw [List.pairwise_cons, ← inductionHypothesis]
    simp only [List.countP_cons]
    constructor
    · intro atMost
      refine ⟨fun other known row column ⟨held, otherHeld⟩ => ?_, fun row column =>
        (Nat.le_add_right _ _).trans (atMost row column)⟩
      have counted : 0 < rest.countP (holds · row column) :=
        List.countP_pos_iff.mpr ⟨other, known, otherHeld⟩
      have most := atMost row column
      rw [if_pos held] at most
      omega
    · rintro ⟨apart, atMost⟩ row column
      by_cases held : holds item row column = true
      · have none : rest.countP (holds · row column) = 0 := List.countP_eq_zero.mpr
          fun other known otherHeld => apart other known row column ⟨held, otherHeld⟩
        rw [none, if_pos held]
      · rw [if_neg held]
        exact atMost row column

namespace Canvas

/-- Filling a polygon gives no pixel more than one coat just when the boxes of its chords have no
pixel in common, and that is so just when no chord meets the next one at the centre of a pixel. -/
theorem coats_le_one_iff (canvas : Canvas) (corners : List (Float × Float)) :
    (∀ color row column,
      (fillPolygonAt (corners.map Prod.fst) (corners.map Prod.snd) color canvas).state.pixelAt?
          row column =
        (canvas.pixelAt? row column).map ((Pixel.coat color)^[canvas.coats corners row column])) ∧
    ((∀ row column, canvas.coats corners row column ≤ 1) ↔
      ((drawnChords canvas.height corners).map canvas.chordBox).Pairwise Box.Disjoint) ∧
    (((drawnChords canvas.height corners).map canvas.chordBox).Pairwise Box.Disjoint ↔
      (drawnChords canvas.height corners).IsChain fun first second =>
        ¬first.Meets canvas.width second) ∧
    ∀ place, ∀ column < 2 ^ 52,
      IsAtCenter place column ↔ place.isFinite = true ∧ worth place = column + 1 / 2 := by
  have drawn (chord : Chord Float) := @isDrawn_of_mem canvas.height corners chord
  have ordered := @pairwise_drawnChords canvas.height corners
  refine ⟨pixelAt?_fillPolygonAt corners, ?_, ?_, fun place _ => isAtCenter_iff place⟩
  · rw [List.pairwise_map]
    exact countP_le_one_iff (fun chord row column => (canvas.chordBox chord).holds row column) _
  · rw [List.pairwise_map]
    constructor
    · intro disjoint
      refine List.Pairwise.isChain ((ordered.and disjoint).imp_of_mem ?_)
      intro first second known otherKnown ⟨before, apart⟩ meets
      exact ((drawn _ known).meets_iff (drawn _ otherKnown) before).mp meets apart
    · intro chain
      refine (ordered.and (pairwise_of_isChain drawn ordered chain)).imp_of_mem ?_
      intro first second known otherKnown ⟨before, notMeet⟩
      exact not_not.mp (mt ((drawn _ known).meets_iff (drawn _ otherKnown) before).mpr notMeet)

/-- A box with a wall in the middle, which comes from above and goes back up. -/
def walledBox : List (Float × Float) :=
  [(0.0, 1.0), (0.0, 0.0), (1.5, 0.0), (1.5, 1.0), (1.5, 0.0), (3.0, 0.0), (3.0, 1.0)]

theorem drawnChords_walledBox : drawnChords 1 walledBox = [⟨0, 0.0, 1.5⟩, ⟨0, 1.5, 3.0⟩] := by
  have range : rowRange 1 (walledBox.map Prod.snd) = .ok (0, 0) := by decide +kernel
  have places : ((edgesOf walledBox).filter (·.crosses (centerLine 0))).map
      (·.crossingAt (centerLine 0)) = [0.0, 1.5, 1.5, 3.0] := by decide +kernel
  have sorted : crossings (edgesOf walledBox) (centerLine 0) = [0.0, 1.5, 1.5, 3.0] := by
    unfold crossings
    rw [places]
    exact List.mergeSort_of_pairwise (by decide +kernel)
  unfold drawnChords chordsOf
  rw [if_pos (by decide), range]
  show (chordsOfRow (edgesOf walledBox) 0 ++ []).takeWhile Chord.isTold = _
  unfold chordsOfRow
  rw [sorted]
  exact List.takeWhile_eq_self_iff.mpr (by decide +kernel)

/-- Both chords hold the pixel in the middle, which a translucent colour darkens twice. -/
theorem darkened_by_wall :
    (Canvas.filled 3 1 .clear).coats walledBox 0 1 = 2 ∧
    ¬((drawnChords 1 walledBox).map (Canvas.filled 3 1 .clear).chordBox).Pairwise Box.Disjoint ∧
    Pixel.coat ⟨255, 0, 0, 128⟩ .clear = ⟨255, 0, 0, 128⟩ ∧
    (fillPolygonAt (walledBox.map Prod.fst) (walledBox.map Prod.snd) ⟨255, 0, 0, 128⟩
      (.filled 3 1 .clear)).state.pixelAt? 0 1 = some ⟨255, 0, 0, 192⟩ := by
  have twice : (Canvas.filled 3 1 .clear).coats walledBox 0 1 = 2 := by
    unfold coats
    rw [show (Canvas.filled 3 1 .clear).height = 1 from rfl, drawnChords_walledBox]
    decide +kernel
  refine ⟨twice, ?_, by decide +kernel, ?_⟩
  · rw [drawnChords_walledBox]
    intro disjoint
    have apart := (List.pairwise_cons.mp disjoint).1 _ List.mem_cons_self
    exact apart 0 1 (by decide +kernel)
  · rw [pixelAt?_fillPolygonAt, twice]
    decide +kernel

end Canvas

end SeriesChart
