/-
This file tells what the calls that draw a shape do to the pixels which the shape does not
cover. Every call lays its colour over patches of the picture, one after the other, up to
the first patch that cannot be told. A patch is a box with a coverage for each of its
pixels, and all pixels of the box are computed anew, those without coverage, too. So a
pixel that no patch covers stays if it has some opacity; if it has none it becomes clear
as soon as a patch whose colour is seen somewhere holds it.
-/

import SeriesChart.Font.Basic
import SeriesChart.Proofs.Raster.Blend
import SeriesChart.Proofs.Raster.Painting
import SeriesChart.Raster.Disc
import SeriesChart.Raster.Polygon
import SeriesChart.Raster.Stroke

namespace SeriesChart

/-! ### Patches -/

/-- A box of a picture and how much of every pixel a shape covers. -/
structure Patch where
  box : Canvas.Box
  coverage : Nat → Nat → Float32

namespace Patch

/-- The picture with a colour laid over the patch. -/
def lay (patch : Patch) (color : Color) (canvas : Canvas) : Canvas :=
  canvas.composite patch.box color patch.coverage

/-- The colour is seen somewhere in the patch. -/
def shows (patch : Patch) (color : Color) : Bool :=
  patch.box.any fun row column =>
    patch.coverage row column * (Paint.ofColor color).opacity > 0.0

/-- The pixel of a row and a column is not covered. -/
def LeavesOut (patch : Patch) (row column : Nat) : Prop :=
  patch.box.holds row column = true → patch.coverage row column = 0.0

/-- A patch that is wholly covered. -/
def solid (box : Canvas.Box) : Patch := ⟨box, fun _ _ => 1.0⟩

/-- Zero times the opacity of a colour is zero. -/
theorem nothing_taken {paint : Paint} (finite : paint.IsFinite) :
    IsSingle (0.0 * paint.opacity) 0 := by
  obtain ⟨opacity, isOpacity⟩ := exists_isSingle finite.opacity
  have near := isNearSingle_mul isSingle_zero isOpacity (hasRoom_of_le (by norm_num))
  rw [zero_mul] at near
  exact near.isSingle isRepresentable_zero

section Pixels

variable {patch : Patch} {color : Color} (finite : (Paint.ofColor color).IsFinite)
  {canvas : Canvas} {row column : Nat} {pixel : Pixel}
  (placed : canvas.pixelAt? row column = some pixel)

include finite placed

/-- A pixel that a patch leaves out stays, unless it has no opacity: then it becomes clear when the
box holds it and the colour is seen. -/
theorem pixelAt?_lay (uncovered : patch.LeavesOut row column) :
    (patch.lay color canvas).pixelAt? row column =
      some (if pixel.alpha = 0 ∧ patch.box.holds row column = true ∧ patch.shows color = true
        then .clear else pixel) := by
  by_cases inside : patch.box.holds row column = true
  · by_cases shown : patch.shows color = true
    · have painted : patch.lay color canvas = canvas.modifyBox patch.box fun row column pixel =>
          pixel.blend (Paint.ofColor color)
            (patch.coverage row column * (Paint.ofColor color).opacity) := if_pos shown
      rw [painted, Canvas.pixelAt?_modifyBox, if_pos inside, placed, uncovered inside]
      simp only [Option.map_some, inside, shown, and_self, and_true,
        Pixel.blend_of_nothing pixel finite (nothing_taken finite)]
    · have left : patch.lay color canvas = canvas := if_neg shown
      rw [left, placed, if_neg fun all => shown all.2.2]
  · have left : (patch.lay color canvas).pixelAt? row column = canvas.pixelAt? row column :=
      Canvas.pixelAt?_composite_outside _ _ _ _ (Bool.not_eq_true _ ▸ inside)
    rw [left, placed, if_neg fun all => inside all.2.1]

end Pixels

/-- A patch that is nowhere covered changes nothing. -/
theorem lay_of_blank {patch : Patch} (color : Color) (canvas : Canvas)
    (blank : ∀ row column, patch.LeavesOut row column) : patch.lay color canvas = canvas := by
  refine if_neg fun shown => ?_
  obtain ⟨row, column, inside, taken⟩ := (Canvas.Box.any_iff _ _).mp shown
  rw [blank row column inside, decide_eq_true_eq] at taken
  exact not_pos_zero_mul _ taken

end Patch

/-! ### Patches one after the other -/

/-- A patch or none, unless it cannot be told. -/
abbrev PatchStep := Except Fault (Option Patch)

namespace Canvas

/-- Lays a colour over a patch if there is one. -/
def layStep (color : Color) (step : PatchStep) : Painting := do
  match ← step with
  | some patch => modify (patch.lay color)
  | none => pure ()

/-- Lays a colour over patches, one after the other. The first that cannot be told ends it. -/
def laySteps (color : Color) (steps : List PatchStep) : Painting := steps.forM (layStep color)

theorem laySteps_single (color : Color) (step : PatchStep) :
    laySteps color [step] = layStep color step :=
  show (layStep color step >>= fun _ => pure ()) = _ from bind_pure _

theorem laySteps_append (color : Color) (first second : List PatchStep) :
    laySteps color (first ++ second) = laySteps color first >>= fun _ => laySteps color second :=
  List.forM_append

end Canvas

/-- The patches before the first that cannot be told. -/
def toldPatches : List PatchStep → List Patch
  | .ok (some patch) :: rest => patch :: toldPatches rest
  | .ok none :: rest => toldPatches rest
  | _ => []

theorem mem_of_mem_toldPatches {steps : List PatchStep} {patch : Patch}
    (known : patch ∈ toldPatches steps) : .ok (some patch) ∈ steps := by
  fun_induction toldPatches steps with
  | case1 first rest inductionHypothesis =>
    obtain rfl | known := List.mem_cons.mp known
    · exact List.mem_cons_self
    · exact List.mem_cons_of_mem _ (inductionHypothesis known)
  | case2 rest inductionHypothesis => exact List.mem_cons_of_mem _ (inductionHypothesis known)
  | case3 => cases known

/-- One of the patches holds the pixel of a row and a column, and the colour is seen in it. -/
def reaches (patches : List Patch) (color : Color) (row column : Nat) : Bool :=
  patches.any fun patch => patch.box.holds row column && patch.shows color

theorem reaches_eq_false_iff {patches : List Patch} {color : Color} {row column : Nat} :
    reaches patches color row column = false ↔
      ∀ patch ∈ patches, patch.box.holds row column = true → patch.shows color = false := by
  simp [reaches]

/-- A pixel that all patches leave out stays, unless it has no opacity and is reached. -/
theorem pixelAt?_laySteps {color : Color} (finite : (Paint.ofColor color).IsFinite)
    {row column : Nat} (steps : List PatchStep) {canvas : Canvas} {pixel : Pixel}
    (placed : canvas.pixelAt? row column = some pixel)
    (uncovered : ∀ patch ∈ toldPatches steps, patch.LeavesOut row column) :
    (Canvas.laySteps color steps canvas).state.pixelAt? row column =
      some (if pixel.alpha = 0 ∧ reaches (toldPatches steps) color row column = true
        then .clear else pixel) := by
  induction steps generalizing canvas pixel with
  | nil => exact placed.trans (congrArg some (if_neg fun all => nomatch all.2).symm)
  | cons step rest inductionHypothesis =>
    match step with
    | .error fault => exact placed.trans (congrArg some (if_neg fun all => nomatch all.2).symm)
    | .ok none => exact inductionHypothesis placed uncovered
    | .ok (some patch) =>
      have first := Patch.pixelAt?_lay finite placed (uncovered patch List.mem_cons_self)
      have further := inductionHypothesis first fun other known =>
        uncovered other (List.mem_cons_of_mem _ known)
      refine further.trans (congrArg some ?_)
      rw [show reaches (toldPatches (.ok (some patch) :: rest)) color row column =
        (patch.box.holds row column && patch.shows color || reaches (toldPatches rest) color row
          column) from rfl]
      by_cases clear : pixel.alpha = 0
      · by_cases now : patch.box.holds row column = true ∧ patch.shows color = true
        · simp [clear, now, Pixel.clear]
        · simp [clear, now]
      · simp [clear]

/-- Where no patch holds a pixel nothing changes, whatever the colour. -/
theorem pixelAt?_laySteps_outside (color : Color) {row column : Nat} (steps : List PatchStep)
    {canvas : Canvas}
    (outside : ∀ patch ∈ toldPatches steps, patch.box.holds row column = false) :
    (Canvas.laySteps color steps canvas).state.pixelAt? row column =
      canvas.pixelAt? row column := by
  induction steps generalizing canvas with
  | nil => rfl
  | cons step rest inductionHypothesis =>
    match step with
    | .error fault => rfl
    | .ok none => exact inductionHypothesis outside
    | .ok (some patch) =>
      have first := Canvas.pixelAt?_composite_outside canvas patch.box color patch.coverage
        (outside patch List.mem_cons_self)
      exact (inductionHypothesis fun other known =>
        outside other (List.mem_cons_of_mem _ known)).trans first

/-! ### Chords of polygons -/

/-- The part of a row that lies between two crossings of its line. -/
structure Chord (Number : Type) where
  row : Int
  left : Number
  right : Number

section Chords

variable {Number : Type} [Scalar Number]

/-- The first and the last column whose centres lie on the chord. -/
def Chord.columns (chord : Chord Number) : Except Fault (Int × Int) :=
  spanBetween (chord.left, chord.right)

/-- The chords of a row, from left to right. -/
def chordsOfRow (edges : List (Edge Number)) (row : Int) : List (Chord Number) :=
  (pairUp (crossings edges (centerLine row))).map fun pair => ⟨row, pair.1, pair.2⟩

/-- The chords of `count` rows from a row on. -/
def chordsFrom (edges : List (Edge Number)) (count : Nat) (row : Int) : List (Chord Number) :=
  (List.range count).flatMap fun offset : Nat => chordsOfRow edges (row + offset)

/-- The chords of a polygon in a picture of so many rows. -/
def chordsOf (height : Nat) (corners : List (Number × Number)) :
    Except Fault (List (Chord Number)) := do
  if 3 ≤ corners.length then
    let (top, bottom) ← rowRange height (corners.map Prod.snd)
    return chordsFrom (edgesOf corners) (bottom + 1 - top).toNat top
  else return []

end Chords

/-! ### Shapes as patches -/

namespace Canvas

variable (canvas : Canvas)

/-- The pixels that the segments of a line hit, all at once. -/
def linePatch (columns rows : List Int) (brush : Int) : PatchStep := do
  columns.forM checkPlace
  rows.forM checkPlace
  if 2 ≤ columns.length then
    if rows.length < columns.length then throw (.beyondEnd rows.length rows.length)
    let hits := lineHits canvas.width canvas.height (columns.zip rows) brush
    return some ⟨canvas.wholeBox, fun row column => if hits.holds row column then 1.0 else 0.0⟩
  else return none

/-- The pixels of a disc in the box around it. -/
def discPatch (x y radius : Value) : PatchStep := do
  if ← radius.isAtMostZero then return none
  let columns ← discExtentAt x radius
  let rows ← discExtentAt y radius
  let box := canvas.clip columns.1 rows.1 columns.2 rows.2
  if box.isEmpty then return none
  let x ← x.toFloat
  let y ← y.toFloat
  let square ← squareOf radius
  return some ⟨box, fun row column => if isInDisc x y square row column then 1.0 else 0.0⟩

/-- The pixels of a text in the box of its mask. -/
def textPatch (font : Font) (x y : Int) (text : String) (size : Value) (weight : Int) :
    PatchStep := do
  if text = "" then return none
  let _ ← Font.wholeSize size
  let mask := (← font.mask text).embolden weight
  return some ⟨canvas.clip x y (x + mask.width) (y + mask.height), fun row column =>
    (mask.cellAt (row - y).toNat (column - x).toNat).toFloat32 / 255.0⟩

/-- A span of a row. -/
def spanPatch (row : Int) (span : Except Fault (Int × Int)) : PatchStep := do
  let (first, last) ← span
  return some (.solid (canvas.clip first row (last + 1) (row + 1)))

/-- The spans of `count` rows of a polygon from a row on. -/
def rowPatches (edges : List (Edge Float)) : Nat → Int → List PatchStep
  | 0, _ => []
  | count + 1, row =>
    (spansOfRow edges row).map (canvas.spanPatch row) ++ rowPatches edges count (row + 1)

/-- The spans of a polygon. -/
def polygonPatches (columns rows : List Float) : List PatchStep :=
  if columns.length = rows.length ∧ 3 ≤ columns.length then
    match rowRange canvas.height rows with
    | .ok (top, bottom) =>
      canvas.rowPatches (edgesOf (columns.zip rows)) (bottom + 1 - top).toNat top
    | .error fault => [.error fault]
  else []

/-- The span of a chord. -/
def chordPatch {Number : Type} [Scalar Number] (chord : Chord Number) : PatchStep :=
  canvas.spanPatch chord.row chord.columns

/-- The spans of the chords of a polygon. -/
def chordSteps {Number : Type} [Scalar Number] (corners : List (Number × Number)) :
    List PatchStep :=
  match chordsOf canvas.height corners with
  | .ok chords => chords.map canvas.chordPatch
  | .error fault => [.error fault]

variable {canvas}

theorem chordsFrom_succ {Number : Type} [Scalar Number] (edges : List (Edge Number)) (count : Nat)
    (row : Int) :
    chordsFrom edges (count + 1) row =
      chordsOfRow edges row ++ chordsFrom edges count (row + 1) := by
  unfold chordsFrom
  rw [List.range_succ_eq_map, List.flatMap_cons, List.flatMap_map, Nat.cast_zero, Int.add_zero]
  refine congrArg _ (List.flatMap_congr fun offset _ => congrArg _ ?_)
  push_cast
  omega

theorem map_chordPatch_chordsOfRow {Number : Type} [Scalar Number] (edges : List (Edge Number))
    (row : Int) :
    (chordsOfRow edges row).map canvas.chordPatch =
      (spansOfRow edges row).map (canvas.spanPatch row) := by
  unfold chordsOfRow spansOfRow
  rw [List.map_map, List.map_map]
  rfl

theorem rowPatches_eq (edges : List (Edge Float)) (count : Nat) (row : Int) :
    canvas.rowPatches edges count row = (chordsFrom edges count row).map canvas.chordPatch := by
  induction count generalizing row with
  | zero => rfl
  | succ count inductionHypothesis =>
    rw [rowPatches, chordsFrom_succ, List.map_append, map_chordPatch_chordsOfRow,
      inductionHypothesis]

theorem polygonPatches_eq (columns rows : List Float) :
    canvas.polygonPatches columns rows =
      if columns.length = rows.length then canvas.chordSteps (columns.zip rows) else [] := by
  unfold polygonPatches
  by_cases same : columns.length = rows.length
  · have length : (columns.zip rows).length = columns.length := by
      rw [List.length_zip, same, Nat.min_self]
    have seconds : (columns.zip rows).map Prod.snd = rows := List.map_snd_zip same.ge
    unfold chordSteps chordsOf
    rw [if_pos same, length, seconds]
    by_cases enough : 3 ≤ columns.length
    · rw [if_pos ⟨same, enough⟩, if_pos enough]
      cases rowRange canvas.height rows with
      | error fault => rfl
      | ok range => exact rowPatches_eq _ _ _
    · rw [if_neg fun both => enough both.2, if_neg enough]
      rfl
  · rw [if_neg same, if_neg fun both => same both.1]

theorem solid_of_mem_polygonPatches {columns rows : List Float} {patch : Patch}
    (known : .ok (some patch) ∈ canvas.polygonPatches columns rows) :
    ∃ box, patch = .solid box := by
  rw [polygonPatches_eq] at known
  split at known
  · unfold chordSteps at known
    split at known
    · obtain ⟨chord, _, equal⟩ := List.mem_map.mp known
      unfold chordPatch spanPatch at equal
      cases told : chord.columns with
      | error fault =>
        rw [told] at equal
        cases equal
      | ok columns =>
        rw [told] at equal
        cases equal
        exact ⟨_, rfl⟩
    · cases known with
      | tail _ none => cases none
  · cases known

end Canvas

/-! ### Marks -/

/-- A call that draws a shape. -/
inductive Mark where
  | line (columns rows : List Int) (brush : Int)
  | disc (x y radius : Value)
  | polygon (columns rows : List Float)
  | box (x0 y0 x1 y1 : Int)
  | horizontal (x0 x1 y : Int)
  | vertical (x y0 y1 : Int)
  | text (font : Font) (x y : Int) (content : String) (size : Value) (weight : Int)

namespace Mark

/-- Draws the shape in a colour. -/
def draw (color : Color) : Mark → Painting
  | line columns rows brush => Canvas.drawLineAt columns rows color brush
  | disc x y radius => Canvas.fillDiscAt x y radius color
  | polygon columns rows => Canvas.fillPolygonAt columns rows color
  | box x0 y0 x1 y1 => modify (·.drawBox x0 y0 x1 y1 color)
  | horizontal x0 x1 y => modify (·.drawHorizontal x0 x1 y color)
  | vertical x y0 y1 => modify (·.drawVertical x y0 y1 color)
  | text font x y content size weight => Canvas.drawText font x y content color size weight

/-- The patches of a shape on a picture. -/
def patches (canvas : Canvas) : Mark → List PatchStep
  | line columns rows brush => [canvas.linePatch columns rows brush]
  | disc x y radius => [canvas.discPatch x y radius]
  | polygon columns rows => canvas.polygonPatches columns rows
  | box x0 y0 x1 y1 => [.ok (some (.solid
      (canvas.clip (min x0 x1) (min y0 y1) (max x0 x1 + 1) (max y0 y1 + 1))))]
  | horizontal x0 x1 y => [.ok (some (.solid (canvas.clip (min x0 x1) y (max x0 x1 + 1) (y + 1))))]
  | vertical x y0 y1 => [.ok (some (.solid (canvas.clip x (min y0 y1) (x + 1) (max y0 y1 + 1))))]
  | text font x y content size weight => [canvas.textPatch font x y content size weight]

end Mark

/-! ### Drawing is laying patches -/

namespace Canvas

theorem forM_lift {Item : Type} (check : Item → Except Fault Unit) (items : List Item) :
    (items.forM fun item => (Fault.lift (check item) : Painting)) =
      Fault.lift (items.forM check) := by
  induction items with
  | nil => rfl
  | cons item rest inductionHypothesis =>
    show (Fault.lift (check item) >>= fun _ => rest.forM fun item => Fault.lift (check item)) =
      Fault.lift (check item >>= fun _ => rest.forM check)
    rw [inductionHypothesis]
    cases check item <;> rfl

/-- A line that hits no pixel is no patch that could be seen. -/
theorem drawLine_eq (canvas : Canvas) {places : List (Int × Int)} (enough : ¬places.length < 2)
    (color : Color) (brush : Int) :
    canvas.drawLine places color brush =
      Patch.lay ⟨canvas.wholeBox, fun row column =>
        if (lineHits canvas.width canvas.height places brush).holds row column then 1.0 else 0.0⟩
        color canvas := by
  unfold drawLine
  rw [if_neg enough]
  dsimp only
  -- A line without pixels is not laid at all, which a patch without coverage cannot be told from.
  split
  · rfl
  · rename_i unhit
    refine (Patch.lay_of_blank color canvas fun row column _ => if_neg fun hit => unhit ?_).symm
    generalize lineHits canvas.width canvas.height places brush = hits at hit ⊢
    unfold Hits.holds at hit
    by_cases inside : row * hits.width + column < hits.marks.size
    · rw [Array.getD_eq_getD_getElem?, Array.getElem?_eq_getElem inside, Option.getD_some] at hit
      rw [Array.contains_iff_mem, ← hit]
      exact Array.getElem_mem inside
    · rw [Array.getD_eq_getD_getElem?, Array.getElem?_eq_none (by omega)] at hit
      cases hit

theorem drawLineAt_eq (columns rows : List Int) (color : Color) (brush : Int) (canvas : Canvas) :
    drawLineAt columns rows color brush canvas =
      layStep color (canvas.linePatch columns rows brush) canvas := by
  unfold drawLineAt linePatch
  rw [forM_lift, forM_lift]
  cases columns.forM checkPlace with
  | error fault => rfl
  | ok _ =>
    cases rows.forM checkPlace with
    | error fault => rfl
    | ok _ =>
      by_cases enough : 2 ≤ columns.length
      · by_cases lacking : rows.length < columns.length
        · simp only [enough, lacking, if_true]
          rfl
        · simp only [enough, lacking, if_true, if_false]
          show EStateM.Result.ok () (canvas.drawLine (columns.zip rows) color brush) =
            .ok () (Patch.lay _ color canvas)
          rw [drawLine_eq canvas (by rw [List.length_zip]; omega)]
      · simp only [enough, if_false]
        rfl

/-- A disc without pixels is no patch that could be seen. -/
theorem fillInside_eq (canvas : Canvas) (columns rows : Int × Int) (color : Color)
    (inside : Nat → Nat → Bool) :
    canvas.fillInside columns rows color inside =
      Patch.lay ⟨canvas.clip columns.1 rows.1 columns.2 rows.2, fun row column =>
        if inside row column then 1.0 else 0.0⟩ color canvas := by
  unfold fillInside
  dsimp only
  split
  · rfl
  · rename_i none
    refine (Patch.lay_of_blank color canvas fun row column holds => if_neg fun hit => none ?_).symm
    exact (Box.any_iff _ _).mpr ⟨row, column, holds, hit⟩

theorem fillDiscAt_eq (x y radius : Value) (color : Color) (canvas : Canvas) :
    fillDiscAt x y radius color canvas = layStep color (canvas.discPatch x y radius) canvas := by
  unfold fillDiscAt discPatch
  cases radius.isAtMostZero with
  | error fault => rfl
  | ok none =>
    cases none with
    | true => rfl
    | false =>
      cases discExtentAt x radius with
      | error fault => rfl
      | ok columns =>
        cases discExtentAt y radius with
        | error fault => rfl
        | ok rows =>
          show (if (canvas.clip columns.1 rows.1 columns.2 rows.2).isEmpty = true then pure ()
            else _ : Painting) canvas = layStep color
              (if (canvas.clip columns.1 rows.1 columns.2 rows.2).isEmpty = true then pure none
                else _) canvas
          by_cases empty : (canvas.clip columns.1 rows.1 columns.2 rows.2).isEmpty = true
          · rw [if_pos empty, if_pos empty]
            rfl
          · rw [if_neg empty, if_neg empty]
            cases x.toFloat with
            | error fault => rfl
            | ok x =>
              cases y.toFloat with
              | error fault => rfl
              | ok y =>
                cases squareOf radius with
                | error fault => rfl
                | ok square =>
                  show EStateM.Result.ok () (canvas.fillInside columns rows color _) =
                    .ok () (Patch.lay _ color canvas)
                  rw [fillInside_eq]

theorem drawText_eq (font : Font) (x y : Int) (text : String) (color : Color) (size : Value)
    (weight : Int) (canvas : Canvas) :
    drawText font x y text color size weight canvas =
      layStep color (canvas.textPatch font x y text size weight) canvas := by
  unfold drawText textPatch
  by_cases empty : text = ""
  · rw [if_pos empty, if_pos empty]
    rfl
  · rw [if_neg empty, if_neg empty]
    cases Font.wholeSize size with
    | error fault => rfl
    | ok whole =>
      cases font.mask text with
      | error fault => rfl
      | ok mask => rfl

section Rows

variable {canvas drawn : Canvas} (sized : drawn.HasSize canvas.width canvas.height) (color : Color)

include sized

theorem clip_of_hasSize (left top right bottom : Int) :
    drawn.clip left top right bottom = canvas.clip left top right bottom := by
  unfold clip
  rw [sized.1, sized.2]

theorem fillSpans_eq (row : Int) (spans : List (Except Fault (Int × Int))) :
    fillSpans row color spans drawn =
      laySteps color (spans.map (canvas.spanPatch row)) drawn := by
  induction spans generalizing drawn with
  | nil => rfl
  | cons span rest inductionHypothesis =>
    cases span with
    | error fault => rfl
    | ok columns =>
      show fillSpans row color rest (drawn.fillBox (drawn.clip _ _ _ _) color) =
        laySteps color (rest.map (canvas.spanPatch row)) (drawn.composite _ color _)
      rw [clip_of_hasSize sized]
      exact inductionHypothesis (sized.composite _ _ _)

theorem fillRows_eq {Number : Type} [Scalar Number] (edges : List (Edge Number)) (count : Nat)
    (row : Int) :
    fillRows edges color count row drawn =
      laySteps color ((chordsFrom edges count row).map canvas.chordPatch) drawn := by
  induction count generalizing row drawn with
  | zero => rfl
  | succ count inductionHypothesis =>
    have first := fillSpans_eq sized color row (spansOfRow edges row)
    have kept := keeps_size_fillSpans _ _ row color (spansOfRow edges row) drawn sized
    show (fillSpans row color (spansOfRow edges row) >>= fun _ => _) drawn = _
    rw [chordsFrom_succ, List.map_append, map_chordPatch_chordsOfRow, laySteps_append]
    cases step : fillSpans row color (spansOfRow edges row) drawn with
    | ok _ after =>
      rw [step] at first kept
      rw [bind_of_ok step, bind_of_ok first.symm]
      exact inductionHypothesis kept _
    | error fault after =>
      rw [step] at first
      rw [bind_of_error step, bind_of_error first.symm]

end Rows

theorem fillPolygon_eq {Number : Type} [Scalar Number] (corners : List (Number × Number))
    (color : Color) (canvas : Canvas) :
    fillPolygon corners color canvas = laySteps color (canvas.chordSteps corners) canvas := by
  unfold fillPolygon chordSteps chordsOf
  by_cases enough : 3 ≤ corners.length
  · rw [if_pos enough, if_pos enough, get_bind]
    cases rowRange canvas.height (corners.map Prod.snd) with
    | error fault => rfl
    | ok range => exact fillRows_eq canvas.hasSize_self color _ _ _
  · rw [if_neg enough, if_neg enough]
    rfl

theorem fillPolygonAt_eq (columns rows : List Float) (color : Color) (canvas : Canvas) :
    fillPolygonAt columns rows color canvas =
      laySteps color (canvas.polygonPatches columns rows) canvas := by
  rw [polygonPatches_eq]
  unfold fillPolygonAt
  split
  · exact fillPolygon_eq _ color canvas
  · rfl

end Canvas

namespace Mark

/-- Drawing a shape is laying its patches. -/
theorem draw_eq (mark : Mark) (color : Color) (canvas : Canvas) :
    mark.draw color canvas = Canvas.laySteps color (mark.patches canvas) canvas := by
  cases mark with
  | line columns rows brush =>
    exact (Canvas.drawLineAt_eq columns rows color brush canvas).trans
      (congrFun (Canvas.laySteps_single color _).symm canvas)
  | disc x y radius =>
    exact (Canvas.fillDiscAt_eq x y radius color canvas).trans
      (congrFun (Canvas.laySteps_single color _).symm canvas)
  | polygon columns rows => exact Canvas.fillPolygonAt_eq columns rows color canvas
  | box | horizontal | vertical => rfl
  | text font x y content size weight =>
    exact (Canvas.drawText_eq font x y content color size weight canvas).trans
      (congrFun (Canvas.laySteps_single color _).symm canvas)

/-- The shape does not cover the pixel of a row and a column. -/
def LeavesOut (mark : Mark) (canvas : Canvas) (row column : Nat) : Prop :=
  ∀ patch ∈ toldPatches (mark.patches canvas), patch.LeavesOut row column

/-- The shape covers all of its patches. -/
def isSolid : Mark → Bool
  | polygon .. | box .. | horizontal .. | vertical .. => true
  | _ => false

theorem solid_of_isSolid {mark : Mark} (isSolid : mark.isSolid = true) {canvas : Canvas}
    {patch : Patch} (known : patch ∈ toldPatches (mark.patches canvas)) :
    ∃ box, patch = .solid box := by
  have step := mem_of_mem_toldPatches known
  cases mark with
  | line | disc | text => cases isSolid
  | box | horizontal | vertical =>
    cases step with
    | head => exact ⟨_, rfl⟩
    | tail _ none => cases none
  | polygon columns rows => exact Canvas.solid_of_mem_polygonPatches step

/-- A solid shape keeps every pixel that it does not cover, whatever its colour. -/
theorem keeps_uncovered_of_isSolid {mark : Mark} (isSolid : mark.isSolid = true) (color : Color)
    {canvas : Canvas} {row column : Nat} (uncovered : mark.LeavesOut canvas row column) :
    (mark.draw color canvas).state.pixelAt? row column = canvas.pixelAt? row column := by
  rw [draw_eq]
  refine pixelAt?_laySteps_outside color _ fun patch known => ?_
  obtain ⟨box, rfl⟩ := solid_of_isSolid isSolid known
  by_contra inside
  have covered : (1.0 : Float32) = 0.0 := uncovered _ known (Bool.not_eq_false _ ▸ inside)
  exact absurd covered (by decide)

/-- A pixel that a shape does not cover keeps its bytes, unless it has no opacity and is not clear:
then it keeps them just when no patch in which the colour is seen holds it. -/
theorem keeps_uncovered_iff (mark : Mark) {color : Color}
    (finite : (Paint.ofColor color).IsFinite)
    {canvas : Canvas} {row column : Nat} {pixel : Pixel}
    (placed : canvas.pixelAt? row column = some pixel)
    (uncovered : mark.LeavesOut canvas row column) :
    (mark.draw color canvas).state.pixelAt? row column = some pixel ↔
      pixel.alpha ≠ 0 ∨ pixel = .clear ∨ ∀ patch ∈ toldPatches (mark.patches canvas),
        patch.box.holds row column = true → patch.shows color = false := by
  rw [draw_eq, pixelAt?_laySteps finite _ placed uncovered,
    Option.some.injEq, ← reaches_eq_false_iff]
  by_cases clear : pixel.alpha = 0
  · cases reaches (toldPatches (mark.patches canvas)) color row column with
    | true => simp [clear, eq_comm]
    | false => simp [clear]
  · simp [clear]

/-- A line of one pixel on a picture of two. -/
def dot : Mark := line [0, 0] [0, 0] 1

theorem dot_leavesOut (pixel : Pixel) : dot.LeavesOut (.filled 2 1 pixel) 0 1 := by
  intro patch known inside
  cases known with
  | head => rfl
  | tail _ known => cases known

theorem keeps_uncovered_dot :
    (dot.draw ⟨255, 0, 0, 255⟩ (.filled 2 1 ⟨10, 20, 30, 40⟩)).state.pixelAt? 0 1 =
      some ⟨10, 20, 30, 40⟩ :=
  (dot.keeps_uncovered_iff (Paint.isFinite_ofColor (by decide)) (by decide)
    (dot_leavesOut _)).mpr (Or.inl (by decide))

/-- A pixel without opacity is cleared by a line that does not cover it. -/
theorem changed_by_dot :
    ¬∀ (mark : Mark) (color : Color) (canvas : Canvas) (row column : Nat) (pixel : Pixel),
      color.isValid = true → canvas.pixelAt? row column = some pixel →
      mark.LeavesOut canvas row column →
      (mark.draw color canvas).state.pixelAt? row column = some pixel := by
  intro always
  have kept := always dot ⟨255, 0, 0, 255⟩ (.filled 2 1 ⟨10, 20, 30, 0⟩) 0 1 ⟨10, 20, 30, 0⟩
    (by decide) (by decide) (dot_leavesOut _)
  exact absurd kept (by decide +kernel)

end Mark

end SeriesChart
