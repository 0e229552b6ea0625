/-
This file tells what filling a polygon does to every pixel. The colour is laid over the boxes of
the chords, one after the other, up to the first chord that cannot be told. So a pixel takes one
coat of the colour for each chord that its centre lies on, and the others stay.
-/

import SeriesChart.Proofs.Raster.Marks

namespace SeriesChart

/-! ### Coats -/

/-- The pixel with a coat of a colour. A colour without opacity is not seen. -/
def Pixel.coat (color : Color) (pixel : Pixel) : Pixel :=
  let taken := 1.0 * (Paint.ofColor color).opacity
  if taken > 0.0 then pixel.blend (Paint.ofColor color) taken else pixel

namespace Canvas

variable {canvas : Canvas} {row column : Nat}

/-- Laying a colour evenly over a box gives a coat to the pixels in it. -/
theorem pixelAt?_fillBox (box : Box) (color : Color) :
    (canvas.fillBox box color).pixelAt? row column =
      if box.holds row column = true then (canvas.pixelAt? row column).map (Pixel.coat color)
      else canvas.pixelAt? row column := by
  by_cases inside : box.holds row column = true
  · rw [if_pos inside]
    by_cases seen : 1.0 * (Paint.ofColor color).opacity > 0.0
    · have painted : canvas.fillBox box color = canvas.modifyBox box fun _ _ pixel =>
          pixel.blend (Paint.ofColor color) (1.0 * (Paint.ofColor color).opacity) :=
        if_pos ((Box.any_iff _ _).mpr ⟨row, column, inside, decide_eq_true seen⟩)
      have coat : Pixel.coat color = fun pixel =>
          pixel.blend (Paint.ofColor color) (1.0 * (Paint.ofColor color).opacity) :=
        funext fun pixel => if_pos seen
      rw [painted, pixelAt?_modifyBox, if_pos inside, coat]
    · have left : canvas.fillBox box color = canvas := by
        refine if_neg fun shown => ?_
        obtain ⟨_, _, _, taken⟩ := (Box.any_iff _ _).mp shown
        exact seen (of_decide_eq_true taken)
      have coat : Pixel.coat color = id := funext fun pixel => if_neg seen
      rw [left, coat, Option.map_id, id]
  · rw [if_neg inside]
    exact pixelAt?_composite_outside canvas box color _ (Bool.eq_false_iff.mpr inside)

/-- Patches that are wholly covered give a coat each to the pixels that they hold. -/
theorem pixelAt?_laySteps_solid (color : Color) (steps : List PatchStep)
    (solid : ∀ patch ∈ toldPatches steps, ∃ box, patch = .solid box) :
    (laySteps color steps canvas).state.pixelAt? row column =
      (canvas.pixelAt? row column).map
        ((Pixel.coat color)^[(toldPatches steps).countP (·.box.holds row column)]) := by
  induction steps generalizing canvas with
  | nil => exact (congrFun Option.map_id _).symm
  | cons step rest inductionHypothesis =>
    match step with
    | .error fault => exact (congrFun Option.map_id _).symm
    | .ok none => exact inductionHypothesis solid
    | .ok (some patch) =>
      obtain ⟨box, rfl⟩ := solid patch List.mem_cons_self
      have further := @inductionHypothesis (canvas.fillBox box color) fun other known =>
        solid other (List.mem_cons_of_mem _ known)
      refine Eq.trans further ?_
      rw [pixelAt?_fillBox, toldPatches, List.countP_cons]
      by_cases inside : box.holds row column = true
      · rw [if_pos inside, if_pos (show (Patch.solid box).box.holds row column = true from inside),
          Option.map_map, Function.iterate_succ]
      · rw [if_neg inside, if_neg (show ¬(Patch.solid box).box.holds row column = true from inside),
          Nat.add_zero]

/-- If every patch can be told, then all of them are laid. -/
theorem laySteps_of_told (color : Color) {steps : List PatchStep}
    (told : ∀ step ∈ steps, ∃ patch, step = .ok patch) :
    ∃ laid, laySteps color steps canvas = .ok () laid := by
  induction steps generalizing canvas with
  | nil => exact ⟨canvas, rfl⟩
  | cons step rest inductionHypothesis =>
    obtain ⟨patch, rfl⟩ := told step List.mem_cons_self
    have further (laid : Canvas) := @inductionHypothesis laid fun other known =>
      told other (List.mem_cons_of_mem _ known)
    cases patch with
    | none => exact further canvas
    | some patch => exact further (patch.lay color canvas)

end Canvas

/-! ### Chords -/

section Chords

variable {Number : Type} [Scalar Number]

theorem perm_crossings (edges : List (Edge Number)) (line : Number) :
    (crossings edges line).Perm ((edges.filter (·.crosses line)).map (·.crossingAt line)) :=
  List.mergeSort_perm _ _

/-- Crossings come out in their order, if that is the order of some ranks. -/
theorem pairwise_crossings {Rank : Type} [LinearOrder Rank] {rank : Number → Rank}
    (ranked : ∀ first second, comesBefore first second = true ↔ rank first ≤ rank second)
    (edges : List (Edge Number)) (line : Number) :
    (crossings edges line).Pairwise fun first second => rank first ≤ rank second := by
  refine (List.pairwise_mergeSort (fun first second third => ?_) (fun first second => ?_) _).imp
    (ranked _ _).mp
  · rw [ranked, ranked, ranked]
    exact le_trans
  · rw [Bool.or_eq_true, ranked, ranked]
    exact le_total _ _

/-- It can be told in which columns the chord begins and ends. -/
def Chord.isTold (chord : Chord Number) : Bool := chord.columns.isOk

/-- The chords of a polygon that are drawn: those before the first that cannot be told. -/
def drawnChords (height : Nat) (corners : List (Number × Number)) : List (Chord Number) :=
  match chordsOf height corners with
  | .ok chords => chords.takeWhile Chord.isTold
  | .error _ => []

theorem mem_chordsOfRow_iff {edges : List (Edge Number)} {row : Int} {chord : Chord Number} :
    chord ∈ chordsOfRow edges row ↔
      chord.row = row ∧ (chord.left, chord.right) ∈ pairUp (crossings edges (centerLine row)) := by
  unfold chordsOfRow
  rw [List.mem_map]
  constructor
  · rintro ⟨pair, paired, rfl⟩
    exact ⟨rfl, paired⟩
  · rintro ⟨rfl, paired⟩
    exact ⟨_, paired, rfl⟩

/-- A row with a chord has an edge across its line. -/
theorem exists_crosses_of_mem {edges : List (Edge Number)} {row : Int} {chord : Chord Number}
    (inRow : chord ∈ chordsOfRow edges row) :
    ∃ edge ∈ edges, edge.crosses (centerLine row) = true := by
  obtain ⟨place, -⟩ := mem_of_mem_pairUp (mem_chordsOfRow_iff.mp inRow).2
  rw [(perm_crossings _ _).mem_iff] at place
  obtain ⟨edge, found, -⟩ := List.mem_map.mp place
  exact ⟨edge, List.mem_filter.mp found⟩

theorem mem_chordsFrom_iff {edges : List (Edge Number)} {count : Nat} {row : Int}
    {chord : Chord Number} :
    chord ∈ chordsFrom edges count row ↔
      (row ≤ chord.row ∧ chord.row < row + count) ∧ chord ∈ chordsOfRow edges chord.row := by
  unfold chordsFrom
  rw [List.mem_flatMap]
  constructor
  · rintro ⟨offset, below, inRow⟩
    have same := (mem_chordsOfRow_iff.mp inRow).1
    have bound := List.mem_range.mp below
    exact ⟨by omega, same ▸ inRow⟩
  · rintro ⟨⟨above, below⟩, inRow⟩
    refine ⟨(chord.row - row).toNat, List.mem_range.mpr (by omega), ?_⟩
    rw [Int.toNat_of_nonneg (by omega), add_sub_cancel]
    exact inRow

theorem rowRange_bounds {height : Nat} {rows : List Number} {top bottom : Int}
    (equal : rowRange height rows = .ok (top, bottom)) : 0 ≤ top ∧ bottom ≤ (height : Int) - 1 := by
  cases rows with
  | nil =>
    cases equal
    omega
  | cons first rest =>
    obtain ⟨highest, -, equal⟩ := except_bind_eq_ok equal
    obtain ⟨lowest, -, equal⟩ := except_bind_eq_ok equal
    cases equal
    exact ⟨le_max_left _ _, min_le_left _ _⟩

/-- Only rows of the picture are gone through. -/
theorem exists_chordsFrom (height : Nat) (corners : List (Number × Number)) :
    ∃ (count : Nat) (row : Int), 0 ≤ row ∧ row + count ≤ height ∧
      drawnChords height corners =
        (chordsFrom (edgesOf corners) count row).takeWhile Chord.isTold := by
  unfold drawnChords
  cases equal : chordsOf height corners with
  | error fault => exact ⟨0, 0, le_refl _, by omega, rfl⟩
  | ok chords =>
    unfold chordsOf at equal
    split at equal
    · obtain ⟨⟨top, bottom⟩, range, equal⟩ := except_bind_eq_ok equal
      obtain ⟨inside, alsoInside⟩ := rowRange_bounds range
      cases equal
      by_cases some : top ≤ bottom
      · exact ⟨_, top, inside, by omega, rfl⟩
      · refine ⟨0, 0, le_refl _, by omega, ?_⟩
        rw [show (bottom + 1 - top).toNat = 0 by omega]
        rfl
    · cases equal
      exact ⟨0, 0, le_refl _, by omega, rfl⟩

namespace Canvas

variable (canvas : Canvas)

/-- The box of a chord; a chord that cannot be told has none of the pixels. -/
def chordBox (chord : Chord Number) : Box :=
  match chord.columns with
  | .ok (first, last) => canvas.clip first chord.row (last + 1) (chord.row + 1)
  | .error _ => ⟨0, 0, 0, 0⟩

/-- How many coats filling a polygon gives to the pixel of a row and a column. -/
def coats (corners : List (Number × Number)) (row column : Nat) : Nat :=
  (drawnChords canvas.height corners).countP fun chord =>
    (canvas.chordBox chord).holds row column

variable {canvas}

theorem holds_chordBox {chord : Chord Number} {first last : Int}
    (told : chord.columns = .ok (first, last)) (row column : Nat) :
    (canvas.chordBox chord).holds row column = true ↔
      (row < canvas.height ∧ column < canvas.width) ∧ chord.row = row ∧
        first ≤ column ∧ (column : Int) ≤ last := by
  unfold chordBox
  rw [told]
  dsimp only
  rw [holds_clip]
  omega

theorem toldPatches_map_chordPatch (chords : List (Chord Number)) :
    toldPatches (chords.map canvas.chordPatch) =
      (chords.takeWhile Chord.isTold).map fun chord => .solid (canvas.chordBox chord) := by
  induction chords with
  | nil => rfl
  | cons chord rest inductionHypothesis =>
    rw [List.map_cons, List.takeWhile_cons]
    unfold chordPatch spanPatch Chord.isTold
    cases told : chord.columns with
    | error fault => rfl
    | ok columns =>
      have box : canvas.chordBox chord =
          canvas.clip columns.1 chord.row (columns.2 + 1) (chord.row + 1) := by
        unfold chordBox
        rw [told]
      show Patch.solid _ :: toldPatches (rest.map canvas.chordPatch) =
        Patch.solid (canvas.chordBox chord) ::
          (rest.takeWhile Chord.isTold).map fun chord => .solid (canvas.chordBox chord)
      rw [inductionHypothesis, box]

theorem toldPatches_chordSteps (corners : List (Number × Number)) :
    toldPatches (canvas.chordSteps corners) =
      (drawnChords canvas.height corners).map fun chord => .solid (canvas.chordBox chord) := by
  unfold chordSteps drawnChords
  cases chordsOf canvas.height corners with
  | ok chords => exact toldPatches_map_chordPatch chords
  | error fault => rfl

theorem fillPolygonAt_corners (corners : List (Number × Number)) (color : Color) :
    fillPolygonAt (corners.map Prod.fst) (corners.map Prod.snd) color =
      fillPolygon corners color := by
  unfold fillPolygonAt
  rw [if_pos (by rw [List.length_map, List.length_map]), ← List.unzip_fst, ← List.unzip_snd,
    List.zip_unzip]

/-- Filling a polygon gives every pixel its coats. -/
theorem pixelAt?_fillPolygonAt (corners : List (Number × Number)) (color : Color)
    (row column : Nat) :
    (fillPolygonAt (corners.map Prod.fst) (corners.map Prod.snd) color canvas).state.pixelAt?
        row column =
      (canvas.pixelAt? row column).map ((Pixel.coat color)^[canvas.coats corners row column]) := by
  rw [fillPolygonAt_corners, fillPolygon_eq, pixelAt?_laySteps_solid color _ fun patch known => ?_,
    toldPatches_chordSteps, List.countP_map]
  · rfl
  · rw [toldPatches_chordSteps] at known
    obtain ⟨chord, -, rfl⟩ := List.mem_map.mp known
    exact ⟨_, rfl⟩

end Canvas

end Chords

end SeriesChart
