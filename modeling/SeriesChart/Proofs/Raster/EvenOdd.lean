/-
This file proves the even-odd rule for polygons whose corners are fractions, where nothing is
rounded. Going around the corners the line of a row is crossed as often upward as downward, so all
crossings are paired. The centre of a pixel lies between the two of a pair just when it is one of
the crossings or has an odd number of them on its left, and the pixels with such centres are the
ones that the filling changes.
-/

import SeriesChart.Proofs.Number.Rounding
import SeriesChart.Proofs.Raster.Chords

namespace SeriesChart

/-! ### Crossings -/

/-- An edge crosses a line just when one of its ends is below the line and the other is not. -/
theorem crosses_exact (edge : Edge ℚ) (line : ℚ) :
    edge.crosses line = (decide (edge.y0 ≤ line) != decide (edge.y1 ≤ line)) := by
  unfold Edge.crosses
  simp only [← not_le, decide_not]
  cases decide (edge.y0 ≤ line) <;> cases decide (edge.y1 ≤ line) <;> rfl

/-- An edge that crosses a line is not level, and the place where it does so lies on the edge. -/
theorem crossingAt_exact {edge : Edge ℚ} {line : ℚ} (crossed : edge.crosses line = true) :
    edge.y1 - edge.y0 ≠ 0 ∧
      (edge.crossingAt line - edge.x0) * (edge.y1 - edge.y0) =
        (line - edge.y0) * (edge.x1 - edge.x0) := by
  have notLevel : edge.y1 - edge.y0 ≠ 0 := by
    intro level
    rw [crosses_exact, sub_eq_zero.mp level, bne_self_eq_false] at crossed
    cases crossed
  refine ⟨notLevel, ?_⟩
  unfold Edge.crossingAt
  rw [add_sub_cancel_left, div_mul_cancel₀ _ notLevel]

/-- The edges of a path from a corner over others to a last one cross a line an even number of times
just when both ends of the path are on one side. -/
theorem even_countP_path (line : ℚ) (first : ℚ × ℚ) (rest : List (ℚ × ℚ)) (last : ℚ × ℚ) :
    Even ((List.zipWith (fun first second => Edge.mk first.1 first.2 second.1 second.2)
        (first :: rest) (rest ++ [last])).countP (·.crosses line)) ↔
      (first.2 ≤ line ↔ last.2 ≤ line) := by
  induction rest generalizing first with
  | nil =>
    show Even ([Edge.mk first.1 first.2 last.1 last.2].countP (·.crosses line)) ↔ _
    rw [List.countP_singleton, crosses_exact]
    by_cases above : first.2 ≤ line <;> by_cases otherAbove : last.2 ≤ line <;>
      simp [above, otherAbove]
  | cons second rest inductionHypothesis =>
    rw [List.cons_append, List.zipWith_cons_cons, List.countP_cons, crosses_exact]
    have further := inductionHypothesis second
    by_cases above : first.2 ≤ line <;> by_cases between : second.2 ≤ line <;>
      simp only [above, between, true_iff, false_iff] at further ⊢ <;>
      simp [Nat.even_add_one, further]

/-- Around a polygon a line is crossed an even number of times. -/
theorem even_countP_crosses (corners : List (ℚ × ℚ)) (line : ℚ) :
    Even ((edgesOf corners).countP (·.crosses line)) := by
  cases corners with
  | nil => exact Even.zero
  | cons first rest => exact (even_countP_path line first rest first).mpr Iff.rfl

theorem length_crossings (edges : List (Edge ℚ)) (line : ℚ) :
    (crossings edges line).length = edges.countP (·.crosses line) := by
  rw [(perm_crossings edges line).length_eq, List.length_map, List.countP_eq_length_filter]

theorem comesBefore_exact (first second : ℚ) :
    comesBefore first second = true ↔ first ≤ second := by
  unfold comesBefore
  rw [show Scalar.isUndefined second = false from rfl, Bool.or_false, decide_eq_true_eq]

theorem sorted_crossings (edges : List (Edge ℚ)) (line : ℚ) :
    (crossings edges line).Pairwise (· ≤ ·) :=
  @pairwise_crossings ℚ _ ℚ _ id comesBefore_exact edges line

/-! ### Pairs -/

theorem eq_nil_of_short {numbers : List ℚ} (even : Even numbers.length)
    (short : ∀ first second rest, numbers = first :: second :: rest → False) : numbers = [] := by
  cases numbers with
  | nil => rfl
  | cons first rest =>
    cases rest with
    | nil => exact absurd even Nat.not_even_one
    | cons second rest => exact absurd rfl (short first second rest)

/-- Nothing is left over when an even number of numbers is paired. -/
theorem flatMap_pairUp {numbers : List ℚ} (even : Even numbers.length) :
    (pairUp numbers).flatMap (fun pair => [pair.1, pair.2]) = numbers := by
  fun_induction pairUp numbers with
  | case1 first second rest inductionHypothesis =>
    rw [List.length_cons, List.length_cons, Nat.even_add_one, Nat.even_add_one, not_not] at even
    rw [List.flatMap_cons, inductionHypothesis even]
    rfl
  | case2 numbers short => exact (eq_nil_of_short even short).symm

/-- A number lies between the two of a pair just when it is one of all numbers or an odd number of
them is below it. -/
theorem exists_mem_pairUp_iff {numbers : List ℚ} (even : Even numbers.length)
    (sorted : numbers.Pairwise (· ≤ ·)) (center : ℚ) :
    (∃ pair ∈ pairUp numbers, pair.1 ≤ center ∧ center ≤ pair.2) ↔
      center ∈ numbers ∨ Odd (numbers.countP (· < center)) := by
  fun_induction pairUp numbers with
  | case1 first second rest inductionHypothesis =>
    rw [List.length_cons, List.length_cons, Nat.even_add_one, Nat.even_add_one, not_not] at even
    obtain ⟨leFirst, sortedRest⟩ := List.pairwise_cons.mp sorted
    obtain ⟨leSecond, sortedRest⟩ := List.pairwise_cons.mp sortedRest
    have ordered := leFirst second List.mem_cons_self
    rw [List.countP_cons, List.countP_cons]
    by_cases beyond : second < center
    · -- Both numbers of the pair are below and change nothing of what is odd.
      have below := ordered.trans_lt beyond
      rw [List.exists_mem_cons_iff, or_iff_right fun around => absurd beyond (not_lt.mpr around.2),
        inductionHypothesis even sortedRest, List.mem_cons, List.mem_cons, or_iff_right below.ne',
        or_iff_right beyond.ne', decide_eq_true below, decide_eq_true beyond, if_pos rfl,
        Nat.odd_add_one, Nat.odd_add_one, not_not]
    · -- All further numbers are above, so that only the first one of the pair counts.
      rw [not_lt] at beyond
      have none : rest.countP (· < center) = 0 := List.countP_eq_zero.mpr fun number known =>
        not_lt.mpr (beyond.trans (leSecond number known)) ∘ of_decide_eq_true
      rw [none, decide_eq_false (not_lt.mpr beyond)]
      constructor
      · rintro ⟨pair, paired, start, -⟩
        have reached : first ≤ center := by
          obtain rfl | inRest := List.mem_cons.mp paired
          · exact start
          · exact (leFirst _ (List.mem_cons_of_mem _ (mem_of_mem_pairUp inRest).1)).trans start
        obtain same | below := reached.eq_or_lt
        · exact Or.inl (same ▸ List.mem_cons_self)
        · exact Or.inr (by rw [decide_eq_true below]; exact odd_one)
      · intro counted
        refine ⟨_, List.mem_cons_self, ?_, beyond⟩
        by_contra before
        rw [not_le] at before
        obtain known | odd := counted
        · obtain rfl | known := List.mem_cons.mp known
          · exact lt_irrefl _ before
          · exact absurd (leFirst center known) (not_le.mpr before)
        · rw [decide_eq_false (not_lt.mpr before.le)] at odd
          exact absurd odd (by decide)
  | case2 numbers short =>
    rw [eq_nil_of_short even short]
    refine iff_of_false ?_ ?_
    · rintro ⟨pair, paired, -⟩
      cases paired
    · rintro (known | odd)
      · cases known
      · exact absurd odd Nat.not_odd_zero

/-! ### Columns -/

theorem half_exact : (Scalar.half : ℚ) = 1 / 2 := by
  show ((1 : ℤ) : ℚ) / ((2 : ℤ) : ℚ) = 1 / 2
  norm_num

theorem centerLine_exact (row : ℤ) : (centerLine row : ℚ) = row + 1 / 2 :=
  congrArg ((row : ℚ) + ·) half_exact

theorem toInt_down_exact (number : ℚ) : Scalar.toInt .down number = .ok ⌊number⌋ :=
  congrArg Except.ok ((quotient_down number.num number.den).trans
    (congrArg Int.floor (Rat.num_div_den number)))

theorem toInt_up_exact (number : ℚ) : Scalar.toInt .up number = .ok ⌈number⌉ :=
  congrArg Except.ok ((quotient_up number.num number.den_pos).trans
    (congrArg Int.ceil (Rat.num_div_den number)))

theorem columns_exact (chord : Chord ℚ) :
    chord.columns = .ok (⌈chord.left - 1 / 2⌉, ⌊chord.right - 1 / 2⌋) := by
  unfold Chord.columns spanBetween
  rw [half_exact, toInt_up_exact, toInt_down_exact]
  rfl

theorem isTold_exact (chord : Chord ℚ) : chord.isTold = true := by
  unfold Chord.isTold
  rw [columns_exact]
  rfl

/-- The box of a chord holds the pixels of its row whose centres lie on it. -/
theorem holds_chordBox_exact (canvas : Canvas) (chord : Chord ℚ) (row column : ℕ) :
    (canvas.chordBox chord).holds row column = true ↔
      (row < canvas.height ∧ column < canvas.width) ∧ chord.row = row ∧
        chord.left ≤ column + 1 / 2 ∧ (column : ℚ) + 1 / 2 ≤ chord.right := by
  rw [Canvas.holds_chordBox (columns_exact chord), Int.ceil_le, Int.le_floor, sub_le_iff_le_add,
    le_sub_iff_add_le, Int.cast_natCast]

/-! ### Rows -/

/-- A line that an edge crosses has a corner on or above it and one below it. -/
theorem exists_corners_of_crosses {corners : List (ℚ × ℚ)} {edge : Edge ℚ}
    (known : edge ∈ edgesOf corners) {line : ℚ} (crossed : edge.crosses line = true) :
    (∃ corner ∈ corners, corner.2 ≤ line) ∧ ∃ corner ∈ corners, line < corner.2 := by
  obtain ⟨first, firstMem, second, secondMem, rfl⟩ := ends_of_mem_edgesOf known
  simp only [Edge.crosses, Bool.or_eq_true, Bool.and_eq_true, decide_eq_true_eq] at crossed
  obtain ⟨above, below⟩ | ⟨above, below⟩ := crossed
  · exact ⟨⟨first, firstMem, above⟩, second, secondMem, below⟩
  · exact ⟨⟨second, secondMem, above⟩, first, firstMem, below⟩

/-- A row whose line is crossed is no further out than the corners. -/
theorem row_between {corners : List (ℚ × ℚ)} {edge : Edge ℚ} (known : edge ∈ edgesOf corners)
    {row : ℤ} (crossed : edge.crosses (centerLine row) = true) {highest lowest : ℚ}
    (bounds : ∀ corner ∈ corners, highest ≤ corner.2 ∧ corner.2 ≤ lowest) :
    ⌊highest⌋ ≤ row ∧ row ≤ ⌈lowest⌉ := by
  obtain ⟨⟨upper, upperMem, above⟩, lower, lowerMem, below⟩ :=
    exists_corners_of_crosses known crossed
  rw [centerLine_exact] at above below
  have top := (bounds upper upperMem).1.trans above
  have bottom := below.trans_le (bounds lower lowerMem).2
  have floor := Int.floor_le highest
  have ceil := Int.le_ceil lowest
  constructor
  · have next : (⌊highest⌋ : ℚ) < row + 1 := by linarith
    exact Int.lt_add_one_iff.mp (by exact_mod_cast next)
  · have last : (row : ℚ) < ⌈lowest⌉ := by linarith
    exact_mod_cast last.le

theorem rowRange_exact (height : ℕ) {rows : List ℚ} (some : rows ≠ []) :
    ∃ highest lowest : ℚ,
      rowRange height rows = .ok (max 0 ⌊highest⌋, min ((height : ℤ) - 1) ⌈lowest⌉) ∧
        ∀ row ∈ rows, highest ≤ row ∧ row ≤ lowest := by
  cases rows with
  | nil => exact absurd rfl some
  | cons first rest =>
    refine ⟨smallest first rest, largest first rest, ?_, fun row known =>
      ⟨(smallest_exact first rest).2 row known, (largest_exact first rest).2 row known⟩⟩
    unfold rowRange
    dsimp only
    rw [toInt_down_exact, toInt_up_exact]
    rfl

/-- The rows that are gone through are all in which a polygon has chords. -/
theorem chordsOf_exact (height : ℕ) {corners : List (ℚ × ℚ)} (enough : 3 ≤ corners.length) :
    ∃ chords, chordsOf height corners = .ok chords ∧ ∀ chord, chord ∈ chords ↔
      (0 ≤ chord.row ∧ chord.row < height) ∧ chord ∈ chordsOfRow (edgesOf corners) chord.row := by
  have some : corners.map Prod.snd ≠ [] := by
    rintro none
    rw [List.map_eq_nil_iff.mp none] at enough
    exact absurd enough (by decide)
  obtain ⟨highest, lowest, range, bounds⟩ := rowRange_exact height some
  refine ⟨chordsFrom (edgesOf corners) (min ((height : ℤ) - 1) ⌈lowest⌉ + 1 - max 0 ⌊highest⌋).toNat
    (max 0 ⌊highest⌋), ?_, fun chord => ?_⟩
  · unfold chordsOf
    rw [if_pos enough, range]
    rfl
  · rw [mem_chordsFrom_iff]
    refine and_congr_left fun inRow => ?_
    obtain ⟨edge, known, crossed⟩ := exists_crosses_of_mem inRow
    obtain ⟨first, last⟩ := row_between known crossed fun corner inCorners =>
      bounds _ (List.mem_map_of_mem inCorners)
    omega

/-! ### The even-odd rule -/

/-- A place on a line belongs to a polygon: it is where an edge crosses the line, or an odd number
of edges does so on its left. -/
def Encloses (corners : List (ℚ × ℚ)) (line place : ℚ) : Prop :=
  (∃ edge ∈ edgesOf corners, edge.crosses line = true ∧ edge.crossingAt line = place) ∨
    Odd ((edgesOf corners).countP fun edge =>
      edge.crosses line && decide (edge.crossingAt line < place))

theorem encloses_iff (corners : List (ℚ × ℚ)) (line place : ℚ) :
    Encloses corners line place ↔
      ∃ pair ∈ pairUp (crossings (edgesOf corners) line), pair.1 ≤ place ∧ place ≤ pair.2 := by
  have even : Even (crossings (edgesOf corners) line).length := by
    rw [length_crossings]
    exact even_countP_crosses corners line
  have perm := perm_crossings (edgesOf corners) line
  rw [exists_mem_pairUp_iff even (sorted_crossings _ _), perm.mem_iff, perm.countP_eq,
    List.countP_map, List.countP_filter]
  unfold Encloses
  simp only [List.mem_map, List.mem_filter, and_assoc, Function.comp_def, Bool.and_comm]

theorem exists_crosses_of_encloses {corners : List (ℚ × ℚ)} {line place : ℚ}
    (inside : Encloses corners line place) :
    ∃ edge ∈ edgesOf corners, edge.crosses line = true := by
  obtain ⟨edge, known, crossed, -⟩ | odd := inside
  · exact ⟨edge, known, crossed⟩
  · obtain ⟨edge, known, counted⟩ := List.countP_pos_iff.mp odd.pos
    exact ⟨edge, known, (Bool.and_eq_true_iff.mp counted).1⟩

namespace Canvas

/-- A pixel gets a coat just when it lies in the picture and the polygon encloses its centre. -/
theorem coats_pos_iff (canvas : Canvas) {corners : List (ℚ × ℚ)} (enough : 3 ≤ corners.length)
    (row column : ℕ) :
    0 < canvas.coats corners row column ↔ (row < canvas.height ∧ column < canvas.width) ∧
      Encloses corners (row + 1 / 2) (column + 1 / 2) := by
  obtain ⟨chords, equal, members⟩ := chordsOf_exact canvas.height enough
  have drawn : drawnChords canvas.height corners = chords := by
    unfold drawnChords
    rw [equal]
    exact List.takeWhile_eq_self_iff.mpr fun chord _ => isTold_exact chord
  have line : (centerLine row : ℚ) = row + 1 / 2 := centerLine_exact row
  unfold coats
  rw [drawn, List.countP_pos_iff, encloses_iff, ← line]
  constructor
  · rintro ⟨chord, known, held⟩
    obtain ⟨inside, same, start, stop⟩ := (holds_chordBox_exact canvas chord row column).mp held
    have inRow := ((members chord).mp known).2
    rw [same] at inRow
    exact ⟨inside, _, (mem_chordsOfRow_iff.mp inRow).2, start, stop⟩
  · rintro ⟨inside, pair, paired, start, stop⟩
    refine ⟨⟨row, pair.1, pair.2⟩, (members _).mpr ⟨?_, mem_chordsOfRow_iff.mpr ⟨rfl, paired⟩⟩,
      (holds_chordBox_exact canvas _ row column).mpr ⟨inside, rfl, start, stop⟩⟩
    dsimp only
    omega

/-- Filling does not give up. -/
theorem fillPolygonAt_exact (canvas : Canvas) {corners : List (ℚ × ℚ)}
    (enough : 3 ≤ corners.length) (color : Color) : ∃ filled,
      fillPolygonAt (corners.map Prod.fst) (corners.map Prod.snd) color canvas = .ok () filled := by
  obtain ⟨chords, equal, -⟩ := chordsOf_exact canvas.height enough
  rw [fillPolygonAt_corners, fillPolygon_eq]
  unfold chordSteps
  rw [equal]
  refine laySteps_of_told color fun step known => ?_
  obtain ⟨chord, -, rfl⟩ := List.mem_map.mp known
  unfold chordPatch
  rw [columns_exact]
  exact ⟨_, rfl⟩

/-- What filling a polygon does on a picture, when nothing is rounded. -/
structure FillsEvenOdd (canvas : Canvas) (corners : List (ℚ × ℚ)) : Prop where
  /-- Every line is crossed an even number of times, and no crossing is left over. -/
  even : ∀ line, Even ((edgesOf corners).countP (·.crosses line))
  perm : ∀ line, (crossings (edgesOf corners) line).Perm
    (((edgesOf corners).filter (·.crosses line)).map (·.crossingAt line))
  sorted : ∀ line, (crossings (edgesOf corners) line).Pairwise (· ≤ ·)
  paired : ∀ line, (pairUp (crossings (edgesOf corners) line)).flatMap
    (fun pair => [pair.1, pair.2]) = crossings (edgesOf corners) line
  /-- What a crossing is divided by is not zero, so that it lies on its edge. -/
  notLevel : ∀ line, ∀ edge ∈ edgesOf corners, edge.crosses line = true →
    edge.y1 - edge.y0 ≠ 0 ∧
      (edge.crossingAt line - edge.x0) * (edge.y1 - edge.y0) =
        (line - edge.y0) * (edge.x1 - edge.x0)
  /-- Every pixel gets its coats, whatever the colour. -/
  fills : ∀ color, ∃ filled : Canvas,
    fillPolygonAt (corners.map Prod.fst) (corners.map Prod.snd) color canvas = .ok () filled ∧
      filled.HasSize canvas.width canvas.height ∧
      ∀ row column, filled.pixelAt? row column =
        (canvas.pixelAt? row column).map ((Pixel.coat color)^[canvas.coats corners row column])
  /-- A pixel gets a coat just when its centre is enclosed. -/
  coats : ∀ row column : ℕ, 0 < canvas.coats corners row column ↔
    (row < canvas.height ∧ column < canvas.width) ∧
      Encloses corners (row + 1 / 2) (column + 1 / 2)
  /-- Above the corners and below them nothing changes. -/
  outside : ∀ (color : Color) (row column : ℕ),
    ((∀ corner ∈ corners, (row : ℚ) + 1 / 2 < corner.2) ∨
      ∀ corner ∈ corners, corner.2 ≤ (row : ℚ) + 1 / 2) →
    (fillPolygonAt (corners.map Prod.fst) (corners.map Prod.snd) color canvas).state.pixelAt?
      row column = canvas.pixelAt? row column

/-- Polygons are filled by the even-odd rule on every picture. -/
theorem fillsEvenOdd (canvas : Canvas) {corners : List (ℚ × ℚ)} (enough : 3 ≤ corners.length) :
    canvas.FillsEvenOdd corners := by
  have even (line : ℚ) : Even ((edgesOf corners).countP (·.crosses line)) :=
    even_countP_crosses corners line
  refine ⟨even, perm_crossings _, sorted_crossings _, fun line => flatMap_pairUp ?_,
    fun line edge _ crossed => crossingAt_exact crossed, fun color => ?_,
    canvas.coats_pos_iff enough, fun color row column beyond => ?_⟩
  · rw [length_crossings]
    exact even line
  · obtain ⟨filled, done⟩ := canvas.fillPolygonAt_exact enough color
    have sized := keeps_size_fillPolygon canvas.width canvas.height corners color canvas
      canvas.hasSize_self
    have pixels (row column : ℕ) := @pixelAt?_fillPolygonAt ℚ _ canvas corners color row column
    rw [← fillPolygonAt_corners, done] at sized
    rw [done] at pixels
    exact ⟨filled, done, sized, pixels⟩
  · rw [pixelAt?_fillPolygonAt]
    have none : canvas.coats corners row column = 0 := by
      by_contra some
      obtain ⟨-, inside⟩ := (canvas.coats_pos_iff enough row column).mp (Nat.pos_of_ne_zero some)
      obtain ⟨edge, known, crossed⟩ := exists_crosses_of_encloses inside
      obtain ⟨⟨upper, upperMem, above⟩, lower, lowerMem, below⟩ :=
        exists_corners_of_crosses known crossed
      obtain beyond | beyond := beyond
      · exact absurd (beyond upper upperMem) (not_lt.mpr above)
      · exact absurd (beyond lower lowerMem) (not_le.mpr below)
    rw [none, Function.iterate_zero, Option.map_id, id]

/-- A polygon that crosses itself, with a corner that comes twice and with a level edge on the line
of a row. -/
def bowTie : List (ℚ × ℚ) :=
  [(0, 0), (4, 3), (4, 3), (4, 0), (0, 3), (1, 5 / 2), (0, 5 / 2)]

theorem fillsEvenOdd_bowTie :
    3 ≤ bowTie.length ∧ (Canvas.filled 4 3 .clear).FillsEvenOdd bowTie :=
  ⟨by decide, fillsEvenOdd _ (by decide)⟩

end Canvas

end SeriesChart
