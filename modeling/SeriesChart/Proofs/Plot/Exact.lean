/-
This file tells what the scales of a plot do when they are computed with fractions, where nothing
is rounded. The extent covers all points, so each is shown inside the area; times run forward and
values upward. An extent without length and one around a single value meet in the middle of the
area, and the ticks of the values divide its height evenly.
-/

import SeriesChart.Plot.Scales
import SeriesChart.Plot.Ticks
import SeriesChart.Proofs.Number.Magnitude

namespace SeriesChart

/-! ### Extents -/

theorem magnitude_eq_abs (number : ℚ) : Scalar.magnitude number = |number| := by
  show (if number < 0 then -number else number) = |number|
  split
  · rename_i negative
    exact (abs_of_neg negative).symm
  · rename_i notNegative
    exact (abs_of_nonneg (not_lt.mp notNegative)).symm

namespace Extent

/-- The extent runs from the earliest time of points to the latest one, and over their values with
headroom below the lowest and above the highest one. -/
structure Spans (extent : Extent ℚ) (points : List (ℚ × ℚ)) (headroom lowest highest : ℚ) :
    Prop where
  hasEarliest : ∃ point ∈ points, point.1 = extent.minX
  hasLatest : ∃ point ∈ points, point.1 = extent.maxX
  times : ∀ point ∈ points, extent.minX ≤ point.1 ∧ point.1 ≤ extent.maxX
  hasLowest : ∃ point ∈ points, point.2 = lowest
  hasHighest : ∃ point ∈ points, point.2 = highest
  values : ∀ point ∈ points, lowest ≤ point.2 ∧ point.2 ≤ highest
  minY : extent.minY = lowest - |lowest| * headroom
  maxY : extent.maxY = highest + |highest| * headroom

theorem exists_spans {points : List (ℚ × ℚ)} (some : points ≠ []) (headroom : ℚ) :
    ∃ extent lowest highest, Extent.ofPoints points headroom = .some extent ∧
      extent.Spans points headroom lowest highest := by
  cases points with
  | nil => exact absurd rfl some
  | cons first rest =>
    obtain ⟨earliest, times⟩ := smallest_exact first.1 (rest.map Prod.fst)
    obtain ⟨latest, alsoTimes⟩ := largest_exact first.1 (rest.map Prod.fst)
    obtain ⟨lowest, values⟩ := smallest_exact first.2 (rest.map Prod.snd)
    obtain ⟨highest, alsoValues⟩ := largest_exact first.2 (rest.map Prod.snd)
    rw [← List.map_cons] at earliest times latest alsoTimes lowest values highest alsoValues
    refine ⟨_, _, _, rfl, List.mem_map.mp earliest, List.mem_map.mp latest, fun point known => ?_,
      List.mem_map.mp lowest, List.mem_map.mp highest, fun point known => ?_, ?_, ?_⟩
    · have isTime := List.mem_map_of_mem (f := Prod.fst) known
      exact ⟨times _ isTime, alsoTimes _ isTime⟩
    · have isValue := List.mem_map_of_mem (f := Prod.snd) known
      exact ⟨values _ isValue, alsoValues _ isValue⟩
    · rw [← magnitude_eq_abs]
    · rw [← magnitude_eq_abs]

theorem isFlatX_iff {extent : Extent ℚ} : extent.isFlatX = true ↔ extent.maxX = extent.minX :=
  decide_eq_true_iff

theorem isFlatY_iff {extent : Extent ℚ} : extent.isFlatY = true ↔ extent.maxY = extent.minY :=
  decide_eq_true_iff

namespace Spans

variable {extent : Extent ℚ} {points : List (ℚ × ℚ)} {headroom lowest highest : ℚ}
  (spans : extent.Spans points headroom lowest highest)

include spans

theorem minX_le_maxX : extent.minX ≤ extent.maxX := by
  obtain ⟨point, known, earliest⟩ := spans.hasEarliest
  rw [← earliest]
  exact (spans.times point known).2

theorem lowest_le_highest : lowest ≤ highest := by
  obtain ⟨point, known, same⟩ := spans.hasLowest
  rw [← same]
  exact (spans.values point known).2

/-- No headroom is taken away from the values. -/
theorem covers (nonneg : 0 ≤ headroom) {point : ℚ × ℚ} (known : point ∈ points) :
    extent.minY ≤ point.2 ∧ point.2 ≤ extent.maxY := by
  obtain ⟨above, below⟩ := spans.values point known
  have lowered := mul_nonneg (abs_nonneg lowest) nonneg
  have raised := mul_nonneg (abs_nonneg highest) nonneg
  rw [spans.minY, spans.maxY]
  constructor <;> linarith

theorem minY_le_maxY (nonneg : 0 ≤ headroom) : extent.minY ≤ extent.maxY := by
  obtain ⟨point, known, -⟩ := spans.hasLowest
  obtain ⟨above, below⟩ := spans.covers nonneg known
  exact above.trans below

/-- With some headroom only values that are all zero have no extent. -/
theorem flat_iff (positive : 0 < headroom) :
    extent.maxY = extent.minY ↔ ∀ point ∈ points, point.2 = 0 := by
  rw [spans.minY, spans.maxY]
  constructor
  · intro flat
    have ordered := spans.lowest_le_highest
    have lowered := mul_nonneg (abs_nonneg lowest) positive.le
    have raised := mul_nonneg (abs_nonneg highest) positive.le
    -- The two headrooms and the way between the extremes add up to nothing, so each is nothing.
    have notLowered : |lowest| * headroom = 0 := by linarith
    have notRaised : |highest| * headroom = 0 := by linarith
    have lowestZero := abs_eq_zero.mp ((mul_eq_zero_iff_right positive.ne').mp notLowered)
    have highestZero := abs_eq_zero.mp ((mul_eq_zero_iff_right positive.ne').mp notRaised)
    intro point known
    obtain ⟨above, below⟩ := spans.values point known
    linarith
  · intro zeros
    obtain ⟨point, known, lowestSame⟩ := spans.hasLowest
    obtain ⟨other, otherKnown, highestSame⟩ := spans.hasHighest
    rw [← lowestSame, ← highestSame, zeros point known, zeros other otherKnown, abs_zero]
    ring

/-- Around a single value there is as much headroom below as above. -/
theorem single {value : ℚ} (same : ∀ point ∈ points, point.2 = value) :
    extent.minY = value - |value| * headroom ∧ extent.maxY = value + |value| * headroom := by
  obtain ⟨point, known, lowestSame⟩ := spans.hasLowest
  obtain ⟨other, otherKnown, highestSame⟩ := spans.hasHighest
  rw [spans.minY, spans.maxY, ← lowestSame, ← highestSame, same point known,
    same other otherKnown]
  exact ⟨rfl, rfl⟩

end Spans

end Extent

/-! ### Scales -/

namespace Plot

variable {plot : Plot ℚ}

theorem columnOf_of_flat (flat : plot.extent.maxX = plot.extent.minX) (time : ℚ) :
    plot.columnOf time = plot.area.left + plot.area.width / 2 :=
  if_pos (Extent.isFlatX_iff.mpr flat)

theorem columnOf_of_ne (apart : plot.extent.maxX ≠ plot.extent.minX) (time : ℚ) :
    plot.columnOf time = plot.area.left +
      plot.area.width * (time - plot.extent.minX) / (plot.extent.maxX - plot.extent.minX) :=
  if_neg (mt Extent.isFlatX_iff.mp apart)

theorem rowOf_of_flat (flat : plot.extent.maxY = plot.extent.minY) (value : ℚ) :
    plot.rowOf value = plot.area.top + plot.area.height / 2 :=
  if_pos (Extent.isFlatY_iff.mpr flat)

theorem rowOf_of_ne (apart : plot.extent.maxY ≠ plot.extent.minY) (value : ℚ) :
    plot.rowOf value = plot.area.top + plot.area.height -
      plot.area.height * (value - plot.extent.minY) / (plot.extent.maxY - plot.extent.minY) :=
  if_neg (mt Extent.isFlatY_iff.mp apart)

/-- A proportion of a length is not negative and at most the length. -/
theorem proportion_mem {length low high number : ℚ} (nonneg : 0 ≤ length) (span : low < high)
    (above : low ≤ number) (below : number ≤ high) :
    0 ≤ length * (number - low) / (high - low) ∧
      length * (number - low) / (high - low) ≤ length := by
  have positive : 0 < high - low := sub_pos.mpr span
  constructor
  · exact div_nonneg (mul_nonneg nonneg (sub_nonneg.mpr above)) positive.le
  · rw [div_le_iff₀ positive]
    exact mul_le_mul_of_nonneg_left (sub_le_sub_right below low) nonneg

theorem columnOf_mem (wide : 0 ≤ plot.area.width) {time : ℚ} (above : plot.extent.minX ≤ time)
    (below : time ≤ plot.extent.maxX) :
    plot.area.left ≤ plot.columnOf time ∧
      plot.columnOf time ≤ plot.area.left + plot.area.width := by
  by_cases flat : plot.extent.maxX = plot.extent.minX
  · rw [columnOf_of_flat flat]
    constructor <;> linarith
  · have span := lt_of_le_of_ne (above.trans below) (Ne.symm flat)
    obtain ⟨least, most⟩ := proportion_mem wide span above below
    rw [columnOf_of_ne flat]
    constructor <;> linarith

theorem rowOf_mem (tall : 0 ≤ plot.area.height) {value : ℚ} (above : plot.extent.minY ≤ value)
    (below : value ≤ plot.extent.maxY) :
    plot.area.top ≤ plot.rowOf value ∧ plot.rowOf value ≤ plot.area.top + plot.area.height := by
  by_cases flat : plot.extent.maxY = plot.extent.minY
  · rw [rowOf_of_flat flat]
    constructor <;> linarith
  · have span := lt_of_le_of_ne (above.trans below) (Ne.symm flat)
    obtain ⟨least, most⟩ := proportion_mem tall span above below
    rw [rowOf_of_ne flat]
    constructor <;> linarith

theorem monotone_columnOf (wide : 0 ≤ plot.area.width)
    (ordered : plot.extent.minX ≤ plot.extent.maxX) : Monotone plot.columnOf := by
  intro first second before
  by_cases flat : plot.extent.maxX = plot.extent.minX
  · rw [columnOf_of_flat flat, columnOf_of_flat flat]
  · have positive : 0 ≤ plot.extent.maxX - plot.extent.minX := sub_nonneg.mpr ordered
    rw [columnOf_of_ne flat, columnOf_of_ne flat]
    gcongr

theorem strictAnti_rowOf (tall : 0 < plot.area.height)
    (span : plot.extent.minY < plot.extent.maxY) : StrictAnti plot.rowOf := by
  intro first second below
  have positive : 0 < plot.extent.maxY - plot.extent.minY := sub_pos.mpr span
  rw [rowOf_of_ne span.ne', rowOf_of_ne span.ne']
  gcongr

/-- The middle of an extent is shown in the middle of the area. -/
theorem rowOf_middle {value : ℚ} (centered : 2 * value = plot.extent.minY + plot.extent.maxY) :
    plot.rowOf value = plot.area.top + plot.area.height / 2 := by
  by_cases flat : plot.extent.maxY = plot.extent.minY
  · exact rowOf_of_flat flat value
  · have apart : plot.extent.maxY - plot.extent.minY ≠ 0 := sub_ne_zero.mpr flat
    have half : value - plot.extent.minY = (plot.extent.maxY - plot.extent.minY) / 2 := by linarith
    rw [rowOf_of_ne flat, half]
    field_simp
    ring

end Plot

/-! ### Ticks -/

/-- Evenly spaced fractions divide the way from one end to the other into equal parts. -/
theorem evenlySpaced_exact {start stop : ℚ} (apart : stop ≠ start) {count : ℕ}
    (several : 2 ≤ count) :
    evenlySpaced start stop count =
      (List.range count).map fun index : ℕ => start + (stop - start) * (index / (count - 1)) := by
  obtain ⟨gaps, rfl⟩ : ∃ gaps, count = gaps + 1 := ⟨count - 1, by omega⟩
  have nonzero : (gaps : ℚ) ≠ 0 := by
    have : gaps ≠ 0 := by omega
    exact_mod_cast this
  have divisor : (Scalar.ofInt ((gaps + 1 : ℕ) - 1) : ℚ) = gaps := by
    show ((((gaps + 1 : ℕ) : ℤ) - 1 : ℤ) : ℚ) = gaps
    push_cast
    ring
  have step : Scalar.same ((stop - start) / (gaps : ℚ)) Scalar.zero = false :=
    decide_eq_false (div_ne_zero (sub_ne_zero.mpr apart) nonzero)
  unfold evenlySpaced
  dsimp only
  rw [divisor, Nat.add_sub_cancel, List.range_succ, List.map_append, List.map_singleton, step]
  congr 2
  · funext index
    show (index : ℚ) * ((stop - start) / gaps) + start = _
    push_cast
    ring
  · push_cast
    rw [add_sub_cancel_right, div_self nonzero, mul_one, add_sub_cancel]

/-- The machine can hold so many ticks just when they take less memory than there is. -/
theorem check_ticks_iff {count : ℕ} (some : count ≠ 0) :
    ArrayForm.check ⟨.double, [(count : ℤ)]⟩ = .ok () ↔ 8 * count < ArrayForm.memoryLimit := by
  have size : ElementType.double.size = 8 := by decide
  have limits : ArrayForm.memoryLimit ≤ ArrayForm.sizeLimit := by decide
  have natAbs : (count : ℤ).natAbs = count := Int.natAbs_natCast count
  have bytes : ArrayForm.bytesWith 8 (count : ℤ) =
      if ArrayForm.sizeLimit ≤ 8 * count then .error (.invalid .arrayTooLarge)
      else .ok (8 * count) := by
    unfold ArrayForm.bytesWith
    rw [if_neg (by omega), if_neg (by omega), Int.toNat_natCast]
  have notMissing : (0 : ℤ) ∉ [(count : ℤ)] := by
    rw [List.mem_singleton]
    omega
  unfold ArrayForm.check ArrayForm.bytes
  simp only [List.any_cons, List.any_nil, Bool.or_false, natAbs, size, List.foldlM_cons,
    List.foldlM_nil, bytes, decide_eq_true_eq, notMissing, not_false_eq_true, and_true]
  constructor
  · intro held
    split at held
    · cases held
    · split at held
      · cases held
      · change (if ArrayForm.memoryLimit ≤ 8 * count then _ else Except.ok ()) = _ at held
        split at held
        · cases held
        · omega
  · intro fits
    rw [if_neg (by omega), if_neg (by omega)]
    exact if_neg (by omega)

theorem valueTicks_eq_ok_iff {extent : Extent ℚ} (apart : extent.maxY ≠ extent.minY) {count : ℕ}
    (some : count ≠ 0) :
    valueTicks extent count = .ok (extent.ticks count) ↔ 8 * count < ArrayForm.memoryLimit := by
  have limits : ArrayForm.memoryLimit ≤ ArrayForm.sizeLimit := by decide
  unfold valueTicks
  rw [if_neg (by omega), if_neg (mt Extent.isFlatY_iff.mp apart), Int.toNat_natCast,
    ← check_ticks_iff some]
  constructor
  · intro made
    split at made
    · cases made
    · cases held : ArrayForm.check ⟨.double, [(count : ℤ)]⟩ with
      | ok _ => rfl
      | error fault =>
        rw [held] at made
        cases made
  · intro held
    have fits := (check_ticks_iff some).mp held
    rw [held, if_neg (by omega)]
    rfl

/-- The ticks of an extent with some length are shown at even distances from the bottom of the area
to its top. -/
theorem Plot.map_rowOf_ticks {plot : Plot ℚ} (apart : plot.extent.maxY ≠ plot.extent.minY)
    {count : ℕ} (several : 2 ≤ count) :
    (plot.extent.ticks count).map plot.rowOf = (List.range count).map fun index : ℕ =>
      plot.area.top + plot.area.height - plot.area.height * (index / (count - 1)) := by
  have length : plot.extent.maxY - plot.extent.minY ≠ 0 := sub_ne_zero.mpr apart
  have made : plot.extent.ticks count = evenlySpaced plot.extent.minY plot.extent.maxY count := by
    refine if_neg ?_
    rw [Bool.or_eq_true, Extent.isFlatY_iff, decide_eq_true_eq]
    rintro (flat | single)
    · exact apart flat
    · omega
  rw [made, evenlySpaced_exact apart several, List.map_map]
  refine List.map_congr_left fun index _ => ?_
  show plot.rowOf _ = _
  rw [Plot.rowOf_of_ne apart, add_sub_cancel_left, mul_div_assoc, mul_div_cancel_left₀ _ length]

/-! ### Points -/

namespace Plot

/-- What a plot does for points that it was made to show, when nothing is rounded. -/
structure IsExact (plot : Plot ℚ) (points : List (ℚ × ℚ)) (headroom : ℚ) : Prop where
  /-- The extent covers the points. -/
  coversX : ∀ point ∈ points, plot.extent.minX ≤ point.1 ∧ point.1 ≤ plot.extent.maxX
  coversY : ∀ point ∈ points, plot.extent.minY ≤ point.2 ∧ point.2 ≤ plot.extent.maxY
  /-- The points are shown inside the area. -/
  insideX : ∀ point ∈ points, plot.area.left ≤ plot.columnOf point.1 ∧
    plot.columnOf point.1 ≤ plot.area.left + plot.area.width
  insideY : ∀ point ∈ points, plot.area.top ≤ plot.rowOf point.2 ∧
    plot.rowOf point.2 ≤ plot.area.top + plot.area.height
  /-- A later time is never shown farther left, and a higher value always farther up. -/
  forward : Monotone plot.columnOf
  upward : 0 < plot.area.height → plot.extent.isFlatY = false → StrictAnti plot.rowOf
  /-- With some headroom only zeros have no extent. -/
  isFlatY_iff : 0 < headroom →
    (plot.extent.isFlatY = true ↔ ∀ point ∈ points, point.2 = 0)
  /-- A single value is shown in the middle, and so is a single time. -/
  singleValue : ∀ value, (∀ point ∈ points, point.2 = value) →
    plot.rowOf value = plot.area.top + plot.area.height / 2
  singleTime : ∀ time, (∀ point ∈ points, point.1 = time) →
    plot.columnOf time = plot.area.left + plot.area.width / 2
  /-- Two ticks or more are shown at even distances from the bottom to the top, and the machine
  makes them if it can hold them. -/
  evenTicks : plot.extent.isFlatY = false → ∀ count : ℕ, 2 ≤ count →
    ((plot.extent.ticks count).map plot.rowOf = (List.range count).map fun index : ℕ =>
      plot.area.top + plot.area.height - plot.area.height * (index / (count - 1))) ∧
    (valueTicks plot.extent count = .ok (plot.extent.ticks count) ↔
      8 * count < ArrayForm.memoryLimit)

/-- Points in any order are shown exactly, with any headroom that takes nothing away and in any area
of a size that is not negative. -/
theorem ofPoints_isExact {points : List (ℚ × ℚ)} (some : points ≠ []) {headroom : ℚ}
    (nonneg : 0 ≤ headroom) {area : PlotArea ℚ} (wide : 0 ≤ area.width) (tall : 0 ≤ area.height) :
    ∃ plot, Plot.ofPoints points area headroom = .some plot ∧ plot.area = area ∧
      plot.IsExact points headroom := by
  obtain ⟨extent, lowest, highest, made, spans⟩ := Extent.exists_spans some headroom
  have ofPoints : Plot.ofPoints points area headroom = .some ⟨extent, area⟩ := by
    unfold Plot.ofPoints
    rw [made]
    rfl
  have notFlat (isFlatY : extent.isFlatY = false) : extent.maxY ≠ extent.minY :=
    of_decide_eq_false isFlatY
  refine ⟨⟨extent, area⟩, ofPoints, rfl, ?_⟩
  refine ⟨spans.times, fun point => spans.covers nonneg, fun point known => ?_,
    fun point known => ?_, monotone_columnOf wide spans.minX_le_maxX, fun positive isFlatY => ?_,
    fun positive => Extent.isFlatY_iff.trans (spans.flat_iff positive), fun value same => ?_,
    fun time same => ?_, fun isFlatY count several => ?_⟩
  · obtain ⟨above, below⟩ := spans.times point known
    exact columnOf_mem wide above below
  · obtain ⟨above, below⟩ := spans.covers nonneg known
    exact rowOf_mem tall above below
  · exact strictAnti_rowOf positive
      (lt_of_le_of_ne (spans.minY_le_maxY nonneg) (notFlat isFlatY).symm)
  · obtain ⟨minY, maxY⟩ := spans.single same
    refine rowOf_middle ?_
    rw [minY, maxY]
    ring
  · obtain ⟨point, known, earliest⟩ := spans.hasEarliest
    obtain ⟨other, otherKnown, latest⟩ := spans.hasLatest
    refine columnOf_of_flat ?_ time
    rw [← earliest, ← latest, same point known, same other otherKnown]
  · exact ⟨map_rowOf_ticks (notFlat isFlatY) several,
      valueTicks_eq_ok_iff (notFlat isFlatY) (by omega)⟩

/-- Two points with values below and above zero, the later one first. -/
theorem ofPoints_isExact_unordered :
    [((3 : ℚ), (-2 : ℚ)), (1, 5)] ≠ [] ∧ (0 : ℚ) ≤ 1 / 10 ∧ (0 : ℚ) ≤ 230 ∧ (0 : ℚ) ≤ 150 ∧
    ∃ plot, Plot.ofPoints [((3 : ℚ), (-2 : ℚ)), (1, 5)] ⟨50, 20, 230, 150⟩ (1 / 10) = .some plot ∧
      plot.area = ⟨50, 20, 230, 150⟩ ∧ plot.IsExact [((3 : ℚ), (-2 : ℚ)), (1, 5)] (1 / 10) :=
  ⟨by decide, by norm_num, by norm_num, by norm_num,
    ofPoints_isExact (by decide) (by norm_num) (by norm_num) (by norm_num)⟩

end Plot

end SeriesChart
