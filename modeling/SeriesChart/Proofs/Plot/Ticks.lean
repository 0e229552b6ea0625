/-
This file proves that the ticks of times are spread evenly over the numbers of the points. Each is
the ideal place of its tick, rounded down, and the ideal places lie one spacing apart. A spacing is
never less than one, so no point has two ticks; and two numbers that lie one spacing apart stay
apart by the spacing, rounded down or up, when they are rounded down themselves.
-/

import Mathlib
import SeriesChart.Plot.Ticks

namespace SeriesChart

/-! ### Ideal places -/

/-- How far the ideal places of two neighbouring ticks lie apart. A single tick has no neighbour. -/
def tickSpacing (length limit : ℤ) : ℚ := ((length - 1 : ℤ) : ℚ) / (min limit length - 1 : ℤ)

variable {length limit : ℤ}

/-- A quotient of whole numbers goes down to the whole number below the fraction. -/
theorem ediv_eq_floor (numerator : ℤ) {denominator : ℤ} (nonneg : 0 ≤ denominator) :
    numerator / denominator = ⌊(numerator : ℚ) / denominator⌋ := by
  lift denominator to ℕ using nonneg
  exact (Rat.floor_intCast_div_natCast numerator denominator).symm

/-- Every tick is its ideal place rounded down. -/
theorem timeTicks_eq (length limit : ℤ) :
    timeTicks length limit =
      (List.range (min limit length).toNat).map fun index : ℕ =>
        ⌊(index : ℚ) * tickSpacing length limit⌋ := by
  unfold timeTicks
  dsimp only
  split
  · rename_i none
    rw [Int.toNat_of_nonpos none, List.range_zero, List.map_nil]
  · split
    · rename_i one
      rw [one, Int.toNat_one, List.range_one, List.map_singleton, Nat.cast_zero, zero_mul,
        Int.floor_zero]
    · refine List.map_congr_left fun index _ => ?_
      rw [ediv_eq_floor _ (by omega), tickSpacing, ← mul_div_assoc]
      push_cast
      rfl

theorem length_timeTicks (length limit : ℤ) :
    (timeTicks length limit).length = (min limit length).toNat := by
  rw [timeTicks_eq, List.length_map, List.length_range]

theorem getElem_timeTicks {index : ℕ} (inside : index < (timeTicks length limit).length) :
    (timeTicks length limit)[index] = ⌊(index : ℚ) * tickSpacing length limit⌋ := by
  simp only [timeTicks_eq, List.getElem_map, List.getElem_range]

/-- There are not more ticks than points, so the spacing is not less than one. -/
theorem one_le_tickSpacing (some : 2 ≤ min limit length) : 1 ≤ tickSpacing length limit := by
  have gaps : (0 : ℚ) < (min limit length - 1 : ℤ) := Int.cast_pos.mpr (by omega)
  rw [tickSpacing, one_le_div gaps]
  exact Int.cast_le.mpr (by omega)

/-- As many spacings as there are gaps lead to the last point. -/
theorem gaps_mul_tickSpacing (some : 2 ≤ min limit length) :
    ((min limit length - 1 : ℤ) : ℚ) * tickSpacing length limit = (length - 1 : ℤ) :=
  mul_div_cancel₀ _ (Int.cast_ne_zero.mpr (by omega))

/-! ### Gaps -/

/-- One spacing further on, the whole number below a place has grown by the spacing, rounded down or
up. -/
theorem floor_add_sub_floor (place spacing : ℚ) :
    ⌊place + spacing⌋ - ⌊place⌋ = ⌊spacing⌋ ∨ ⌊place + spacing⌋ - ⌊place⌋ = ⌈spacing⌉ := by
  have least : ⌊place⌋ + ⌊spacing⌋ ≤ ⌊place + spacing⌋ := Int.le_floor_add place spacing
  have most : ⌊place + spacing⌋ ≤ ⌊place⌋ + ⌈spacing⌉ := by
    rw [← Int.floor_add_intCast]
    exact Int.floor_mono (by linarith [Int.le_ceil spacing])
  have near : ⌈spacing⌉ ≤ ⌊spacing⌋ + 1 := Int.ceil_le_floor_add_one spacing
  omega

theorem gap_eq {index : ℕ} (inside : index + 1 < (timeTicks length limit).length) :
    (timeTicks length limit)[index + 1] - (timeTicks length limit)[index] =
        ⌊tickSpacing length limit⌋ ∨
      (timeTicks length limit)[index + 1] - (timeTicks length limit)[index] =
        ⌈tickSpacing length limit⌉ := by
  rw [getElem_timeTicks, getElem_timeTicks, Nat.cast_succ, add_one_mul]
  exact floor_add_sub_floor _ _

/-! ### Even ticks -/

theorem getElem_timeTicks_lt {first second : ℕ} (order : first < second)
    (inside : second < (timeTicks length limit).length) :
    (timeTicks length limit)[first] < (timeTicks length limit)[second] := by
  have several : 2 ≤ min limit length := by
    rw [length_timeTicks] at inside
    omega
  have spacing := one_le_tickSpacing several
  have further : (first : ℚ) + 1 ≤ second := by exact_mod_cast order
  rw [getElem_timeTicks, getElem_timeTicks, Int.lt_iff_add_one_le, ← Int.floor_add_one]
  refine Int.floor_mono ?_
  calc (first : ℚ) * tickSpacing length limit + 1
      ≤ first * tickSpacing length limit + tickSpacing length limit := by linarith
    _ = ((first : ℚ) + 1) * tickSpacing length limit := by ring
    _ ≤ second * tickSpacing length limit := mul_le_mul_of_nonneg_right further (by linarith)

/-- The last of several ticks stands at the last point. -/
theorem getElem_timeTicks_last {index : ℕ} (several : 2 ≤ (timeTicks length limit).length)
    (last : index + 1 = (timeTicks length limit).length) :
    (timeTicks length limit)[index] = length - 1 := by
  have count := length_timeTicks length limit
  have gaps : (index : ℤ) = min limit length - 1 := by omega
  rw [getElem_timeTicks, ← Int.cast_natCast, gaps, gaps_mul_tickSpacing (by omega),
    Int.floor_intCast]

/-- The numbers of the points whose times have ticks are numbers of points. -/
theorem bounds_of_mem_timeTicks {index : ℤ} (known : index ∈ timeTicks length limit) :
    0 ≤ index ∧ index < length := by
  obtain ⟨place, inside, rfl⟩ := List.getElem_of_mem known
  have count := length_timeTicks length limit
  obtain one | several : (timeTicks length limit).length = 1 ∨
      2 ≤ (timeTicks length limit).length := by omega
  · obtain rfl : place = 0 := by omega
    rw [getElem_timeTicks, Nat.cast_zero, zero_mul, Int.floor_zero]
    omega
  · have spacing : 1 ≤ tickSpacing length limit := one_le_tickSpacing (by omega)
    have nonneg : 0 ≤ (timeTicks length limit)[place] := by
      rw [getElem_timeTicks]
      exact Int.floor_nonneg.mpr (mul_nonneg (Nat.cast_nonneg _) (by linarith))
    refine ⟨nonneg, ?_⟩
    obtain before | last : place + 1 < (timeTicks length limit).length ∨
        place + 1 = (timeTicks length limit).length := by omega
    · obtain ⟨last, isLast⟩ : ∃ last, last + 1 = (timeTicks length limit).length :=
        ⟨_, Nat.sub_add_cancel (by omega)⟩
      have ordered : (timeTicks length limit)[place] < (timeTicks length limit)[last] :=
        getElem_timeTicks_lt (by omega) (by omega)
      rw [getElem_timeTicks_last several isLast] at ordered
      omega
    · rw [getElem_timeTicks_last several last]
      omega

/-- Points that are not too many all have their ticks. -/
theorem timeTicks_of_le (few : length ≤ limit) :
    timeTicks length limit = (List.range length.toNat).map fun index : ℕ => (index : ℤ) := by
  rw [timeTicks_eq, min_eq_right few]
  refine List.map_congr_left fun index inside => ?_
  have below := List.mem_range.mp inside
  obtain one | several : length = 1 ∨ 2 ≤ length := by omega
  · obtain rfl : index = 0 := by omega
    rw [Nat.cast_zero, zero_mul, Int.floor_zero, Nat.cast_zero]
  · have gaps : ((length - 1 : ℤ) : ℚ) ≠ 0 := Int.cast_ne_zero.mpr (by omega)
    rw [tickSpacing, min_eq_right few, div_self gaps, mul_one, Int.floor_natCast]

/-- Ticks are spread evenly over so many points, up to a limit of ticks. -/
structure SpreadEvenly (length limit : ℤ) (ticks : List ℤ) : Prop where
  length_eq : (ticks.length : ℤ) = max 0 (min length limit)
  increasing : ticks.Pairwise (· < ·)
  bounds : ∀ tick ∈ ticks, 0 ≤ tick ∧ tick ≤ length - 1
  first : 1 ≤ ticks.length → ticks.head? = some 0
  last : 2 ≤ ticks.length → ticks.getLast? = some (length - 1)
  gaps : ∀ (index : ℕ) (inside : index + 1 < ticks.length),
    ticks[index + 1] - ticks[index] = ⌊((length : ℚ) - 1) / ((ticks.length : ℚ) - 1)⌋ ∨
      ticks[index + 1] - ticks[index] = ⌈((length : ℚ) - 1) / ((ticks.length : ℚ) - 1)⌉
  even : ∀ (first second : ℕ) (firstInside : first + 1 < ticks.length)
    (secondInside : second + 1 < ticks.length),
    |(ticks[first + 1] - ticks[first]) - (ticks[second + 1] - ticks[second])| ≤ 1
  all : length ≤ limit → ∀ index, 0 ≤ index → index < length → ticks.count index = 1

/-- The ticks of times are spread evenly over the points of a series of any length, whatever the
limit. -/
theorem timeTicks_spreadEvenly (length limit : ℤ) :
    SpreadEvenly length limit (timeTicks length limit) where
  length_eq := by
    rw [length_timeTicks]
    omega
  increasing := List.pairwise_iff_getElem.mpr fun first second _ inside order =>
    getElem_timeTicks_lt order inside
  bounds tick known := by
    obtain ⟨nonneg, below⟩ := bounds_of_mem_timeTicks known
    omega
  first some := by
    rw [List.head?_eq_getElem?, List.getElem?_eq_getElem some, getElem_timeTicks, Nat.cast_zero,
      zero_mul, Int.floor_zero]
  last several := by
    rw [List.getLast?_eq_getElem?, List.getElem?_eq_getElem (by omega),
      getElem_timeTicks_last several (by omega)]
  gaps index inside := by
    have count := length_timeTicks length limit
    have whole : ((timeTicks length limit).length : ℤ) = min limit length := by omega
    have spacing : tickSpacing length limit =
        ((length : ℚ) - 1) / (((timeTicks length limit).length : ℚ) - 1) := by
      rw [tickSpacing, ← whole]
      push_cast
      rfl
    rw [← spacing]
    exact gap_eq inside
  even first second firstInside secondInside := by
    have firstGap := gap_eq firstInside
    have secondGap := gap_eq secondInside
    have floorLe := Int.floor_le_ceil (tickSpacing length limit)
    have ceilLe := Int.ceil_le_floor_add_one (tickSpacing length limit)
    rw [abs_le]
    omega
  all few index nonneg below := by
    lift index to ℕ using nonneg
    rw [timeTicks_of_le few]
    refine List.count_eq_one_of_mem (List.Nodup.map Nat.cast_injective List.nodup_range) ?_
    exact List.mem_map_of_mem (List.mem_range.mpr (by omega))

/-- Of a hundred points seven have ticks. -/
example : timeTicks 100 = [0, 16, 33, 49, 66, 82, 99] := by decide

end SeriesChart
