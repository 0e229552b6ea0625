/-
This file bounds what the results of computing with floats are worth. A float within a
size is finite and worth at most that power of two, and the four operations take floats
within sizes to floats within sizes. A quotient stays small when its dividend is small
beside its divisor, however small both are.
-/

import SeriesChart.Number.Extremes
import SeriesChart.Proofs.Number.Nearness

namespace SeriesChart

open Float.Model UnpackedFloat

/-! ### The sizes of floats -/

/-- The least exponent of a float. -/
def leastExponent : ℤ := -1074

/-- Numbers of this size have room among the floats. -/
def roomSize : ℤ := 1022

/-- Numbers of this size and smaller ones have the least last place. -/
def smallSize : ℤ := -1022

/-! ### Near floats -/

/-- The float is as near to a number as its size allows. -/
structure IsClose (number : Float) (exact : ℚ) : Prop where
  finite : number.isFinite = true
  le : ∀ bound, IsRepresentable Format.binary64 bound → exact ≤ bound → worth number ≤ bound
  ge : ∀ bound, IsRepresentable Format.binary64 bound → bound ≤ exact → bound ≤ worth number
  near : ∀ size : ℤ, smallSize ≤ size → |exact| ≤ 2 ^ size →
    |worth number - exact| < 2 ^ (size - 52)

/-- The float is what becomes of a number. Numbers that are too large become infinities. -/
def IsNear (number : Float) (exact : ℚ) : Prop :=
  IsClose number exact ∨ number.isInf = true ∧ 2 ^ roomSize < |exact|

theorem IsNear.isClose {number : Float} {exact : ℚ} (near : IsNear number exact)
    (small : |exact| ≤ 2 ^ roomSize) : IsClose number exact :=
  near.resolve_right fun large => absurd small (not_le.mpr large.2)

theorem isNear_packed {parts : UnpackedFloat} {exact : ℚ}
    (near : IsNearParts Format.binary64 parts exact) : IsNear (.ofModel (.pack parts)) exact := by
  by_cases room : HasRoom Format.binary64 parts
  · have same : (Float.Model.pack parts).unpack = parts := unpack_pack near.lowest room
    have worths : worth (.ofModel (.pack parts)) = partsWorth parts := congrArg partsWorth same
    refine Or.inl ⟨(congrArg UnpackedFloat.isFinite same).trans near.finite, ?_, ?_, ?_⟩ <;>
      rw [worths]
    · exact near.le
    · exact near.ge
    · exact near.near
  · exact Or.inr ⟨isInf_pack room, not_le.mp fun small => room (near.room (by decide) small)⟩

section Operations

variable {first second : Float} (finite : first.isFinite = true)
  (otherFinite : second.isFinite = true)

include finite otherFinite

theorem isNear_add : IsNear (first + second) (worth first + worth second) :=
  isNear_packed (isNearParts_add (isLowest first) (isLowest second) (hasRoom first) (hasRoom second)
    finite otherFinite)

theorem isNear_sub : IsNear (first - second) (worth first - worth second) :=
  isNear_packed (isNearParts_sub (isLowest first) (isLowest second) (hasRoom first) (hasRoom second)
    finite otherFinite)

theorem isNear_mul : IsNear (first * second) (worth first * worth second) :=
  isNear_packed (isNearParts_mul (isLowest first) (isLowest second) finite otherFinite)

theorem isNear_div (nonzero : worth second ≠ 0) :
    IsNear (first / second) (worth first / worth second) :=
  isNear_packed (isNearParts_div (isLowest first) (isLowest second) finite otherFinite nonzero)

end Operations

/-! ### Numbers that can be represented -/

theorem isRepresentable_worth (number : Float) :
    IsRepresentable Format.binary64 (worth number) :=
  isRepresentable_parts (isLowest number)

/-- The number is a whole number of places. -/
def IsMultiple (place : ℤ) (number : ℚ) : Prop := ∃ whole : ℤ, number = whole * 2 ^ place

section Multiples

variable {place : ℤ}

theorem isMultiple_of_abs {mantissa : ℕ} {exponent : ℤ} {number : ℚ} (ordered : place ≤ exponent)
    (equal : |number| = mantissa * 2 ^ exponent) : IsMultiple place number := by
  have power : (2 : ℚ) ^ exponent = 2 ^ (exponent - place).toNat * 2 ^ place := by
    rw [← zpow_natCast, ← two_zpow_add]
    congr 1
    omega
  rw [power] at equal
  rcases abs_choice number with same | opposite
  · refine ⟨mantissa * 2 ^ (exponent - place).toNat, ?_⟩
    rw [← same, equal]
    push_cast
    ring
  · refine ⟨-(mantissa * 2 ^ (exponent - place).toNat), ?_⟩
    rw [← neg_neg number, ← opposite, equal]
    push_cast
    ring

theorem isMultiple_worth (number : Float) : IsMultiple leastExponent (worth number) := by
  obtain ⟨mantissa, exponent, _, least, equal⟩ := isRepresentable_worth number
  exact isMultiple_of_abs least equal

theorem IsMultiple.add {first second : ℚ} (multiple : IsMultiple place first)
    (otherMultiple : IsMultiple place second) : IsMultiple place (first + second) := by
  obtain ⟨whole, rfl⟩ := multiple
  obtain ⟨other, rfl⟩ := otherMultiple
  exact ⟨whole + other, by push_cast; ring⟩

theorem IsMultiple.sub {first second : ℚ} (multiple : IsMultiple place first)
    (otherMultiple : IsMultiple place second) : IsMultiple place (first - second) := by
  obtain ⟨whole, rfl⟩ := multiple
  obtain ⟨other, rfl⟩ := otherMultiple
  exact ⟨whole - other, by push_cast; ring⟩

/-- A whole number of places that is no zero is one place at least. -/
theorem IsMultiple.place_le {number : ℚ} (multiple : IsMultiple place number)
    (nonzero : number ≠ 0) : 2 ^ place ≤ |number| := by
  obtain ⟨whole, rfl⟩ := multiple
  have positive : 1 ≤ |whole| := Int.one_le_abs fun zero => nonzero (by rw [zero]; simp)
  rw [abs_mul, abs_of_pos (two_zpow_pos _)]
  exact le_mul_of_one_le_left (two_zpow_pos _).le (by exact_mod_cast positive)

end Multiples

/-- A float that is not worth zero has a mantissa that fills its places, unless its exponent is the
least one. -/
theorem abs_worth_eq (number : Float) : worth number = 0 ∨ ∃ (mantissa : ℕ) (exponent : ℤ),
    mantissa < 2 ^ 53 ∧ (2 ^ 52 ≤ mantissa ∨ exponent = leastExponent) ∧
      |worth number| = mantissa * 2 ^ exponent := by
  unfold worth
  have lowest := isLowest number
  generalize number.toModel.unpack = parts at lowest
  cases lowest with
  | notANumber | infinity | zero => exact Or.inl rfl
  | finite sign mantissa exponent positive fits least filled =>
    exact Or.inr
      ⟨mantissa, exponent, fits, filled, abs_worth_finite sign mantissa exponent positive⟩

/-- A number of few bits whose last place is small is small itself. -/
theorem abs_le_of_place_lt {number : ℚ} {mantissa : ℕ} {place exponent : ℤ}
    (fits : mantissa < 2 ^ 53) (below : place < exponent - 1)
    (equal : |number| = mantissa * 2 ^ place) : |number| ≤ 2 ^ 51 * 2 ^ exponent := by
  have quarter : (2 : ℚ) ^ place ≤ 2 ^ (exponent - 2) := two_zpow_le (by omega)
  have fourth : (2 : ℚ) ^ exponent = 4 * 2 ^ (exponent - 2) := by
    rw [zpow_sub₀ (by norm_num)]
    norm_num
    ring
  have bits : (mantissa : ℚ) ≤ 2 ^ 53 := by exact_mod_cast fits.le
  rw [equal, fourth]
  calc (mantissa * 2 ^ place : ℚ)
      ≤ 2 ^ 53 * 2 ^ (exponent - 2) := mul_le_mul bits quarter (two_zpow_pos _).le (by norm_num)
    _ = 2 ^ 51 * (4 * 2 ^ (exponent - 2)) := by ring

/-- Floats that are worth different numbers are half a last place of each of them apart. -/
theorem half_place_le_of_ne {first second : Float} {mantissa : ℕ} {exponent : ℤ}
    (different : worth first ≠ worth second)
    (filled : 2 ^ 52 ≤ mantissa ∨ exponent = leastExponent)
    (equal : |worth first| = mantissa * 2 ^ exponent) :
    2 ^ (exponent - 1) ≤ |worth first - worth second| := by
  obtain ⟨other, otherExponent, otherFits, otherLeast, otherEqual⟩ := isRepresentable_worth second
  change other < 2 ^ 53 at otherFits
  change leastExponent ≤ otherExponent at otherLeast
  by_cases ordered : exponent - 1 ≤ otherExponent
  · have halves := (isMultiple_of_abs (by omega) equal).sub (isMultiple_of_abs ordered otherEqual)
    exact halves.place_le (sub_ne_zero.mpr different)
  · -- The second float has smaller places, so it is at most half as large as the first one.
    have full : 2 ^ 52 ≤ mantissa := filled.resolve_right (by omega)
    have large : 2 ^ 52 * 2 ^ exponent ≤ |worth first| := by
      rw [equal]
      exact mul_le_mul_of_nonneg_right (by exact_mod_cast full) (two_zpow_pos exponent).le
    have small : |worth second| ≤ 2 ^ 51 * 2 ^ exponent :=
      abs_le_of_place_lt otherFits (by omega) otherEqual
    have triangle := abs_sub_abs_le_abs_sub (worth first) (worth second)
    have half : (2 : ℚ) ^ (exponent - 1) ≤ 2 ^ exponent := two_zpow_le (by omega)
    linarith [two_zpow_pos exponent]

/-- Floats that are worth different numbers are not much closer than their last places. -/
theorem abs_worth_le_of_ne {first second : Float} (different : worth first ≠ worth second) :
    |worth first| ≤ 2 ^ 54 * |worth first - worth second| := by
  obtain zero | ⟨mantissa, exponent, fits, filled, equal⟩ := abs_worth_eq first
  · rw [zero, abs_zero]
    positivity
  · have apart := half_place_le_of_ne different filled equal
    have below : |worth first| ≤ 2 ^ 53 * 2 ^ exponent := by
      rw [equal]
      exact mul_le_mul_of_nonneg_right (by exact_mod_cast fits.le) (two_zpow_pos exponent).le
    have half : (2 : ℚ) ^ exponent = 2 * 2 ^ (exponent - 1) := by
      rw [← zpow_one_add₀ (by norm_num), add_sub_cancel]
    rw [half] at below
    linarith

/-! ### How far a near float may be away -/

namespace IsClose

variable {number : Float} {exact : ℚ} (close : IsClose number exact)

include close

theorem abs_worth_le {bound : ℚ} (representable : IsRepresentable Format.binary64 bound)
    (small : |exact| ≤ bound) :
    |worth number| ≤ bound := by
  obtain ⟨below, above⟩ := abs_le.mp small
  exact abs_le.mpr ⟨close.ge _ (isRepresentable_neg representable) below,
    close.le _ representable above⟩

/-- A number that is not one of the smallest is met up to a small part of it. -/
theorem error_of_large (large : 2 ^ smallSize < |exact|) :
    |worth number - exact| ≤ |exact| / 2 ^ 51 := by
  obtain ⟨size, below, above⟩ := exists_mem_Ioc_zpow ((two_zpow_pos _).trans large)
    (by norm_num : (1 : ℚ) < 2)
  have least : smallSize < size + 1 :=
    (zpow_lt_zpow_iff_right₀ (by norm_num : (1 : ℚ) < 2)).mp (large.trans_le above)
  refine (close.near (size + 1) least.le above).le.trans ?_
  rw [show size + 1 - 52 = size - 51 by omega, zpow_sub₀ (by norm_num)]
  exact div_le_div_of_nonneg_right below.le (by norm_num)

/-- A multiple of the least place is met up to a small part of it. -/
theorem error_of_isMultiple (multiple : IsMultiple leastExponent exact) :
    |worth number - exact| ≤ |exact| / 2 ^ 51 := by
  by_cases large : 2 ^ smallSize < |exact|
  · exact close.error_of_large large
  · -- Two multiples of the least place that are less than it apart are the same.
    have apart : |worth number - exact| < 2 ^ leastExponent :=
      close.near smallSize (le_refl _) (not_lt.mp large)
    have same : worth number - exact = 0 := by
      by_contra different
      exact absurd (((isMultiple_worth number).sub multiple).place_le different) (not_le.mpr apart)
    rw [same, abs_zero]
    positivity

theorem half_le (multiple : IsMultiple leastExponent exact) : |exact| ≤ 2 * |worth number| := by
  have error := close.error_of_isMultiple multiple
  have triangle := abs_sub_abs_le_abs_sub exact (worth number)
  rw [abs_sub_comm] at triangle
  have part : |exact| / 2 ^ 51 ≤ |exact| / 2 := by
    refine div_le_div_of_nonneg_left (abs_nonneg _) (by norm_num) (by norm_num)
  linarith

theorem le_double (multiple : IsMultiple leastExponent exact) : |worth number| ≤ 2 * |exact| := by
  have error := close.error_of_isMultiple multiple
  have triangle := abs_sub_abs_le_abs_sub (worth number) exact
  have part : |exact| / 2 ^ 51 ≤ |exact| :=
    div_le_self (abs_nonneg _) (by norm_num)
  linarith

/-- Any number is met up to a double of it and the least place. -/
theorem le_double_add : |worth number| ≤ 2 * |exact| + 2 ^ leastExponent := by
  have triangle := abs_sub_abs_le_abs_sub (worth number) exact
  have positive := two_zpow_pos leastExponent
  have nonnegative := abs_nonneg exact
  by_cases large : 2 ^ smallSize < |exact|
  · have error := close.error_of_large large
    have part : |exact| / 2 ^ 51 ≤ |exact| := div_le_self nonnegative (by norm_num)
    linarith
  · have apart : |worth number - exact| < 2 ^ leastExponent :=
      close.near smallSize (le_refl _) (not_lt.mp large)
    linarith

end IsClose

/-! ### Floats within sizes -/

/-- The float is finite and worth at most a power of two. -/
structure Within (size : ℤ) (number : Float) : Prop where
  finite : number.isFinite = true
  le : |worth number| ≤ 2 ^ size

theorem Within.mono {size larger : ℤ} {number : Float} (within : Within size number)
    (ordered : size ≤ larger) : Within larger number :=
  ⟨within.finite, within.le.trans (two_zpow_le ordered)⟩

/-- What becomes of a number within a size is within that size. -/
theorem IsNear.within {number : Float} {exact : ℚ} (near : IsNear number exact) {size : ℤ}
    (small : |exact| ≤ 2 ^ size) (least : leastExponent ≤ size) (largest : size ≤ roomSize) :
    Within size number := by
  have close := near.isClose (small.trans (two_zpow_le largest))
  exact ⟨close.finite, close.abs_worth_le (isRepresentable_two_zpow least) small⟩

section Within

variable {first second : Float} {size other : ℤ}

theorem abs_add_le_of_within (within : Within size first) (otherWithin : Within size second)
    (largest : size ≤ 1000) : |worth first + worth second| ≤ 2 ^ roomSize := by
  have sum := (abs_add_le (worth first) (worth second)).trans
    (add_le_add within.le otherWithin.le)
  have room : (2 : ℚ) ^ size + 2 ^ size ≤ 2 ^ roomSize := by
    rw [← two_mul, ← zpow_one_add₀ (by norm_num)]
    exact two_zpow_le (by unfold roomSize; omega)
  exact sum.trans room

theorem abs_sub_le_of_within (within : Within size first) (otherWithin : Within size second)
    (largest : size ≤ 1000) : |worth first - worth second| ≤ 2 ^ roomSize := by
  have sum := (abs_sub (worth first) (worth second)).trans
    (add_le_add within.le otherWithin.le)
  have room : (2 : ℚ) ^ size + 2 ^ size ≤ 2 ^ roomSize := by
    rw [← two_mul, ← zpow_one_add₀ (by norm_num)]
    exact two_zpow_le (by unfold roomSize; omega)
  exact sum.trans room

theorem within_add (within : Within size first) (otherWithin : Within size second)
    (least : -1000 ≤ size) (largest : size ≤ 1000) : Within (size + 1) (first + second) := by
  refine (isNear_add within.finite otherWithin.finite).within ?_
    (by unfold leastExponent; omega) (by unfold roomSize; omega)
  rw [two_zpow_add, zpow_one]
  exact (abs_add_le _ _).trans (by linarith [within.le, otherWithin.le])

theorem within_sub (within : Within size first) (otherWithin : Within size second)
    (least : -1000 ≤ size) (largest : size ≤ 1000) : Within (size + 1) (first - second) := by
  refine (isNear_sub within.finite otherWithin.finite).within ?_
    (by unfold leastExponent; omega) (by unfold roomSize; omega)
  rw [two_zpow_add, zpow_one]
  exact (abs_sub _ _).trans (by linarith [within.le, otherWithin.le])

theorem within_mul (within : Within size first) (otherWithin : Within other second)
    (least : -1000 ≤ size + other) (largest : size + other ≤ 1000) :
    Within (size + other) (first * second) := by
  refine (isNear_mul within.finite otherWithin.finite).within ?_
    (by unfold leastExponent; omega) (by unfold roomSize; omega)
  rw [abs_mul, two_zpow_add]
  exact mul_le_mul within.le otherWithin.le (abs_nonneg _) (two_zpow_pos _).le

/-- A quotient is within a size by which the divisor is at least as large as the dividend. -/
theorem within_div (finite : first.isFinite = true) (otherFinite : second.isFinite = true)
    (nonzero : worth second ≠ 0) (ratio : |worth first| ≤ 2 ^ size * |worth second|)
    (least : -1000 ≤ size) (largest : size ≤ 1000) : Within size (first / second) := by
  refine (isNear_div finite otherFinite nonzero).within ?_
    (by unfold leastExponent; omega) (by unfold roomSize; omega)
  rw [abs_div, div_le_iff₀ (abs_pos.mpr nonzero)]
  exact ratio

/-- A divisor of a power of two or more takes that power off the size. -/
theorem within_div_of_le (shift : ℤ) (within : Within (size + shift) first)
    (otherFinite : second.isFinite = true) (large : 2 ^ shift ≤ worth second)
    (least : -1000 ≤ size) (largest : size ≤ 1000) : Within size (first / second) := by
  have positive : 0 < worth second := (two_zpow_pos shift).trans_le large
  refine within_div within.finite otherFinite positive.ne' ?_ least largest
  rw [abs_of_pos positive]
  calc |worth first| ≤ 2 ^ size * 2 ^ shift := two_zpow_add size shift ▸ within.le
    _ ≤ 2 ^ size * worth second := mul_le_mul_of_nonneg_left large (two_zpow_pos size).le

/-- Beside an infinity a finite float is nothing. -/
theorem within_div_of_isInf (finite : first.isFinite = true) (infinite : second.isInf = true)
    (size : ℤ) : Within size (first / second) := by
  change first.toModel.unpack.isFinite = true at finite
  change second.toModel.unpack.isInf = true at infinite
  have nothing : ∃ sign, first.toModel.unpack.div Format.binary64 second.toModel.unpack =
      .zero sign := by
    generalize first.toModel.unpack = parts at finite
    generalize second.toModel.unpack = others at infinite
    cases others with
    | notANumber | zero | finite => cases infinite
    | infinity =>
      cases parts with
      | notANumber | infinity => cases finite
      | zero | finite => exact ⟨_, rfl⟩
  obtain ⟨sign, equal⟩ := nothing
  have same : (first / second).toModel.unpack = .zero sign := by
    show (Float.Model.pack
      (first.toModel.unpack.div Format.binary64 second.toModel.unpack)).unpack = _
    rw [equal]
    exact unpack_pack (.zero sign) trivial
  refine ⟨congrArg UnpackedFloat.isFinite same, ?_⟩
  unfold worth
  rw [same, partsWorth_zero, abs_zero]
  exact (two_zpow_pos size).le

end Within

/-- What became of a number is divided by what is not much smaller than the number. -/
theorem IsNear.within_div {product divisor : Float} {exact : ℚ} {ratio : ℤ}
    (near : IsNear product exact) (bounded : |exact| ≤ 2 ^ roomSize)
    (finite : divisor.isFinite = true) (nonzero : worth divisor ≠ 0) (least : 0 ≤ ratio)
    (largest : ratio ≤ 990) (small : |exact| ≤ 2 ^ ratio * |worth divisor|) :
    Within (ratio + 2) (product / divisor) := by
  have close := near.isClose bounded
  refine SeriesChart.within_div close.finite finite nonzero ?_ (by omega) (by omega)
  -- The product gains at most the least place, which is no larger than the divisor.
  have place := (isMultiple_worth divisor).place_le nonzero
  have scale : (1 : ℚ) ≤ 2 ^ ratio := one_le_zpow₀ (by norm_num) least
  have gained := close.le_double_add
  have unit : |worth divisor| ≤ 2 ^ ratio * |worth divisor| :=
    le_mul_of_one_le_left (abs_nonneg _) scale
  have four : (2 : ℚ) ^ (2 : ℤ) = 4 := by norm_num
  rw [two_zpow_add, four]
  linarith [abs_nonneg (worth divisor)]

/-- A length in proportion: what one step is of another. The steps are differences of floats, so
each is met up to a small part of it. -/
theorem within_proportion {product factor value low high : Float} {size other ratio : ℤ}
    (within : Within size factor) (valueWithin : Within other value)
    (lowWithin : Within other low) (highWithin : Within other high) (otherLeast : -1000 ≤ other)
    (bounded : size + other ≤ 1020) (otherLargest : other ≤ 1000) (least : 0 ≤ size + ratio)
    (largest : size + ratio ≤ 980) (different : worth low ≠ worth high)
    (step : |worth value - worth low| ≤ 2 ^ ratio * |worth high - worth low|)
    (near : IsNear product (worth factor * worth (value - low))) :
    Within (size + ratio + 4) (product / (high - low)) := by
  have part := within_sub valueWithin lowWithin otherLeast otherLargest
  have whole := within_sub highWithin lowWithin otherLeast otherLargest
  have partClose := (isNear_sub valueWithin.finite lowWithin.finite).isClose
    (abs_sub_le_of_within valueWithin lowWithin otherLargest)
  have wholeClose := (isNear_sub highWithin.finite lowWithin.finite).isClose
    (abs_sub_le_of_within highWithin lowWithin otherLargest)
  have double := partClose.le_double ((isMultiple_worth value).sub (isMultiple_worth low))
  have half := wholeClose.half_le ((isMultiple_worth high).sub (isMultiple_worth low))
  have apart : worth high - worth low ≠ 0 := sub_ne_zero.mpr different.symm
  have nonzero : worth (high - low) ≠ 0 := by
    intro zero
    rw [zero, abs_zero, mul_zero] at half
    exact apart (abs_nonpos_iff.mp half)
  have product : |worth factor * worth (value - low)| ≤ 2 ^ roomSize := by
    rw [abs_mul]
    refine (mul_le_mul within.le part.le (abs_nonneg _) (two_zpow_pos _).le).trans ?_
    rw [← two_zpow_add]
    exact two_zpow_le (by unfold roomSize; omega)
  have small : |worth factor * worth (value - low)| ≤
      2 ^ (size + ratio + 2) * |worth (high - low)| := by
    have positive := two_zpow_pos ratio
    have four : (2 : ℚ) ^ (2 : ℤ) = 4 := by norm_num
    have steps : |worth (value - low)| ≤ 2 ^ ratio * (4 * |worth (high - low)|) := by
      have scaled := mul_le_mul_of_nonneg_left half positive.le
      linarith
    rw [abs_mul, two_zpow_add, two_zpow_add, four]
    calc |worth factor| * |worth (value - low)|
        ≤ 2 ^ size * (2 ^ ratio * (4 * |worth (high - low)|)) :=
          mul_le_mul within.le steps (abs_nonneg _) (two_zpow_pos _).le
      _ = 2 ^ size * 2 ^ ratio * 4 * |worth (high - low)| := by ring
  exact (near.within_div product whole.finite nonzero (by omega) (by omega) small).mono (by omega)

/-! ### Magnitudes -/

theorem abs_parts {parts : UnpackedFloat} (lowest : IsLowest Format.binary64 parts)
    (room : HasRoom Format.binary64 parts) :
    (IsLowest Format.binary64 parts.abs ∧ HasRoom Format.binary64 parts.abs) ∧
      parts.abs.isFinite = parts.isFinite ∧
      partsWorth parts.abs = |partsWorth parts| := by
  cases lowest with
  | notANumber => exact ⟨⟨.notANumber, trivial⟩, rfl, abs_zero.symm⟩
  | infinity sign => exact ⟨⟨.infinity _, trivial⟩, rfl, abs_zero.symm⟩
  | zero sign => exact ⟨⟨.zero _, trivial⟩, rfl, abs_zero.symm⟩
  | finite sign mantissa exponent positive fits least filled =>
    refine ⟨⟨.finite _ _ _ positive fits least filled, room⟩, rfl, ?_⟩
    show partsWorth (.finite .positive mantissa exponent positive) =
      |signFactor sign * (mantissa * 2 ^ exponent)|
    rw [partsWorth_positive, abs_mul, abs_signFactor, one_mul,
      abs_of_pos (magnitude_pos positive exponent)]

theorem unpack_abs (number : Float) : number.abs.toModel.unpack = number.toModel.unpack.abs :=
  have lowest := (abs_parts (isLowest number) (hasRoom number)).1
  unpack_pack lowest.1 lowest.2

theorem isFinite_abs (number : Float) : number.abs.isFinite = number.isFinite :=
  (congrArg UnpackedFloat.isFinite (unpack_abs number)).trans
    (abs_parts (isLowest number) (hasRoom number)).2.1

theorem worth_abs (number : Float) : worth number.abs = |worth number| :=
  (congrArg partsWorth (unpack_abs number)).trans
    (abs_parts (isLowest number) (hasRoom number)).2.2

theorem neg_parts {parts : UnpackedFloat} (lowest : IsLowest Format.binary64 parts)
    (room : HasRoom Format.binary64 parts) :
    (IsLowest Format.binary64 parts.neg ∧ HasRoom Format.binary64 parts.neg) ∧
      parts.neg.isFinite = parts.isFinite ∧
      partsWorth parts.neg = -partsWorth parts := by
  cases lowest with
  | notANumber => exact ⟨⟨.notANumber, trivial⟩, rfl, neg_zero.symm⟩
  | infinity sign => exact ⟨⟨.infinity _, trivial⟩, rfl, neg_zero.symm⟩
  | zero sign => exact ⟨⟨.zero _, trivial⟩, rfl, neg_zero.symm⟩
  | finite sign mantissa exponent positive fits least filled =>
    refine ⟨⟨.finite _ _ _ positive fits least filled, room⟩, rfl, ?_⟩
    show signFactor (-sign) * _ = -(signFactor sign * _)
    rw [signFactor_neg, neg_mul]

theorem unpack_neg (number : Float) : (-number).toModel.unpack = number.toModel.unpack.neg :=
  have lowest := (neg_parts (isLowest number) (hasRoom number)).1
  unpack_pack lowest.1 lowest.2

theorem isFinite_neg (number : Float) : (-number).isFinite = number.isFinite :=
  (congrArg UnpackedFloat.isFinite (unpack_neg number)).trans
    (neg_parts (isLowest number) (hasRoom number)).2.1

theorem worth_neg (number : Float) : worth (-number) = -worth number :=
  (congrArg partsWorth (unpack_neg number)).trans
    (neg_parts (isLowest number) (hasRoom number)).2.2

theorem within_neg {number : Float} {size : ℤ} (within : Within size number) :
    Within size (-number) := by
  refine ⟨(isFinite_neg number).trans within.finite, ?_⟩
  rw [worth_neg, abs_neg]
  exact within.le

/-! ### Given floats -/

/-- The size within which the parts of a float show it to be. -/
def fitsSize (size : ℤ) : UnpackedFloat → Bool
  | .zero _ => true
  | .finite _ _ exponent _ => exponent + 53 ≤ size
  | _ => false

theorem within_of_fitsSize {number : Float} {size : ℤ}
    (fits : fitsSize size number.toModel.unpack = true) : Within size number := by
  have lowest := isLowest number
  suffices shown : ∀ parts, IsLowest Format.binary64 parts → fitsSize size parts = true →
      parts.isFinite = true ∧ |partsWorth parts| ≤ 2 ^ size from
    ⟨(shown _ lowest fits).1, (shown _ lowest fits).2⟩
  intro parts lowest fits
  cases lowest with
  | notANumber | infinity => cases fits
  | zero sign =>
    rw [partsWorth_zero, abs_zero]
    exact ⟨rfl, (two_zpow_pos size).le⟩
  | finite sign mantissa exponent positive below =>
    refine ⟨rfl, ?_⟩
    rw [abs_worth_finite]
    calc (mantissa * 2 ^ exponent : ℚ)
        ≤ 2 ^ 53 * 2 ^ exponent :=
          mul_le_mul_of_nonneg_right (by exact_mod_cast below.le) (two_zpow_pos exponent).le
      _ = 2 ^ (exponent + 53) := by
          rw [two_zpow_add, mul_comm]
          norm_num
      _ ≤ 2 ^ size := two_zpow_le (of_decide_eq_true fits)

/-! ### Whole numbers -/

theorem IsClose.worth_eq {number : Float} {exact : ℚ} (close : IsClose number exact)
    (representable : IsRepresentable Format.binary64 exact) : worth number = exact :=
  le_antisymm (close.le exact representable (le_refl _)) (close.ge exact representable (le_refl _))

theorem abs_natCast_le {number : ℕ} (small : number < 2 ^ 53) : |(number : ℚ)| ≤ 2 ^ roomSize := by
  have wide : (2 : ℚ) ^ (53 : ℤ) ≤ 2 ^ roomSize := two_zpow_le (by decide)
  rw [Nat.abs_cast]
  exact le_trans (by exact_mod_cast small.le) wide

theorem worth_zero : worth 0.0 = 0 := by
  have parts : (0.0 : Float).toModel.unpack = .zero .positive := by rfl
  unfold worth
  rw [parts, partsWorth_zero]

theorem worth_one : worth (Float.ofBits 0x3FF0000000000000) = 1 := by
  have parts : (Float.ofBits 0x3FF0000000000000).toModel.unpack =
      .finite .positive (2 ^ 52) (-52) (by decide) := by rfl
  unfold worth
  rw [parts, partsWorth_positive]
  norm_num

theorem isNear_toFloat {number : ℕ} (small : number < 2 ^ 53) :
    IsNear number.toUInt64.toFloat number := by
  have word : number.toUInt64.toNat = number := by
    show (UInt64.ofNat number).toNat = number
    rw [UInt64.toNat_ofNat', Nat.mod_eq_of_lt (by omega)]
  have near := isNear_packed (isNearParts_normalize Format.binary64 number 0 .positive)
  rw [zpow_zero, mul_one, Int.cast_natCast] at near
  show IsNear (.ofModel (.pack (UnpackedFloat.normalize Format.binary64
    (number.toUInt64.toNat : ℤ) 0 .positive))) number
  rw [word]
  exact near

/-- A whole number is widened before it is rounded, so that it does not lack places. -/
theorem ofScientific_of_pos {number : ℕ} (positive : number ≠ 0) :
    UnpackedFloat.ofScientific Format.binary64 number 0 =
      roundWithAccuracy Format.binary64 (.positive * .positive) (number <<< 53 * 1) (-53 + 0)
        .exact := by
  unfold UnpackedFloat.ofScientific
  rw [dif_neg positive, if_neg (by decide), if_neg (by simp only [Int.not_lt]; omega),
    if_pos (Int.le_refl 0)]
  simp only [UnpackedFloat.mul]
  congr 1

/-- A whole number becomes a near float. -/
theorem isNear_ofNat (number : ℕ) : IsNear (Float.ofNat number) number := by
  show IsNear (Float.ofScientific number false 0) number
  unfold Float.ofScientific
  split
  · rename_i small
    have close := (isNear_toFloat small.1).isClose (abs_natCast_le small.1)
    have near := isNear_mul close.finite
      (show (Float.ofBits 0x3FF0000000000000).isFinite = true by rfl)
    rw [close.worth_eq (isRepresentable_natCast (by decide) small.1), worth_one, mul_one] at near
    exact near
  · rename_i large
    have above : 2 ^ 53 ≤ number := by omega
    have positive : number ≠ 0 := by omega
    have enough : fractionBits Format.binary64 ≤ (number <<< 53 * 1).log2 := by
      rw [Nat.mul_one, log2_shiftLeft positive]
      show 52 ≤ _
      omega
    have near := isNearParts_product .positive .positive (-53) 0 (Or.inl enough)
    rw [← ofScientific_of_pos positive] at near
    have shifted := shiftLeft_worth number 53 0
    rw [show (0 : ℤ) - (53 : ℕ) = -53 from rfl, zpow_zero, mul_one] at shifted
    have exact : signFactor .positive * (((number <<< 53 : ℕ) : ℚ) * 2 ^ (-53 : ℤ)) *
        (signFactor .positive * (((1 : ℕ) : ℚ) * 2 ^ (0 : ℤ))) = number := by
      rw [shifted, Nat.cast_one, zpow_zero, mul_one, mul_one]
      show (1 : ℚ) * number * 1 = number
      rw [one_mul, mul_one]
    rw [exact] at near
    exact isNear_packed near

/-- A whole number that fits the places of a float is met. -/
theorem worth_ofNat {number : ℕ} (small : number < 2 ^ 53) :
    (Float.ofNat number).isFinite = true ∧ worth (Float.ofNat number) = number := by
  have close := (isNear_ofNat number).isClose (abs_natCast_le small)
  exact ⟨close.finite, close.worth_eq (isRepresentable_natCast (by decide) small)⟩

/-! ### Extremes -/

section Extremes

variable {numbers : List Float}

theorem find?_isNaN (finite : ∀ number ∈ numbers, number.isFinite = true) :
    numbers.find? Scalar.isUndefined = none := by
  refine List.find?_eq_none.mpr fun number known undefined => ?_
  exact absurd undefined (Bool.eq_false_iff.mp (isNaN_of_isFinite (finite number known)))

/-- Picking the better of two numbers again and again finds one that none is better than. -/
theorem foldl_pick {Number : Type} {fits : Number → Prop} {pick : Number → Number → Number}
    {score : Number → ℚ}
    (picks : ∀ first second, fits first → fits second →
      (pick first second = first ∨ pick first second = second) ∧
        score (pick first second) ≤ score first ∧ score (pick first second) ≤ score second)
    (rest : List Number) (first : Number) (fitting : ∀ number ∈ first :: rest, fits number) :
    rest.foldl pick first ∈ first :: rest ∧
      ∀ number ∈ first :: rest, score (rest.foldl pick first) ≤ score number := by
  induction rest generalizing first with
  | nil =>
    refine ⟨List.mem_cons_self, fun number known => ?_⟩
    rw [List.mem_singleton.mp known]
    exact le_refl _
  | cons second rest inductionHypothesis =>
    obtain ⟨picked, better, alsoBetter⟩ := picks first second (fitting _ List.mem_cons_self)
      (fitting _ (List.mem_cons_of_mem _ List.mem_cons_self))
    have pickedMem : pick first second ∈ first :: second :: rest := by
      obtain same | same := picked <;> rw [same] <;> simp
    have restFitting : ∀ number ∈ pick first second :: rest, fits number := by
      intro number known
      obtain rfl | known := List.mem_cons.mp known
      · exact fitting _ pickedMem
      · exact fitting _ (List.mem_cons_of_mem _ (List.mem_cons_of_mem _ known))
    obtain ⟨found, best⟩ := inductionHypothesis (pick first second) restFitting
    have bestPicked := best _ List.mem_cons_self
    rw [List.foldl_cons]
    refine ⟨?_, fun number known => ?_⟩
    · obtain same | known := List.mem_cons.mp found
      · rw [same]
        exact pickedMem
      · exact List.mem_cons_of_mem _ (List.mem_cons_of_mem _ known)
    · obtain rfl | known := List.mem_cons.mp known
      · exact bestPicked.trans better
      · obtain rfl | known := List.mem_cons.mp known
        · exact bestPicked.trans alsoBetter
        · exact best _ (List.mem_cons_of_mem _ known)

/-- Of finite floats the smallest is one that no other is below. -/
theorem smallest_spec {first : Float} {rest : List Float}
    (finite : ∀ number ∈ first :: rest, number.isFinite = true) :
    smallest first rest ∈ first :: rest ∧
      ∀ number ∈ first :: rest, worth (smallest first rest) ≤ worth number := by
  unfold smallest
  rw [find?_isNaN finite, Option.getD_none]
  refine foldl_pick (fun first second firstFinite secondFinite => ?_) rest first finite
  unfold Scalar.least
  split
  · rename_i below
    exact ⟨Or.inr rfl, ((lt_iff_worth secondFinite firstFinite).mp below).le, le_refl _⟩
  · rename_i notBelow
    exact ⟨Or.inl rfl, le_refl _,
      not_lt.mp (mt (lt_iff_worth secondFinite firstFinite).mpr notBelow)⟩

/-- Of finite floats the largest is one that no other is above. -/
theorem largest_spec {first : Float} {rest : List Float}
    (finite : ∀ number ∈ first :: rest, number.isFinite = true) :
    largest first rest ∈ first :: rest ∧
      ∀ number ∈ first :: rest, worth number ≤ worth (largest first rest) := by
  unfold largest
  rw [find?_isNaN finite, Option.getD_none]
  obtain ⟨member, best⟩ := @foldl_pick Float (·.isFinite = true) Scalar.greatest
    (fun number => -worth number) (by
    intro first second firstFinite secondFinite
    unfold Scalar.greatest
    split
    · rename_i above
      exact ⟨Or.inr rfl, neg_le_neg ((lt_iff_worth firstFinite secondFinite).mp above).le,
        le_refl _⟩
    · rename_i notAbove
      exact ⟨Or.inl rfl, le_refl _,
        neg_le_neg (not_lt.mp (mt (lt_iff_worth firstFinite secondFinite).mpr notAbove))⟩)
    rest first finite
  exact ⟨member, fun number known => neg_le_neg_iff.mp (best number known)⟩

end Extremes

theorem find?_isUndefined (numbers : List ℚ) : numbers.find? Scalar.isUndefined = none :=
  List.find?_eq_none.mpr fun _ _ undefined => Bool.noConfusion undefined

/-- The smallest of some fractions is one that no other is below. -/
theorem smallest_exact (first : ℚ) (rest : List ℚ) :
    smallest first rest ∈ first :: rest ∧
      ∀ number ∈ first :: rest, smallest first rest ≤ number := by
  unfold smallest
  rw [find?_isUndefined, Option.getD_none]
  refine @foldl_pick ℚ (fun _ => True) Scalar.least id (fun first second _ _ => ?_) rest first
    fun _ _ => trivial
  unfold Scalar.least
  split
  · rename_i below
    exact ⟨Or.inr rfl, le_of_lt below, le_refl _⟩
  · rename_i notBelow
    exact ⟨Or.inl rfl, le_refl _, not_lt.mp notBelow⟩

/-- The largest of some fractions is one that no other is above. -/
theorem largest_exact (first : ℚ) (rest : List ℚ) :
    largest first rest ∈ first :: rest ∧
      ∀ number ∈ first :: rest, number ≤ largest first rest := by
  unfold largest
  rw [find?_isUndefined, Option.getD_none]
  obtain ⟨member, best⟩ := @foldl_pick ℚ (fun _ => True) Scalar.greatest (fun number => -number)
    (fun first second _ _ => by
      unfold Scalar.greatest
      split
      · rename_i above
        exact ⟨Or.inr rfl, neg_le_neg (le_of_lt above), le_refl _⟩
      · rename_i notAbove
        exact ⟨Or.inl rfl, le_refl _, neg_le_neg (not_lt.mp notAbove)⟩) rest first
    fun _ _ => trivial
  exact ⟨member, fun number known => neg_le_neg_iff.mp (best number known)⟩

end SeriesChart
