/-
This file follows a pixel that takes nothing of a colour which is laid over it. The pixel
is computed anew all the same: its bytes become numbers, are multiplied with its opacity,
divided by it and rounded. The errors of single precision are too small to be seen, so a
pixel with some opacity comes back as it was. A pixel without opacity has nothing to be
divided by, and all its bytes become zero.
-/

import SeriesChart.Proofs.Number.Magnitude
import SeriesChart.Proofs.Number.Single
import SeriesChart.Raster.Composite

namespace SeriesChart

/-! ### Bytes -/

/-- A number that is less than a quarter away from a byte is rounded to it. -/
theorem nearestByte_eq {number : Float32} {value : ℚ} {byte : UInt8}
    (single : IsSingle number value) (nonnegative : 0 ≤ value)
    (near : |value - byte.toNat| ≤ 1 / 4) : nearestByte number = byte := by
  obtain ⟨above, below⟩ := abs_le.mp near
  have largest := byte.toNat_lt
  unfold nearestByte
  split
  · rename_i large
    rw [ge_iff_le, isSingle_maxByte.le_iff single] at large
    have last : (254 : ℚ) < byte.toNat := by linarith
    have last : 254 < byte.toNat := by exact_mod_cast last
    exact UInt8.toNat_inj.mp (show 255 = byte.toNat by omega)
  · rename_i notLarge
    rw [ge_iff_le, isSingle_maxByte.le_iff single, not_le] at notLarge
    obtain ⟨least, next⟩ := toUInt8_spec single nonnegative (by linarith)
    set floor := number.toUInt8 with known
    have rest := isNearSingle_sub single (isSingle_byte floor)
      (hasRoom_of_le (abs_le.mpr ⟨by linarith, by linarith⟩))
    obtain ⟨fraction, isFraction⟩ := exists_isSingle rest.finite
    have bytes : (floor.toNat : ℚ) < byte.toNat + 1 ∧ (byte.toNat : ℚ) < floor.toNat + 2 :=
      ⟨by linarith, by linarith⟩
    norm_cast at bytes
    dsimp only
    -- The number lies at the lower end of its unit or at the upper one.
    obtain same | next : byte.toNat = floor.toNat ∨ byte.toNat = floor.toNat + 1 := by omega
    · have low : fraction ≤ 2 ^ (-2 : ℤ) := by
        rw [← isFraction.worth]
        refine rest.le _ (isRepresentable_two_zpow (by decide)) ?_
        rw [← same]
        norm_num
        linarith
      have notAbove : ¬(number - floor.toFloat32 > 0.5) := by
        rw [gt_iff_lt, isSingle_half.lt_iff isFraction]
        norm_num at low ⊢
        linarith
      have notHalf : ¬((number - floor.toFloat32 == 0.5) = true) := by
        rw [isFraction.same_iff isSingle_half]
        norm_num at low ⊢
        intro half
        linarith
      rw [if_neg (by simp [notAbove, notHalf])]
      exact UInt8.toNat_inj.mp same.symm
    · have high : 3 * 2 ^ (-2 : ℤ) ≤ fraction := by
        rw [← isFraction.worth]
        refine rest.ge _ ⟨3, -2, by decide, by decide, by norm_num⟩ ?_
        have cast : (byte.toNat : ℚ) = floor.toNat + 1 := by exact_mod_cast next
        norm_num
        linarith
      have above : number - floor.toFloat32 > 0.5 := by
        rw [gt_iff_lt, isSingle_half.lt_iff isFraction]
        norm_num at high ⊢
        linarith
      rw [if_pos (by simp [above])]
      refine UInt8.toNat_inj.mp ?_
      rw [UInt8.toNat_add, UInt8.toNat_one, next]
      omega

/-! ### One pixel -/

/-- All numbers of the paint are finite. -/
structure Paint.IsFinite (paint : Paint) : Prop where
  red : paint.red.isFinite = true
  green : paint.green.isFinite = true
  blue : paint.blue.isFinite = true
  opacity : paint.opacity.isFinite = true

/-- The opacity of a pixel comes back from being a part of one. -/
theorem nearestByte_alpha {all : Float32} (alpha : UInt8) {opacity : ℚ}
    (isAll : IsSingle all opacity) (least : 0 ≤ opacity) (most : opacity ≤ 1)
    (near : |opacity - alpha.toNat / 255| < 2 ^ (-23 : ℤ)) :
    nearestByte (all * 255.0) = alpha := by
  have nonnegative : 0 ≤ opacity * 255 := mul_nonneg least (by norm_num)
  have size : |opacity * 255| ≤ 256 := abs_le.mpr ⟨by linarith, by linarith⟩
  have product := isNearSingle_mul isAll isSingle_maxByte (hasRoom_of_le size)
  obtain ⟨value, isValue⟩ := exists_isSingle product.finite
  refine nearestByte_eq isValue ?_ ?_
  · rw [← isValue.worth]
    exact product.ge 0 isRepresentable_zero nonnegative
  · have close : |value - opacity * 255| < 2 ^ (-15 : ℤ) := by
      rw [← isValue.worth]
      exact product.near 8 (by decide) (size.trans_eq (by norm_num))
    obtain ⟨above, below⟩ := abs_lt.mp near
    obtain ⟨valueAbove, valueBelow⟩ := abs_lt.mp close
    norm_num at above below valueAbove valueBelow
    exact abs_le.mpr ⟨by linarith, by linarith⟩

section Nothing

variable {taken : Float32} (nothing : IsSingle taken 0)

include nothing

/-- The opacity of a pixel stays when nothing is taken, but for the error of its division. -/
theorem exists_opacity (alpha : UInt8) :
    ∃ opacity : ℚ, IsSingle (alpha.toFloat32 / 255.0 * (1.0 - taken)) opacity ∧
      (0 ≤ opacity ∧ opacity ≤ 1) ∧ |opacity - alpha.toNat / 255| < 2 ^ (-23 : ℤ) ∧
      (alpha = 0 → opacity = 0) ∧ (alpha ≠ 0 → 2 ^ (-8 : ℤ) ≤ opacity) := by
  have bound : (alpha.toNat : ℚ) ≤ 255 := by exact_mod_cast Nat.lt_succ_iff.mp alpha.toNat_lt
  have proportion : 0 ≤ (alpha.toNat : ℚ) / 255 ∧ (alpha.toNat : ℚ) / 255 ≤ 1 :=
    ⟨by positivity, (div_le_one (by norm_num)).mpr bound⟩
  have size : |(alpha.toNat : ℚ) / 255| ≤ 1 := abs_le.mpr ⟨by linarith, proportion.2⟩
  have before := isNearSingle_div (isSingle_byte alpha) isSingle_maxByte (by norm_num)
    (hasRoom_of_le (size.trans (by norm_num)))
  obtain ⟨opacity, isOpacity⟩ := exists_isSingle before.finite
  -- One is a number of the format, so taking nothing from it makes no error.
  have rest : IsSingle (1.0 - taken) 1 := by
    have near := isNearSingle_sub isSingle_one nothing (hasRoom_of_le (by norm_num))
    rw [sub_zero] at near
    exact near.isSingle isSingle_one.isRepresentable
  have least : 0 ≤ opacity := by
    rw [← isOpacity.worth]
    exact before.ge 0 isRepresentable_zero proportion.1
  have most : opacity ≤ 1 := by
    rw [← isOpacity.worth]
    exact before.le 1 isSingle_one.isRepresentable proportion.2
  have kept := isNearSingle_mul isOpacity rest
    (hasRoom_of_le (abs_le.mpr ⟨by linarith, by linarith⟩))
  rw [mul_one] at kept
  refine ⟨opacity, kept.isSingle isOpacity.isRepresentable, ⟨least, most⟩, ?_, ?_, ?_⟩
  · rw [← isOpacity.worth]
    exact before.near 0 (by decide) (by rwa [zpow_zero])
  · rintro rfl
    refine le_antisymm ?_ least
    rw [← isOpacity.worth]
    exact before.le 0 isRepresentable_zero (by norm_num)
  · intro some
    rw [← isOpacity.worth]
    refine before.ge _ (isRepresentable_two_zpow (by decide)) ?_
    have one : (1 : ℚ) ≤ alpha.toNat := by
      exact_mod_cast Nat.one_le_iff_ne_zero.mpr fun none => some (UInt8.toNat_inj.mp none)
    rw [le_div_iff₀ (by norm_num)]
    norm_num
    linarith

/-- What is kept of a channel is its byte times the opacity, but for the error of the product. -/
theorem exists_share {new kept : Float32} (finite : new.isFinite = true) (old : UInt8) {opacity : ℚ}
    (isKept : IsSingle kept opacity) (least : 0 ≤ opacity) (most : opacity ≤ 1) :
    ∃ share, IsSingle (new * taken + old.toFloat32 * kept) share ∧ 0 ≤ share ∧
      |share - old.toNat * opacity| < 2 ^ (-15 : ℤ) ∧ (opacity = 0 → share = 0) := by
  have bound : (old.toNat : ℚ) ≤ 255 := by exact_mod_cast Nat.lt_succ_iff.mp old.toNat_lt
  have nonnegative : (0 : ℚ) ≤ old.toNat := Nat.cast_nonneg _
  have product : 0 ≤ old.toNat * opacity := mul_nonneg nonnegative least
  have large : old.toNat * opacity ≤ 255 := (mul_le_mul bound most least (by norm_num)).trans_eq
    (mul_one _)
  have size : |old.toNat * opacity| ≤ 256 := abs_le.mpr ⟨by linarith, by linarith⟩
  have some := isNearSingle_mul (isSingle_byte old) isKept (hasRoom_of_le size)
  obtain ⟨share, isShare⟩ := exists_isSingle some.finite
  obtain ⟨channel, isChannel⟩ := exists_isSingle finite
  have none : IsSingle (new * taken) 0 := by
    have near := isNearSingle_mul isChannel nothing (hasRoom_of_le (by norm_num))
    rw [mul_zero] at near
    exact near.isSingle isRepresentable_zero
  have error : |share - old.toNat * opacity| < 2 ^ (-15 : ℤ) := by
    rw [← isShare.worth]
    exact some.near 8 (by decide) (size.trans_eq (by norm_num))
  have small : |0 + share| ≤ 256 := by
    obtain ⟨above, below⟩ := abs_lt.mp error
    norm_num at above below
    exact abs_le.mpr ⟨by linarith, by linarith⟩
  have all := isNearSingle_add none isShare (hasRoom_of_le small)
  rw [zero_add] at all
  refine ⟨share, all.isSingle isShare.isRepresentable, ?_, error, ?_⟩
  · rw [← isShare.worth]
    exact some.ge 0 isRepresentable_zero product
  · rintro rfl
    rw [mul_zero] at some
    rw [← isShare.worth]
    exact (some.isSingle isRepresentable_zero).worth

/-- What of a channel is kept is divided by the opacity again, and the byte is as it was. -/
theorem nearestByte_channel {new kept divisor : Float32} (finite : new.isFinite = true)
    (old : UInt8) {opacity : ℚ} (isKept : IsSingle kept opacity)
    (isDivisor : IsSingle divisor opacity) (least : 2 ^ (-8 : ℤ) ≤ opacity) (most : opacity ≤ 1) :
    nearestByte ((new * taken + old.toFloat32 * kept) / divisor) = old := by
  have positive : 0 < opacity := (two_zpow_pos _).trans_le least
  obtain ⟨share, isShare, nonnegative, error, -⟩ :=
    exists_share nothing finite old isKept positive.le most
  have bound : (old.toNat : ℚ) ≤ 255 := by exact_mod_cast Nat.lt_succ_iff.mp old.toNat_lt
  -- The division by the opacity makes the error of the product larger, but not beyond a byte.
  have apart : |share / opacity - old.toNat| ≤ 2 ^ (-7 : ℤ) := by
    have same : share / opacity - old.toNat = (share - old.toNat * opacity) / opacity := by
      field_simp
    rw [same, abs_div, abs_of_pos positive, div_le_iff₀ positive]
    calc |share - old.toNat * opacity| ≤ 2 ^ (-15 : ℤ) := error.le
      _ = 2 ^ (-7 : ℤ) * 2 ^ (-8 : ℤ) := by norm_num
      _ ≤ 2 ^ (-7 : ℤ) * opacity := mul_le_mul_of_nonneg_left least (two_zpow_pos _).le
  have size : |share / opacity| ≤ 2 ^ (8 : ℤ) := by
    rw [abs_of_nonneg (div_nonneg nonnegative positive.le)]
    have := (abs_le.mp apart).2
    norm_num at this ⊢
    linarith
  have quotient := isNearSingle_div isShare isDivisor positive.ne'
    (hasRoom_of_le (size.trans_eq (by norm_num)))
  obtain ⟨value, isValue⟩ := exists_isSingle quotient.finite
  refine nearestByte_eq isValue ?_ ?_
  · rw [← isValue.worth]
    exact quotient.ge 0 isRepresentable_zero (div_nonneg nonnegative positive.le)
  · have close : |value - share / opacity| < 2 ^ (-15 : ℤ) := by
      rw [← isValue.worth]
      exact quotient.near 8 (by decide) size
    calc |value - old.toNat| ≤ |value - share / opacity| + |share / opacity - old.toNat| :=
          abs_sub_le _ _ _
      _ ≤ 2 ^ (-15 : ℤ) + 2 ^ (-7 : ℤ) := add_le_add close.le apart
      _ ≤ 1 / 4 := by norm_num

/-- Without opacity nothing of a channel is kept. -/
theorem nearestByte_lost {new kept : Float32} (finite : new.isFinite = true) (old : UInt8)
    (isKept : IsSingle kept 0) :
    nearestByte ((new * taken + old.toFloat32 * kept) / 1.0) = 0 := by
  obtain ⟨share, isShare, -, -, none⟩ :=
    exists_share nothing finite old isKept (le_refl _) zero_le_one
  obtain rfl := none rfl
  have quotient := isNearSingle_div isShare isSingle_one one_ne_zero (hasRoom_of_le (by norm_num))
  rw [zero_div] at quotient
  exact nearestByte_eq (quotient.isSingle isRepresentable_zero) (le_refl _) (by norm_num)

end Nothing

theorem exists_leastOpacity :
    ∃ least, IsSingle leastOpacity least ∧ 0 < least ∧ least < 2 ^ (-8 : ℤ) := by
  have parts : leastOpacity.toModel.unpack =
      .finite .positive 8796093 (-43) (by decide) := by rfl
  refine ⟨_, ⟨by rfl, rfl⟩, ?_⟩
  rw [parts, partsWorth_positive]
  norm_num

/-- A pixel that takes nothing of a paint stays if it has some opacity, and else becomes clear. -/
theorem Pixel.blend_of_nothing (pixel : Pixel) {paint : Paint} (finite : paint.IsFinite)
    {taken : Float32} (nothing : IsSingle taken 0) :
    pixel.blend paint taken = if pixel.alpha = 0 then .clear else pixel := by
  obtain ⟨opacity, isKept, ⟨least, most⟩, error, none, some⟩ := exists_opacity nothing pixel.alpha
  have isAll : IsSingle (taken + pixel.alpha.toFloat32 / 255.0 * (1.0 - taken)) opacity := by
    have near := isNearSingle_add nothing isKept
      (hasRoom_of_le (abs_le.mpr ⟨by linarith, by linarith⟩))
    rw [zero_add] at near
    exact near.isSingle isKept.isRepresentable
  have alpha := nearestByte_alpha pixel.alpha isAll least most error
  obtain ⟨limit, isLimit, positive, small⟩ := exists_leastOpacity
  unfold Pixel.blend
  dsimp only
  rw [alpha]
  by_cases clear : pixel.alpha = 0
  · obtain rfl := none clear
    have below : ¬(taken + pixel.alpha.toFloat32 / 255.0 * (1.0 - taken) > leastOpacity) := by
      rw [gt_iff_lt, isLimit.lt_iff isAll]
      linarith
    rw [if_pos clear, if_neg below, nearestByte_lost nothing finite.red _ isKept,
      nearestByte_lost nothing finite.green _ isKept,
      nearestByte_lost nothing finite.blue _ isKept, clear]
    rfl
  · have large := some clear
    have above : taken + pixel.alpha.toFloat32 / 255.0 * (1.0 - taken) > leastOpacity := by
      rw [gt_iff_lt, isLimit.lt_iff isAll]
      exact small.trans_le large
    rw [if_neg clear, if_pos above,
      nearestByte_channel nothing finite.red _ isKept isAll large most,
      nearestByte_channel nothing finite.green _ isKept isAll large most,
      nearestByte_channel nothing finite.blue _ isKept isAll large most]

/-! ### Colours -/

theorem channel_spec {value : Int} (inRange : Color.isChannel value = true) :
    (Float.ofInt value).isFinite = true ∧ 0 ≤ worth (Float.ofInt value) ∧
      worth (Float.ofInt value) ≤ 255 := by
  simp only [Color.isChannel, Bool.and_eq_true, decide_eq_true_eq] at inRange
  obtain ⟨number, rfl⟩ := Int.eq_ofNat_of_zero_le inRange.1
  have bound : number ≤ 255 := by omega
  have spec := worth_ofNat (bound.trans_lt (by decide : 255 < 2 ^ 53))
  show (Float.ofNat number).isFinite = true ∧ 0 ≤ worth (Float.ofNat number) ∧
    worth (Float.ofNat number) ≤ 255
  rw [spec.2]
  exact ⟨spec.1, Nat.cast_nonneg number, by exact_mod_cast bound⟩

theorem worth_maxByte : worth 255.0 = 255 := by
  have parts : (255.0 : Float).toModel.unpack =
      .finite .positive (255 * 2 ^ 45) (-45) (by decide) := by rfl
  unfold worth
  rw [parts, partsWorth_positive]
  norm_num

/-- The paint of a colour of bytes is finite. -/
theorem Paint.isFinite_ofColor {color : Color} (valid : color.isValid = true) :
    (Paint.ofColor color).IsFinite := by
  simp only [Color.isValid, Bool.and_eq_true] at valid
  obtain ⟨⟨⟨red, green⟩, blue⟩, alpha⟩ := valid
  have channel {value : Int} (inRange : Color.isChannel value = true) :
      (Binary.toSingle (Float.ofInt value)).isFinite = true := by
    obtain ⟨finite, least, most⟩ := channel_spec inRange
    exact isFinite_toSingle finite (hasRoom_of_le (abs_le.mpr ⟨by linarith, by linarith⟩))
  refine ⟨channel red, channel green, channel blue, ?_⟩
  obtain ⟨finite, least, most⟩ := channel_spec alpha
  have near := isNear_div finite (by rfl : (255.0 : Float).isFinite = true)
    (by rw [worth_maxByte]; norm_num)
  rw [worth_maxByte] at near
  have proportion : |worth (Float.ofInt color.alpha) / 255| ≤ 2 ^ (0 : ℤ) := by
    rw [abs_of_nonneg (div_nonneg least (by norm_num)), zpow_zero]
    exact (div_le_one (by norm_num)).mpr most
  have close := near.isClose (proportion.trans (two_zpow_le (by decide)))
  refine isFinite_toSingle close.finite
    ((close.abs_worth_le (isRepresentable_two_zpow (by decide)) proportion).trans
      (two_zpow_le (by decide)))

end SeriesChart
