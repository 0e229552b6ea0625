/-
This file says which whole numbers have a float near them. A number is rounded to the last
place that floats of its size have, to the even side when it lies halfway. The largest
float is half a place short of the first number that is rounded beyond all floats, so just
the numbers from there on become infinite.
-/

import SeriesChart.Proofs.Number.Magnitude

namespace SeriesChart

open Float.Model UnpackedFloat

/-! ### The bit that decides -/

/-- After a shift the last bit that was lost is known. -/
theorem roundBit_shiftRight (extended : ExtendedMantissa) (places : ℕ) :
    (extended >>> (places + 1)).roundBit = (extended.mantissa / 2 ^ places % 2 != 0) := by
  show ((extended >>> places).mantissa % 2 != 0) = _
  rw [mantissa_shiftRight]

theorem roundedMantissa_of_low {extended : ExtendedMantissa} (low : extended.roundBit = false) :
    extended.roundedMantissa = extended.mantissa := by
  obtain ⟨mantissa, roundBit, stickyBit⟩ := extended
  dsimp only at low
  subst low
  cases stickyBit <;> rfl

theorem roundedMantissa_of_high {extended : ExtendedMantissa} (high : extended.roundBit = true) :
    extended.roundedMantissa = extended.mantissa + 1 ∨
      extended.roundedMantissa = extended.mantissa + extended.mantissa % 2 := by
  obtain ⟨mantissa, roundBit, stickyBit⟩ := extended
  dsimp only at high
  subst high
  cases stickyBit
  · exact Or.inr rfl
  · exact Or.inl rfl

/-- A mantissa that is shifted is rounded up to a power of two just when not even half a place is
lacking. -/
theorem roundedMantissa_lt_iff {mantissa places bits : ℕ} (positive : 0 < bits)
    (fits : mantissa < 2 ^ (bits + (places + 1))) :
    ((⟨mantissa, false, false⟩ : ExtendedMantissa) >>> (places + 1)).roundedMantissa < 2 ^ bits ↔
      mantissa / 2 ^ places < 2 ^ (bits + 1) - 1 := by
  set extended := (⟨mantissa, false, false⟩ : ExtendedMantissa) >>> (places + 1) with known
  have whole : extended.mantissa = mantissa / 2 ^ places / 2 := by
    rw [known, mantissa_shiftRight, Nat.pow_succ, Nat.div_div_eq_div_mul]
  have bit : extended.roundBit = (mantissa / 2 ^ places % 2 != 0) := roundBit_shiftRight _ places
  have small : mantissa / 2 ^ places < 2 ^ (bits + 1) := by
    rw [Nat.div_lt_iff_lt_mul (Nat.two_pow_pos places), ← Nat.pow_add, Nat.add_assoc,
      Nat.add_comm 1]
    exact fits
  have even : 2 ^ bits % 2 = 0 := Nat.mod_eq_zero_of_dvd (dvd_pow_self 2 positive.ne')
  have double : 2 ^ (bits + 1) = 2 * 2 ^ bits := by rw [Nat.pow_succ, Nat.mul_comm]
  rw [double] at small ⊢
  cases low : extended.roundBit with
  | false =>
    have none : mantissa / 2 ^ places % 2 = 0 := by simpa [low] using bit
    rw [roundedMantissa_of_low low, whole]
    omega
  | true =>
    have one : mantissa / 2 ^ places % 2 ≠ 0 := by simpa [low] using bit
    obtain same | same := roundedMantissa_of_high low <;> rw [same, whole] <;> omega

/-! ### Whole numbers -/

theorem hasRoom_partsOf_iff {format : Format} (sign : Sign) {mantissa : ℕ} (nonzero : mantissa ≠ 0)
    (exponent : ℤ) :
    HasRoom format (partsOf sign mantissa exponent) ↔ exponent ≤ largestExponent format := by
  unfold partsOf
  rw [dif_neg nonzero]
  rfl

/-- What was rounded has room unless it was carried out of the largest exponent. -/
theorem hasRoom_carried_iff {format : Format} (sign : Sign) {mantissa : ℕ} {exponent : ℤ}
    (fits : mantissa ≤ 2 ^ (fractionBits format + 1)) (filled : 2 ^ fractionBits format ≤ mantissa)
    (least : format.minExponent ≤ exponent) :
    HasRoom format (carried format sign mantissa exponent) ↔ exponent < largestExponent format ∨
      exponent = largestExponent format ∧ mantissa < 2 ^ (fractionBits format + 1) := by
  have full := Nat.two_pow_pos (fractionBits format)
  rcases Nat.lt_or_eq_of_le fits with small | rfl
  · rw [carried_of_lt sign small least, hasRoom_partsOf_iff sign (full.trans_le filled).ne']
    omega
  · rw [carried_two_pow sign least, hasRoom_partsOf_iff sign full.ne']
    omega

/-- A whole number that does not fit its places is brought to its last place and rounded there. -/
theorem round_eq_carried {number : ℕ} (large : 2 ^ 53 ≤ number) :
    ∃ rounded : ℕ,
      roundWithAccuracy Format.binary64 .positive (number <<< 53 * 1) (-53 + 0) .exact =
        carried Format.binary64 .positive rounded (number.log2 - 52) ∧
      2 ^ 52 ≤ rounded ∧ rounded ≤ 2 ^ 53 ∧
      (number.log2 = 1023 → (rounded < 2 ^ 53 ↔ number < (2 ^ 54 - 1) * 2 ^ 970)) := by
  have nonzero : number ≠ 0 := by omega
  have first : 53 ≤ number.log2 := (Nat.le_log2 nonzero).mpr large
  have log : (number <<< 53 * 1).log2 = number.log2 + 53 := by
    rw [Nat.mul_one, log2_shiftLeft nonzero]
  have target : Format.binary64.targetExponent (totalExponent (number <<< 53 * 1) (-53 + 0)) =
      number.log2 - 52 := by
    rw [targetExponent_eq, log]
    show max ((number.log2 + 53 : ℕ) + (-53 + 0) - 52 : ℤ) (-1074) = _
    omega
  have places : (Format.binary64.targetExponent (totalExponent (number <<< 53 * 1) (-53 + 0)) -
      (-53 + 0)).toNat = number.log2 + 1 := by
    rw [target]
    omega
  have shifted : shiftToTargetExponent Format.binary64 (number <<< 53 * 1) (-53 + 0) .exact =
      ((⟨number <<< 53 * 1, false, false⟩ : ExtendedMantissa) >>> (number.log2 + 1),
        (number.log2 : ℤ) - 52) := by
    simp only [shiftToTargetExponent, shiftToExponent, places]
    refine Prod.ext rfl ?_
    show (-53 + 0 : ℤ) + (number.log2 + 1 : ℕ) = _
    omega
  have stands : StandsFor
      ((⟨number <<< 53 * 1, false, false⟩ : ExtendedMantissa) >>> (number.log2 + 1))
      (((number <<< 53 * 1 : ℕ) : ℚ) / 2 ^ (number.log2 + 1)) :=
    (isAccurate_exact _).standsFor.shiftRight _
  refine ⟨_, by unfold roundWithAccuracy; rw [shifted]; rfl, ?_,
    rounded_le Format.binary64 stands (lt_add_one _) ?_, fun last => ?_⟩
  · refine le_trans ?_ stands.rounded.1.1
    rw [mantissa_shiftRight, Nat.le_div_iff_mul_le (Nat.two_pow_pos _), ← Nat.pow_add, Nat.mul_one,
      Nat.shiftLeft_eq, show 52 + (number.log2 + 1) = number.log2 + 53 by omega, Nat.pow_add]
    exact Nat.mul_le_mul_right _ (Nat.log2_self_le nonzero)
  · show _ ≤ 52 + _
    omega
  · have below : number <<< 53 * 1 < 2 ^ (53 + (number.log2 + 1)) := by
      rw [Nat.mul_one, Nat.shiftLeft_eq, Nat.add_comm 53, Nat.pow_add]
      exact Nat.mul_lt_mul_of_pos_right Nat.lt_log2_self (Nat.two_pow_pos 53)
    generalize written : 970 = rest
    rw [roundedMantissa_lt_iff (by decide) below, Nat.mul_one, Nat.shiftLeft_eq,
      Nat.div_lt_iff_lt_mul (Nat.two_pow_pos _), show number.log2 = rest + 53 by omega,
      Nat.pow_add 2 rest 53, ← Nat.mul_assoc, Nat.mul_lt_mul_right (Nat.two_pow_pos 53)]

/-- Packed parts are infinite when they have no room, and only then if they are finite. -/
theorem isInf_ofModel_pack_iff {parts : UnpackedFloat}
    (lowest : IsLowest Format.binary64 parts)
    (finite : parts.isFinite = true) :
    (Float.ofModel (.pack parts)).isInf = true ↔ ¬HasRoom Format.binary64 parts := by
  refine ⟨fun infinite room => ?_, isInf_pack⟩
  have same : (Float.ofModel (.pack parts)).isFinite = parts.isFinite :=
    congrArg UnpackedFloat.isFinite (unpack_pack lowest room)
  rw [isInf_of_isFinite (same.trans finite)] at infinite
  cases infinite

/-- The least whole number that is rounded beyond all floats. It is half a place below the first
power of two that is no float. -/
def firstTooLarge : ℕ := (2 ^ 54 - 1) * 2 ^ 970

theorem isInf_ofNat_iff (number : ℕ) :
    (Float.ofNat number).isInf = true ↔ firstTooLarge ≤ number := by
  unfold firstTooLarge
  by_cases small : number < 2 ^ 53
  · rw [isInf_of_isFinite (worth_ofNat small).1]
    exact iff_of_false Bool.false_ne_true (by omega)
  · have large : 2 ^ 53 ≤ number := not_lt.mp small
    have nonzero : number ≠ 0 := by omega
    have first : 53 ≤ number.log2 := (Nat.le_log2 nonzero).mpr large
    have packed : Float.ofNat number =
        .ofModel (.pack (UnpackedFloat.ofScientific Format.binary64 number 0)) := by
      show Float.ofScientific number false 0 = _
      unfold Float.ofScientific
      rw [dif_neg (fun both => small both.1)]
      rfl
    obtain ⟨rounded, equal, filled, fits, last⟩ := round_eq_carried large
    have least : leastExponent ≤ (number.log2 : ℤ) - 52 := by
      unfold leastExponent
      omega
    obtain ⟨lowest, finite, -⟩ := @carried_spec Format.binary64 .positive rounded _ fits least
      (Or.inl filled)
    rw [packed, ofScientific_of_pos nonzero,
      show (.positive * .positive : Sign) = .positive from rfl, equal,
      isInf_ofModel_pack_iff lowest finite, hasRoom_carried_iff .positive fits filled least]
    show ¬((number.log2 : ℤ) - 52 < 971 ∨ (number.log2 : ℤ) - 52 = 971 ∧ rounded < 2 ^ 53) ↔ _
    -- Only among the numbers of the last power of two does rounding decide.
    rcases lt_trichotomy number.log2 1023 with below | same | above
    · have bound := (Nat.log2_lt nonzero).mp below
      refine iff_of_false (not_not.mpr (Or.inl (by omega))) (not_le.mpr (bound.trans_le ?_))
      generalize written : 970 = rest
      rw [show 1023 = 53 + rest by omega, Nat.pow_add 2 53 rest]
      generalize 2 ^ rest = place
      omega
    · have decided := last same
      rw [← not_lt, ← decided]
      omega
    · have bound := (Nat.le_log2 nonzero).mp above
      refine iff_of_true (by omega) (le_trans ?_ bound)
      generalize written : 970 = rest
      rw [show Nat.succ 1023 = 54 + rest by omega, Nat.pow_add]
      generalize 2 ^ rest = place
      omega

theorem isInf_neg (number : Float) : (-number).isInf = number.isInf := by
  show (-number).toModel.unpack.isInf = number.toModel.unpack.isInf
  rw [unpack_neg]
  cases number.toModel.unpack <;> rfl

theorem isInf_ofInt_iff (whole : ℤ) :
    (Float.ofInt whole).isInf = true ↔ firstTooLarge ≤ whole.natAbs := by
  cases whole with
  | ofNat number => exact isInf_ofNat_iff number
  | negSucc number =>
    show (-Float.ofNat (number + 1)).isInf = true ↔ _
    rw [isInf_neg, isInf_ofNat_iff]
    rfl

/-- A whole number is refused as a float just when it is rounded beyond all floats. -/
theorem ofInt_eq (whole : ℤ) :
    Binary.ofInt whole = if firstTooLarge ≤ whole.natAbs then .error (.overflow .integerTooLarge)
      else .ok (Float.ofInt whole) := by
  unfold Binary.ofInt
  simp only [isInf_ofInt_iff]

end SeriesChart
