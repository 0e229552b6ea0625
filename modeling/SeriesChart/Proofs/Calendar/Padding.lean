/-
This file describes numbers that are written with a fixed count of digits, filled up with zeros in
front. Such a text consists of the last digits of its number, is read back as the number, and comes
before another one just when its number is smaller.
-/

import Mathlib
import SeriesChart.Calendar.Moment

namespace SeriesChart.Calendar

/-! ### The last digits of a number -/

/-- So many digits of a number, up to its last one. -/
def lastDigits : ℕ → ℕ → List Char
  | 0, _ => []
  | count + 1, number => lastDigits count (number / 10) ++ [Nat.digitChar (number % 10)]

@[simp] theorem length_lastDigits (count number : ℕ) : (lastDigits count number).length = count := by
  induction count generalizing number with
  | zero => rfl
  | succ count inductionHypothesis =>
    rw [lastDigits, List.length_append, inductionHypothesis, List.length_singleton]

theorem isDigit_of_mem_lastDigits {count number : ℕ} {character : Char}
    (known : character ∈ lastDigits count number) : character.isDigit = true := by
  induction count generalizing number with
  | zero => cases known
  | succ count inductionHypothesis =>
    obtain early | last := List.mem_append.mp known
    · exact inductionHypothesis early
    · rw [List.mem_singleton.mp last, Nat.isDigit_digitChar, decide_eq_true_eq]
      exact Nat.mod_lt _ (by decide)

/-- Digits of nothing are zeros. -/
theorem lastDigits_zero (count : ℕ) : lastDigits count 0 = List.replicate count '0' := by
  induction count with
  | zero => rfl
  | succ count inductionHypothesis =>
    rw [lastDigits, Nat.zero_div, inductionHypothesis, List.replicate_succ']
    rfl

/-- The digits of a number with zeros in front. -/
theorem replicate_append_toDigits (count : ℕ) {number : ℕ} (small : number < 10 ^ (count + 1)) :
    List.replicate (count + 1 - (Nat.toDigits 10 number).length) '0' ++ Nat.toDigits 10 number =
      lastDigits (count + 1) number := by
  induction count generalizing number with
  | zero =>
    have single : number < 10 := small
    rw [Nat.toDigits_of_lt_base single, lastDigits, Nat.mod_eq_of_lt single]
    rfl
  | succ count inductionHypothesis =>
    have fewer : number / 10 < 10 ^ (count + 1) := by
      rw [pow_succ] at small
      omega
    rw [lastDigits, Nat.toDigits_eq_if (by decide)]
    split
    · rename_i single
      rw [Nat.div_eq_of_lt single, Nat.mod_eq_of_lt single, lastDigits_zero]
      rfl
    · rw [← inductionHypothesis fewer, List.length_append, List.length_singleton,
        Nat.add_sub_add_right, List.append_assoc]

theorem toList_padded {width number : ℕ} (wide : width ≠ 0) (small : number < 10 ^ width) :
    (Moment.padded width number).toList = lastDigits width number := by
  obtain ⟨count, rfl⟩ := Nat.exists_eq_succ_of_ne_zero wide
  unfold Moment.padded
  rw [Nat.toString_eq_repr, ← replicate_append_toDigits count small]
  dsimp only
  rw [String.toList_append, String.toList_ofList, Nat.toList_repr, ← String.length_toList,
    Nat.toList_repr]

/-! ### Reading digits -/

/-- What the digits in front are worth goes up tenfold with every further digit. -/
theorem valueOfDigits_append (digits : List Char) (last : Char) :
    Numeral.valueOfDigits (digits ++ [last]) =
      10 * Numeral.valueOfDigits digits + (last.toNat - 48) := by
  unfold Numeral.valueOfDigits
  rw [List.foldl_append]
  rfl

theorem toNat_digitChar_mod (number : ℕ) :
    (Nat.digitChar (number % 10)).toNat - 48 = number % 10 := by
  rw [Nat.toNat_digitChar_of_lt_ten (Nat.mod_lt _ (by decide)), Nat.add_sub_cancel_left]

theorem valueOfDigits_lastDigits {count number : ℕ} (small : number < 10 ^ count) :
    Numeral.valueOfDigits (lastDigits count number) = number := by
  induction count generalizing number with
  | zero => exact (Nat.lt_one_iff.mp small).symm
  | succ count inductionHypothesis =>
    have fewer : number / 10 < 10 ^ count := by
      rw [pow_succ] at small
      omega
    rw [lastDigits, valueOfDigits_append, inductionHypothesis fewer, toNat_digitChar_mod]
    omega

/-! ### The order of texts -/

theorem digitChar_lt {first second : ℕ} (below : first < second) (small : second < 10) :
    Nat.digitChar first < Nat.digitChar second := by
  have order := (Nat.toNat_digitChar_of_lt_ten (below.trans small)).trans_lt
    ((Nat.add_lt_add_left below 48).trans_eq (Nat.toNat_digitChar_of_lt_ten small).symm)
  exact order

/-- Of two numbers with equally many digits the smaller one comes first, whatever follows it. -/
theorem lastDigits_lt {count first second : ℕ} (below : first < second)
    (small : second < 10 ^ count) (rest otherRest : List Char) :
    lastDigits count first ++ rest < lastDigits count second ++ otherRest := by
  induction count generalizing first second rest otherRest with
  | zero =>
    rw [pow_zero] at small
    omega
  | succ count inductionHypothesis =>
    have fewer : second / 10 < 10 ^ count := by
      rw [pow_succ] at small
      omega
    rw [lastDigits, lastDigits, List.append_assoc, List.append_assoc]
    rcases (Nat.div_le_div_right below.le : first / 10 ≤ second / 10).lt_or_eq with front | same
    · exact inductionHypothesis front fewer _ _
    · rw [same]
      refine List.append_left_lt (List.cons_lt_cons_iff.mpr (Or.inl (digitChar_lt ?_ ?_)))
      · omega
      · exact Nat.mod_lt _ (by decide)

end SeriesChart.Calendar
