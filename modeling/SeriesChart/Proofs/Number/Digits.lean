/-
This file reads numerals of decimal digits, with a point among or beside them. The digits may be
those of any script. As a whole number such a numeral is refused only for having too many digits;
as a float it is never refused, and the float is near to what the digits say.
-/

import SeriesChart.Proofs.Number.Rounding

namespace SeriesChart.Numeral

open Text

/-! ### Characters of numerals -/

theorem bounds_of_isDigit {character : Char} (digit : character.isDigit = true) :
    48 ≤ character.toNat ∧ character.toNat ≤ 57 := by
  unfold Char.isDigit at digit
  rw [Bool.and_eq_true, decide_eq_true_eq, decide_eq_true_eq] at digit
  exact digit

theorem digitValue?_le {character : Char} {value : ℕ}
    (known : digitValue? character = some value) : value ≤ 9 := by
  unfold digitValue? at known
  split at known
  · split at known
    · rename_i digit
      cases known
      have small := (bounds_of_isDigit digit).2
      omega
    · cases known
  · obtain ⟨start, found, rfl⟩ := Option.map_eq_some_iff.mp known
    have run := Array.find?_some found
    rw [Bool.and_eq_true, decide_eq_true_eq, decide_eq_true_eq] at run
    omega

/-- No run of digits has a blank in it. -/
theorem digitZeros_apart : ∀ start ∈ digitZeros, start + 9 < 0x85 ∨
    0xA0 < start ∧ start + 9 < 0x1680 ∨ 0x1680 < start ∧ start + 9 < 0x2000 ∨
      0x3000 < start := by
  decide

theorem not_isNumberBlank {character : Char} (digit : isDecimalDigit character = true) :
    isNumberBlank character = false := by
  obtain ⟨value, known⟩ := Option.isSome_iff_exists.mp digit
  rw [Bool.eq_false_iff]
  intro blank
  have space : character = ' ' ↔ character.toNat = 32 := Char.toNat_inj.symm
  simp only [isNumberBlank, isAsciiBlank, isBlank, Bool.or_eq_true, Bool.and_eq_true,
    decide_eq_true_eq, space] at blank
  unfold digitValue? at known
  split at known
  · split at known
    · rename_i isDigit
      have bounds := bounds_of_isDigit isDigit
      omega
    · cases known
  · obtain ⟨start, found, rfl⟩ := Option.map_eq_some_iff.mp known
    have run := Array.find?_some found
    rw [Bool.and_eq_true, decide_eq_true_eq, decide_eq_true_eq] at run
    have apart := digitZeros_apart start (Array.mem_of_find?_eq_some found)
    omega

/-- A decimal digit or the point. -/
def IsPart (character : Char) : Prop := isDecimalDigit character = true ∨ character = '.'

/-- The character with a digit of any script as the one of ASCII. -/
def plainOf (character : Char) : Char :=
  match digitValue? character with
  | some value => Char.ofNat (48 + value)
  | none => character

/-- The digits of ASCII. -/
def plainDigits : List Char := ['0', '1', '2', '3', '4', '5', '6', '7', '8', '9']

theorem plainOf_mem {character : Char} (digit : isDecimalDigit character = true) :
    plainOf character ∈ plainDigits := by
  obtain ⟨value, known⟩ := Option.isSome_iff_exists.mp digit
  have small := digitValue?_le known
  unfold plainOf
  rw [known]
  dsimp only
  interval_cases value <;> decide

theorem mapM_eq_some_map {Item Image : Type} {read : Item → Option Image} {image : Item → Image}
    {items : List Item} (each : ∀ item ∈ items, read item = some (image item)) :
    items.mapM read = some (items.map image) := by
  induction items with
  | nil => rfl
  | cons item rest inductionHypothesis =>
    obtain ⟨first, others⟩ := List.forall_mem_cons.mp each
    rw [List.mapM_cons, first, inductionHypothesis others]
    rfl

theorem plainCharacters_eq {characters : List Char}
    (parts : ∀ character ∈ characters, IsPart character) :
    plainCharacters characters = some (characters.map plainOf) := by
  have notBlank : ∀ character ∈ characters, ¬isNumberBlank character = true := by
    intro character known
    obtain digit | rfl := parts character known
    · rw [not_isNumberBlank digit]
      decide
    · decide
  have stripped (others : List Char) (among : ∀ character ∈ others, character ∈ characters) :
      others.dropWhile isNumberBlank = others :=
    List.dropWhile_eq_self_iff.mpr fun inside => notBlank _ (among _ (List.getElem_mem inside))
  unfold plainCharacters stripBoth
  rw [stripped characters fun _ => id,
    stripped characters.reverse fun _ => List.mem_reverse.mp, List.reverse_reverse]
  refine mapM_eq_some_map fun character known => ?_
  unfold plainOf
  obtain digit | rfl := parts character known
  · obtain ⟨value, read⟩ := Option.isSome_iff_exists.mp digit
    rw [read]
  · rfl

theorem withoutUnderscores_eq {previous : Char} {characters : List Char}
    (none : '_' ∉ characters) : withoutUnderscores previous characters = some characters := by
  fun_induction withoutUnderscores previous characters with
  | case1 previous => rfl
  | case2 | case3 => exact absurd List.mem_cons_self none
  | case4 previous rest => exact absurd List.mem_cons_self none
  | case5 previous character rest notMark isOther inductionHypothesis =>
    rw [inductionHypothesis fun known => none (List.mem_cons_of_mem _ known)]
    rfl

theorem splitSign_eq {characters : List Char} (noMinus : '-' ∉ characters)
    (noPlus : '+' ∉ characters) : splitSign characters = (false, characters) := by
  unfold splitSign
  split
  · exact absurd List.mem_cons_self noMinus
  · exact absurd List.mem_cons_self noPlus
  · rfl

/-! ### Values of digits -/

theorem isDigit_of_mem_plainDigits : ∀ digit ∈ plainDigits, digit.isDigit = true :=
  List.all_eq_true.mp (by decide)

theorem valueOfDigits_lt {digits : List Char} (plain : ∀ digit ∈ digits, digit ∈ plainDigits) :
    valueOfDigits digits < 10 ^ digits.length := by
  have bound (start : ℕ) :
      digits.foldl (fun value digit => 10 * value + (digit.toNat - 48)) start <
        (start + 1) * 10 ^ digits.length := by
    induction digits generalizing start with
    | nil => simp
    | cons digit rest inductionHypothesis =>
      obtain ⟨first, others⟩ := List.forall_mem_cons.mp plain
      have small := (bounds_of_isDigit (isDigit_of_mem_plainDigits _ first)).2
      have further : 10 * start + (digit.toNat - 48) + 1 ≤ (start + 1) * 10 := by omega
      rw [List.foldl_cons, List.length_cons, Nat.pow_succ', ← Nat.mul_assoc]
      exact (inductionHypothesis others _).trans_le (Nat.mul_le_mul_right _ further)
  simpa [valueOfDigits] using bound 0

section Digits

variable {digits : List Char} (decimal : ∀ digit ∈ digits, isDecimalDigit digit = true)

include decimal

theorem forall_map_plainOf : ∀ digit ∈ digits.map plainOf, digit ∈ plainDigits := by
  intro digit known
  obtain ⟨source, inDigits, rfl⟩ := List.mem_map.mp known
  exact plainOf_mem (decimal source inDigits)

/-- Digits are a whole number, unless there are too many of them. -/
theorem readInt_of_digits (shown : String) (some : digits ≠ []) :
    readInt shown digits =
      if digitLimit < digits.length then .error (.invalid (.tooManyDigits digits.length))
      else .ok (valueOfDigits (digits.map plainOf)) := by
  have plain := forall_map_plainOf decimal
  have without {mark : Char} (other : mark ∉ plainDigits) : mark ∉ digits.map plainOf :=
    fun known => other (plain mark known)
  have all : (digits.map plainOf).all Char.isDigit = true :=
    List.all_eq_true.mpr fun digit known => isDigit_of_mem_plainDigits _ (plain digit known)
  unfold readInt
  rw [plainCharacters_eq fun digit known => Or.inl (decimal digit known)]
  dsimp only [Option.map_some]
  rw [splitSign_eq (without (by decide)) (without (by decide))]
  dsimp only
  rw [withoutUnderscores_eq (without (by decide))]
  dsimp only
  rw [all, List.length_map, decide_eq_false (mt List.map_eq_nil_iff.mp some)]
  rfl

end Digits

/-! ### Decimal numerals -/

/-- The characters are digits before a point and digits behind it, at least one in all. There need
not be a point if there is no digit behind it. -/
structure IsDecimal (whole fraction characters : List Char) : Prop where
  form : characters = whole ++ '.' :: fraction ∨ characters = whole ∧ fraction = []
  some : whole ++ fraction ≠ []
  digits : ∀ digit ∈ whole ++ fraction, isDecimalDigit digit = true

section Decimals

variable {whole fraction characters : List Char} (decimal : IsDecimal whole fraction characters)

include decimal

theorem decimalOf_of_isDecimal : decimalOf (characters.map plainOf) =
    some (nearestFloat (valueOfDigits ((whole ++ fraction).map plainOf)) (-fraction.length)) := by
  have plain := forall_map_plainOf decimal.digits
  have isDigit {digit : Char} (known : digit ∈ (whole ++ fraction).map plainOf) :
      digit.isDigit = true := isDigit_of_mem_plainDigits _ (plain digit known)
  have wholeDigits : ∀ digit ∈ whole.map plainOf, digit.isDigit = true := fun digit known =>
    isDigit (by rw [List.map_append]; exact List.mem_append_left _ known)
  have fractionDigits : ∀ digit ∈ fraction.map plainOf, digit.isDigit = true := fun digit known =>
    isDigit (by rw [List.map_append]; exact List.mem_append_right _ known)
  have point : plainOf '.' = '.' := by decide
  unfold decimalOf
  obtain rfl | ⟨rfl, none⟩ := decimal.form
  · have notDigit : ¬Char.isDigit '.' = true := by decide
    have nonempty : (whole.map plainOf = [] && fraction.map plainOf = [] : Bool) = false := by
      have some := decimal.some
      rw [Bool.eq_false_iff]
      simpa using some
    rw [List.map_append, List.map_cons, point, List.takeWhile_append_of_pos wholeDigits,
      List.dropWhile_append_of_pos wholeDigits, List.takeWhile_cons_of_neg notDigit,
      List.dropWhile_cons_of_neg notDigit, List.append_nil]
    simp only [List.takeWhile_eq_self_iff.mpr fractionDigits,
      List.dropWhile_eq_nil_iff.mpr fractionDigits, nonempty, ← List.map_append, List.length_map]
    rfl
  · have nonempty : (characters.map plainOf = [] && ([] : List Char) = [] : Bool) = false := by
      have some := decimal.some
      rw [Bool.eq_false_iff]
      simpa [none] using some
    rw [List.takeWhile_eq_self_iff.mpr wholeDigits, List.dropWhile_eq_nil_iff.mpr wholeDigits, none]
    dsimp only
    rw [nonempty, List.append_nil, List.append_nil]
    rfl

/-- A decimal numeral is always readable. -/
theorem readFloat?_of_isDecimal : readFloat? characters =
    some (nearestFloat (valueOfDigits ((whole ++ fraction).map plainOf)) (-fraction.length)) := by
  have parts : ∀ character ∈ characters, IsPart character := by
    intro character known
    obtain rfl | ⟨rfl, -⟩ := decimal.form
    · obtain inWhole | same | inFraction := List.mem_append.mp known |>.imp_right List.mem_cons.mp
      · exact Or.inl (decimal.digits _ (List.mem_append_left _ inWhole))
      · exact Or.inr same
      · exact Or.inl (decimal.digits _ (List.mem_append_right _ inFraction))
    · exact Or.inl (decimal.digits _ (List.mem_append_left _ known))
  have plain : ∀ character ∈ characters.map plainOf, character ∈ '.' :: plainDigits := by
    intro character known
    obtain ⟨source, inCharacters, rfl⟩ := List.mem_map.mp known
    obtain digit | rfl := parts source inCharacters
    · exact List.mem_cons_of_mem _ (plainOf_mem digit)
    · exact List.mem_cons_self
  have without {mark : Char} (other : mark ∉ '.' :: plainDigits) : mark ∉ characters.map plainOf :=
    fun known => other (plain mark known)
  unfold readFloat?
  rw [plainCharacters_eq parts, Option.bind_some, withoutUnderscores_eq (without (by decide)),
    Option.bind_some]
  unfold floatOf
  rw [splitSign_eq (without (by decide)) (without (by decide))]
  have named (name : String) (inName : 'n' ∈ name.toList) :
      String.ofList ((characters.map plainOf).map Char.toLower) ≠ name := by
    rintro rfl
    rw [String.toList_ofList] at inName
    obtain ⟨source, known, lowered⟩ := List.mem_map.mp inName
    have other : 'n' ∉ ('.' :: plainDigits).map Char.toLower := by decide
    exact other (List.mem_map.mpr ⟨source, plain source known, lowered⟩)
  dsimp only
  rw [decide_eq_false (named "inf" (by decide)), decide_eq_false (named "infinity" (by decide)),
    if_neg (by decide), if_neg (named "nan" (by decide)), decimalOf_of_isDecimal decimal]
  rfl

end Decimals

end SeriesChart.Numeral
