/-
This file proves that a text that names a colour always gives its channels. What the functions of
style sheets find between their brackets are numerals, and all of their digits come from the text.
A text has few characters, lower case adds no digits, and so every number on the way, through the
hues, too, is far from the largest floats: no conversion fails. The function with an opacity takes
any number of digits, so it alone can be given whole numbers of too many digits.
-/

import SeriesChart.Color.Css
import SeriesChart.Proofs.Computation
import SeriesChart.Proofs.Number.Digits
import SeriesChart.Proofs.Number.Range

namespace SeriesChart.Color

open Text Numeral

/-! ### Pieces -/

/-- Digits of any script, at least one. -/
structure IsDigits (digits : List Char) : Prop where
  some : digits ≠ []
  decimal : ∀ digit ∈ digits, isDecimalDigit digit = true

/-- Digits with a point among or beside them. -/
def IsDecimalNumeral (characters : List Char) : Prop :=
  ∃ whole fraction, IsDecimal whole fraction characters

theorem IsDigits.isDecimalNumeral {digits : List Char} (isDigits : IsDigits digits) :
    IsDecimalNumeral digits := by
  refine ⟨digits, [], Or.inr ⟨rfl, rfl⟩, ?_, ?_⟩ <;> rw [List.append_nil]
  · exact isDigits.some
  · exact isDigits.decimal

/-- What the piece finds stands at the front and has the form, and all that follows is left. -/
def Reads (piece : List Char → Option (List Char × List Char)) (form : List Char → Prop) : Prop :=
  ∀ characters argument rest, piece characters = some (argument, rest) →
    characters = argument ++ rest ∧ form argument

theorem reads_digits1 : Reads digits1 IsDigits := by
  intro characters argument rest found
  unfold digits1 at found
  split at found
  · cases found
  · rename_i none
    cases found
    exact ⟨List.takeWhile_append_dropWhile.symm, none, fun digit => List.mem_takeWhile_imp⟩

theorem isDecimalDigit_of_isDigit {character : Char} (digit : character.isDigit = true) :
    isDecimalDigit character = true := by
  have bounds := bounds_of_isDigit digit
  unfold isDecimalDigit digitValue?
  rw [if_pos (by omega), if_pos digit]
  rfl

theorem reads_decimalDigits : Reads decimalDigits IsDecimalNumeral := by
  intro characters argument rest found
  obtain ⟨⟨whole, afterWhole⟩, digits, found⟩ := Option.bind_eq_some_iff.mp found
  obtain ⟨parts, isDigits⟩ := reads_digits1 _ _ _ digits
  dsimp only at found
  split at found
  · rename_i afterPoint
    cases found
    have fraction : ∀ digit ∈ afterPoint.takeWhile isDecimalDigit, isDecimalDigit digit = true :=
      fun digit => List.mem_takeWhile_imp
    refine ⟨?_, whole, afterPoint.takeWhile isDecimalDigit, Or.inl rfl, ?_, ?_⟩
    · rw [parts, List.append_assoc, List.cons_append, List.takeWhile_append_dropWhile]
    · exact List.append_ne_nil_of_left_ne_nil isDigits.some _
    · exact List.forall_mem_append.mpr ⟨isDigits.decimal, fraction⟩
  · cases found
    exact ⟨parts, isDigits.isDecimalNumeral⟩

theorem reads_opacityDigits : Reads opacityDigits IsDecimalNumeral := by
  intro characters argument rest found
  have digits (characters : List Char) : ∀ digit ∈ characters.takeWhile Char.isDigit,
      isDecimalDigit digit = true := fun digit known =>
    isDecimalDigit_of_isDigit (List.mem_takeWhile_imp known)
  have parts : characters.takeWhile Char.isDigit ++ characters.dropWhile Char.isDigit =
    characters := List.takeWhile_append_dropWhile
  have alone : (if characters.takeWhile Char.isDigit = [] then none
      else some (characters.takeWhile Char.isDigit, characters.dropWhile Char.isDigit)) =
        some (argument, rest) → characters = argument ++ rest ∧ IsDecimalNumeral argument := by
    intro found
    split at found
    · cases found
    · rename_i some
      cases found
      exact ⟨parts.symm, IsDigits.isDecimalNumeral ⟨some, digits characters⟩⟩
  unfold opacityDigits at found
  dsimp only at found
  split at found
  · rename_i afterPoint split
    split at found
    · exact alone found
    · rename_i notNone
      cases found
      refine ⟨?_, _, _, Or.inl rfl, List.append_ne_nil_of_right_ne_nil _ notNone,
        List.forall_mem_append.mpr ⟨digits characters, digits afterPoint⟩⟩
      rw [List.append_assoc, List.cons_append, List.takeWhile_append_dropWhile, ← split, parts]
  · exact alone found

/-! ### Calls -/

theorem suffix_of_literal {expected characters rest : List Char}
    (found : literal expected characters = some rest) : rest <:+ characters := by
  fun_induction literal expected characters with
  | case1 rest => cases found; exact List.suffix_refl _
  | case2 expected others rest inductionHypothesis =>
    exact (inductionHypothesis found).trans (List.suffix_cons _ _)
  | case3 | case4 => cases found

theorem skipBlanks_suffix (characters : List Char) : skipBlanks characters <:+ characters :=
  List.dropWhile_suffix _

/-- A way to read an argument, and what follows it at once. -/
abbrev Piece := (List Char → Option (List Char × List Char)) × List Char

/-- The arguments of a function have the forms of its pieces, and they are parts of the text. -/
theorem forall₂_of_arguments {pieces : List Piece} {forms : List (List Char → Prop)}
    (reads : List.Forall₂ (fun piece form => Reads piece.1 form) pieces forms)
    {characters rest : List Char} {found : List (List Char)}
    (read : arguments pieces characters = some (found, rest)) :
    List.Forall₂ (fun argument form => form argument ∧ argument <:+: characters) found forms := by
  induction reads generalizing characters found rest with
  | nil =>
    cases read
    exact .nil
  | @cons piece form others _ first _ inductionHypothesis =>
    obtain ⟨piece, unit⟩ := piece
    obtain ⟨⟨argument, afterArgument⟩, taken, read⟩ := Option.bind_eq_some_iff.mp read
    obtain ⟨afterUnit, unitFound, read⟩ := Option.bind_eq_some_iff.mp read
    obtain ⟨next, further, more, moreFound, rfl⟩ : ∃ next, next <:+ skipBlanks afterUnit ∧
        ∃ more, arguments others next = some (more, rest) ∧ found = argument :: more := by
      dsimp only at read
      split at read
      · change (arguments others (skipBlanks afterUnit)).bind
          (fun both => some (argument :: both.1, both.2)) = _ at read
        obtain ⟨⟨more, last⟩, moreFound, read⟩ := Option.bind_eq_some_iff.mp read
        cases read
        exact ⟨_, List.suffix_refl _, more, moreFound, rfl⟩
      · obtain ⟨next, comma, read⟩ := Option.bind_eq_some_iff.mp read
        obtain ⟨⟨more, last⟩, moreFound, read⟩ := Option.bind_eq_some_iff.mp read
        cases read
        exact ⟨next, suffix_of_literal comma, more, moreFound, rfl⟩
    obtain ⟨split, hasForm⟩ := first _ _ _ taken
    have start : argument ++ afterArgument <:+ characters := by
      rw [← split]
      exact skipBlanks_suffix characters
    have left : next <:+ characters := further.trans <| (skipBlanks_suffix _).trans <|
      (suffix_of_literal unitFound).trans <| (List.suffix_append _ _).trans start
    refine .cons ⟨hasForm, (List.prefix_append _ _).isInfix.trans start.isInfix⟩ ?_
    exact (inductionHypothesis moreFound).imp fun other _ both =>
      ⟨both.1, both.2.trans left.isInfix⟩

theorem forall₂_of_call {name : String} {pieces : List Piece} {forms : List (List Char → Prop)}
    (reads : List.Forall₂ (fun piece form => Reads piece.1 form) pieces forms)
    {characters : List Char} {found : List (List Char)}
    (read : call name pieces characters = some found) :
    List.Forall₂ (fun argument form => form argument ∧ argument <:+: characters) found forms := by
  obtain ⟨start, named, read⟩ := Option.bind_eq_some_iff.mp read
  obtain ⟨⟨arguments, afterArguments⟩, argumentsFound, read⟩ := Option.bind_eq_some_iff.mp read
  obtain ⟨last, closed, read⟩ := Option.bind_eq_some_iff.mp read
  split at read
  · cases read
    exact (forall₂_of_arguments reads argumentsFound).imp fun _ _ both =>
      ⟨both.1, both.2.trans (suffix_of_literal named).isInfix⟩
  · cases read

/-! ### Lower case -/

/-- A text in lower case has no more digits than the text has characters. -/
theorem countP_lowerAfter_le (before characters : List Char) :
    (lowerAfter before characters).countP isDecimalDigit ≤ characters.length := by
  induction characters generalizing before with
  | nil => exact le_refl _
  | cons character rest inductionHypothesis =>
    have single (lowered : Char) : [lowered].countP isDecimalDigit ≤ 1 := List.countP_le_length
    have dotted : ['i', Char.ofNat 0x307].countP isDecimalDigit ≤ 1 := by decide +kernel
    unfold lowerAfter
    dsimp only
    rw [List.countP_append, List.length_cons, Nat.add_comm]
    refine Nat.add_le_add (inductionHypothesis _) ?_
    split
    · exact dotted
    · split
      · exact single _
      · exact single _

/-! ### Numbers of arguments -/

/-- There are no more digits than a name has characters. -/
def IsShort (characters : List Char) : Prop := characters.countP isDecimalDigit ≤ longestName

theorem IsShort.of_infix {part whole : List Char} (short : IsShort whole)
    (inside : part <:+: whole) : IsShort part :=
  (inside.sublist.countP_le).trans short

theorem IsDigits.length_le {digits : List Char} (isDigits : IsDigits digits)
    (short : IsShort digits) : digits.length ≤ longestName := by
  unfold IsShort at short
  rwa [List.countP_eq_length.mpr isDigits.decimal] at short

theorem wholeOf_of_isDigits {digits : List Char} (isDigits : IsDigits digits) :
    wholeOf digits =
      if digitLimit < digits.length then .error (.invalid (.tooManyDigits digits.length))
      else .ok (valueOfDigits (digits.map plainOf)) :=
  readInt_of_digits isDigits.decimal _ isDigits.some

/-- A numeral is near to a number without a sign, with no more digits before its point than it has
in all. -/
theorem floatOf_spec {characters : List Char} (decimal : IsDecimalNumeral characters) :
    HasNoMinus (floatOf characters) ∧ ∃ exact : ℚ, IsNear (floatOf characters) exact ∧ 0 ≤ exact ∧
      exact ≤ 10 ^ characters.countP isDecimalDigit := by
  obtain ⟨whole, fraction, decimal⟩ := decimal
  have count : characters.countP isDecimalDigit = (whole ++ fraction).length := by
    have all := List.countP_eq_length.mpr decimal.digits
    rw [← all]
    obtain rfl | ⟨rfl, rfl⟩ := decimal.form
    · rw [List.countP_append, List.countP_append, List.countP_cons_of_neg (by decide)]
    · rw [List.append_nil]
  unfold floatOf
  rw [readFloat?_of_isDecimal decimal, Option.getD_some, count]
  refine ⟨hasNoMinus_ofScientific _ _ _, _, isNear_nearestFloat _ _, by positivity, ?_⟩
  have small := valueOfDigits_lt (forall_map_plainOf decimal.digits)
  rw [List.length_map] at small
  calc _ ≤ (valueOfDigits ((whole ++ fraction).map plainOf) : ℚ) :=
        div_le_self (Nat.cast_nonneg _) (one_le_pow₀ (by norm_num))
    _ ≤ 10 ^ (whole ++ fraction).length := by exact_mod_cast small.le

/-- The size of numbers with as many digits as a name has characters. -/
def nameSize : ℤ := 333

theorem ten_pow_le : (10 : ℚ) ^ longestName ≤ 2 ^ nameSize := by
  have whole : 10 ^ 100 ≤ 2 ^ 333 := by decide +kernel
  rw [show nameSize = (333 : ℕ) from rfl, zpow_natCast]
  exact_mod_cast whole

theorem within_floatOf {characters : List Char} (decimal : IsDecimalNumeral characters)
    (short : IsShort characters) : Within nameSize (floatOf characters) := by
  obtain ⟨-, exact, near, nonnegative, small⟩ := floatOf_spec decimal
  refine near.within ?_ (by decide) (by decide)
  rw [abs_of_nonneg nonnegative]
  exact (small.trans (pow_le_pow_right₀ (by norm_num) short)).trans ten_pow_le

/-! ### Hues -/

theorem worth_hundred : (100.0 : Float).isFinite = true ∧ worth 100.0 = 100 := by decide +kernel

theorem within_div_circle {number : Float} (within : Within nameSize number) :
    Within 325 (number / 360.0) := by
  have worths : (360.0 : Float).isFinite = true ∧ worth 360.0 = 360 := by decide +kernel
  have large : (2 : ℚ) ^ (8 : ℤ) ≤ worth 360.0 := by
    rw [worths.2]
    norm_num
  exact within_div_of_le 8 within worths.1 large (by decide) (by decide)

theorem within_div_hundred {number : Float} (within : Within nameSize number) :
    Within 327 (number / 100.0) := by
  have large : (2 : ℚ) ^ (6 : ℤ) ≤ worth 100.0 := by
    rw [worth_hundred.2]
    norm_num
  exact within_div_of_le 6 within worth_hundred.1 large (by decide) (by decide)

/-- A hue keeps its part behind the point. -/
theorem yields_wrapHue {hue : Float} (within : Within 326 hue) :
    Yields (wrapHue hue) (Within 329) := by
  obtain ⟨whole, read, withinWhole⟩ :=
    exists_whole_within within (by decide) (by decide) .towardZero
  have fraction : Within 328 (hue - Float.ofInt whole) :=
    within_sub (within.mono (by decide)) withinWhole (by decide) (by decide)
  have one : Within 328 (1.0 : Float) := within_of_fitsSize (by decide)
  unfold wrapHue fractionOf
  rw [read]
  refine yields_ok ?_
  split
  · exact within_add fraction one (by decide) (by decide)
  · exact fraction.mono (by decide)

/-- The size of the parts of channels. -/
def partSize : ℤ := 991

theorem yields_partAtHue {low high hue : Float} (lowWithin : Within 656 low)
    (highWithin : Within 656 high) (hueWithin : Within 326 hue) :
    Yields (partAtHue low high hue) (Within partSize) := by
  have extent : Within 657 (high - low) := within_sub highWithin lowWithin (by decide) (by decide)
  have six : Within 3 (6.0 : Float) := within_of_fitsSize (by decide)
  have wide : Within 990 low := lowWithin.mono (by decide)
  refine (yields_wrapHue hueWithin).bind fun wrapped within => yields_ok ?_
  have rising : Within 990 ((high - low) * wrapped * 6.0) :=
    (within_mul (within_mul extent within (by decide) (by decide)) six (by decide)
      (by decide)).mono (by decide)
  have left : Within 330 (2.0 / 3.0 - wrapped) :=
    within_sub (within_of_fitsSize (by decide)) within (by decide) (by decide)
  have falling : Within 990 ((high - low) * (2.0 / 3.0 - wrapped) * 6.0) :=
    within_mul (within_mul extent left (by decide) (by decide)) six (by decide) (by decide)
  split_ifs
  · exact within_add wide rising (by decide) (by decide)
  · exact highWithin.mono (by decide)
  · exact within_add wide falling (by decide) (by decide)
  · exact lowWithin.mono (by decide)

section Parts

variable {hue saturation lightness : Float} (hueWithin : Within 325 hue)
  (saturationWithin : Within 327 saturation) (lightnessWithin : Within 327 lightness)

include hueWithin saturationWithin lightnessWithin

theorem yields_partsOfLightness : Yields (partsOfLightness hue lightness saturation)
    fun parts => ∀ part ∈ parts, Within partSize part := by
  have one : Within 327 (1.0 : Float) := within_of_fitsSize (by decide)
  have third : Within 325 (1.0 / 3.0 : Float) := within_of_fitsSize (by decide)
  have two : Within 2 (2.0 : Float) := within_of_fitsSize (by decide)
  have light : Within partSize lightness := lightnessWithin.mono (by decide)
  have above : Within 655 (lightness * (1.0 + saturation)) :=
    within_mul lightnessWithin (within_add one saturationWithin (by decide) (by decide))
      (by decide) (by decide)
  have below : Within 655 (lightness + saturation - lightness * saturation) :=
    within_sub ((within_add lightnessWithin saturationWithin (by decide) (by decide)).mono
      (by decide)) (within_mul lightnessWithin saturationWithin (by decide) (by decide))
      (by decide) (by decide)
  unfold partsOfLightness
  split
  · exact yields_ok (by simp [light])
  · dsimp only
    have highWithin : Within 655 (if lightness ≤ 0.5 then lightness * (1.0 + saturation)
        else lightness + saturation - lightness * saturation) := by
      split
      · exact above
      · exact below
    generalize (if lightness ≤ 0.5 then lightness * (1.0 + saturation)
        else lightness + saturation - lightness * saturation) = high at highWithin
    have lowWithin : Within 656 (2.0 * lightness - high) :=
      within_sub ((within_mul two lightnessWithin (by decide) (by decide)).mono (by decide))
        highWithin (by decide) (by decide)
    have channel {hue : Float} (within : Within 326 hue) :=
      yields_partAtHue lowWithin (highWithin.mono (by decide)) within
    refine (channel (within_add hueWithin third (by decide) (by decide))).bind fun red redWithin =>
      (channel (hueWithin.mono (by decide))).bind fun green greenWithin =>
      (channel (within_sub hueWithin third (by decide) (by decide))).bind fun blue blueWithin =>
      yields_ok ?_
    simp [redWithin, greenWithin, blueWithin]

theorem yields_partsOfValue : Yields (partsOfValue hue saturation lightness)
    fun parts => ∀ part ∈ parts, Within partSize part := by
  have one : Within 327 (1.0 : Float) := within_of_fitsSize (by decide)
  have six : Within 3 (6.0 : Float) := within_of_fitsSize (by decide)
  have light : Within partSize lightness := lightnessWithin.mono (by decide)
  have turned := within_mul hueWithin six (by decide) (by decide)
  unfold partsOfValue
  split
  · exact yields_ok (by simp [light])
  · obtain ⟨sector, read, sectorWithin⟩ :=
      exists_whole_within turned (by decide) (by decide) .towardZero
    have fraction := within_sub (turned.mono (by decide)) sectorWithin (by decide) (by decide)
    have shade {weight : Float} (within : Within 331 weight) :
        Within partSize (lightness * (1.0 - saturation * weight)) := by
      have product := within_mul saturationWithin within (by decide) (by decide)
      have rest := within_sub (one.mono (by decide)) product (by decide) (by decide)
      exact (within_mul lightnessWithin rest (by decide) (by decide)).mono (by decide)
    have low : Within partSize (lightness * (1.0 - saturation)) :=
      (within_mul lightnessWithin (within_sub one saturationWithin (by decide) (by decide))
        (by decide) (by decide)).mono (by decide)
    have falling := shade (fraction.mono (by decide))
    have rising := shade (within_sub (one.mono (by decide)) fraction (by decide) (by decide))
    rw [read]
    refine yields_ok ?_
    split <;> simp [light, low, falling, rising]

end Parts

theorem yields_channelOfPart {part : Float} (within : Within partSize part) :
    Yields (channelOfPart part) fun _ => True := by
  have scale : Within 8 (255.0 : Float) := within_of_fitsSize (by decide)
  have half : Within 999 (0.5 : Float) := within_of_fitsSize (by decide)
  have scaled := within_mul within scale (by decide) (by decide)
  have raised := within_add scaled half (by decide) (by decide)
  obtain ⟨whole, read⟩ := toWhole_of_isFinite raised.finite .towardZero
  exact ⟨whole, read, trivial⟩

/-! ### Texts -/

theorem yields_wholeOf {digits : List Char} (isDigits : IsDigits digits) (short : IsShort digits) :
    Yields (wholeOf digits) fun whole => |(whole : ℚ)| ≤ 2 ^ nameSize := by
  have few := isDigits.length_le short
  have enough : ¬digitLimit < digits.length := by
    unfold longestName at few
    unfold digitLimit
    omega
  have small := valueOfDigits_lt (forall_map_plainOf isDigits.decimal)
  rw [List.length_map] at small
  rw [wholeOf_of_isDigits isDigits, if_neg enough]
  refine yields_ok ?_
  rw [Int.cast_natCast, Nat.abs_cast]
  calc (valueOfDigits (digits.map plainOf) : ℚ)
      ≤ 10 ^ digits.length := by exact_mod_cast small.le
    _ ≤ 10 ^ longestName := pow_le_pow_right₀ (by norm_num) few
    _ ≤ 2 ^ nameSize := ten_pow_le

theorem yields_channelOfPercentage {percentage : ℤ} (small : |(percentage : ℚ)| ≤ 2 ^ nameSize) :
    Yields (channelOfPercentage percentage) fun _ => True := by
  have scaled : |((percentage * 255 : ℤ) : ℚ)| ≤ 2 ^ (nameSize + 8) := by
    rw [two_zpow_add]
    push_cast
    rw [abs_mul]
    exact mul_le_mul small (by norm_num) (abs_nonneg _) (two_zpow_pos _).le
  have within : Within (nameSize + 8) (Float.ofInt (percentage * 255)) :=
    within_ofInt scaled (by decide) (by decide)
  have large : (2 : ℚ) ^ (6 : ℤ) ≤ worth 100.0 := by
    rw [worth_hundred.2]
    norm_num
  have part : Within (nameSize + 2) (Float.ofInt (percentage * 255) / 100.0) :=
    within_div_of_le 6 within worth_hundred.1 large (by decide) (by decide)
  have half : Within (nameSize + 2) (0.5 : Float) := within_of_fitsSize (by decide)
  have raised := within_add part half (by decide) (by decide)
  obtain ⟨whole, read⟩ := toWhole_of_isFinite raised.finite .towardZero
  unfold channelOfPercentage
  rw [ofInt_of_isFinite within.finite]
  exact ⟨whole, read, trivial⟩

/-- What a function with pieces of one form finds in a short text. -/
theorem forall_of_call {name : String} {pieces : List Piece} {form : List Char → Prop}
    (reads : ∀ piece ∈ pieces, Reads piece.1 form) {characters : List Char}
    (short : IsShort characters) {found : List (List Char)}
    (read : call name pieces characters = some found) :
    ∀ argument ∈ found, form argument ∧ IsShort argument := by
  have same : List.Forall₂ (fun piece form => Reads piece.1 form) pieces
      (pieces.map fun _ => form) :=
    List.forall₂_map_right_iff.mpr (List.forall₂_same.mpr reads)
  have each := List.forall₂_map_right_iff.mp (forall₂_of_call same read)
  intro argument known
  obtain ⟨place, inside, rfl⟩ := List.getElem_of_mem known
  have both := each.get inside (each.length_eq ▸ inside)
  exact ⟨both.1, short.of_infix both.2⟩

section Functions

variable {name : String} {pieces : List Piece} {characters : List Char} {found : List (List Char)}
  (short : IsShort characters)

include short

theorem yields_wholeOf_of_call (digits : ∀ piece ∈ pieces, piece.1 = digits1)
    (read : call name pieces characters = some found) :
    ∀ argument ∈ found, Yields (wholeOf argument) fun whole => |(whole : ℚ)| ≤ 2 ^ nameSize := by
  intro argument known
  have reads : ∀ piece ∈ pieces, Reads piece.1 IsDigits := fun piece known => by
    rw [digits piece known]
    exact reads_digits1
  obtain ⟨isDigits, few⟩ := forall_of_call reads short read argument known
  exact yields_wholeOf isDigits few

theorem within_floatOf_of_call (digits : ∀ piece ∈ pieces, piece.1 = decimalDigits)
    (read : call name pieces characters = some found) :
    ∀ argument ∈ found, Within nameSize (floatOf argument) := by
  intro argument known
  have reads : ∀ piece ∈ pieces, Reads piece.1 IsDecimalNumeral := fun piece known => by
    rw [digits piece known]
    exact reads_decimalDigits
  obtain ⟨decimal, few⟩ := forall_of_call reads short read argument known
  exact within_floatOf decimal few

end Functions

theorem yields_channelsOfParts {parts : Except Fault (List Float)}
    (known : Yields parts fun parts => ∀ part ∈ parts, Within partSize part) :
    Yields (do (← parts).mapM channelOfPart) fun _ => True :=
  known.bind fun _ within =>
    (yields_mapM fun part known => yields_channelOfPart (within part known)).anyway

/-- A function gives its channels: no conversion fails. -/
theorem yields_function? {characters : List Char} (short : IsShort characters)
    {outcome : Except Fault (List ℤ)} (called : function? characters = some outcome) :
    Yields outcome fun _ => True := by
  unfold function? at called
  dsimp only at called
  split at called
  · rename_i found read
    cases called
    exact (yields_mapM (yields_wholeOf_of_call short (by simp) read)).anyway
  · split at called
    · rename_i found read
      cases called
      have each : ∀ argument ∈ found,
          Yields (do channelOfPercentage (← wholeOf argument)) fun _ => True :=
        fun argument known =>
          (yields_wholeOf_of_call short (by simp) read argument known).bind fun _ =>
            yields_channelOfPercentage
      exact (yields_mapM each).anyway
    · split at called
      · rename_i h s l read
        cases called
        have within := within_floatOf_of_call short (by simp) read
        exact yields_channelsOfParts <|
          yields_partsOfLightness (within_div_circle (within h (by simp)))
            (within_div_hundred (within s (by simp))) (within_div_hundred (within l (by simp)))
      · cases called
      · split at called
        · rename_i h s v read
          cases called
          have within : ∀ argument ∈ [h, s, v], Within nameSize (floatOf argument) := by
            obtain read | read := Option.or_eq_some_iff.mp (Option.orElse_eq_or.symm.trans read)
            · exact within_floatOf_of_call short (by simp) read
            · exact within_floatOf_of_call short (by simp) read.2
          exact yields_channelsOfParts <|
            yields_partsOfValue (within_div_circle (within h (by simp)))
              (within_div_hundred (within s (by simp))) (within_div_hundred (within v (by simp)))
        · cases called
        · obtain ⟨found, read, rfl⟩ := Option.map_eq_some_iff.mp called
          exact (yields_mapM (yields_wholeOf_of_call short (by simp) read)).anyway

/-- A text that names a colour gives its channels. -/
theorem yields_channels? {text : String} {outcome : Except Fault (List ℤ)}
    (named : channels? text = some outcome) : Yields outcome fun _ => True := by
  unfold channels? at named
  split at named
  · cases named
  · rename_i few
    have short : IsShort (lowercase text).toList := by
      unfold IsShort lowercase
      rw [String.toList_ofList]
      exact (countP_lowerAfter_le [] _).trans (by rw [String.length_toList]; exact not_lt.mp few)
    dsimp only at named
    split at named
    · cases named
      exact yields_ok trivial
    · split at named
      · cases named
        exact yields_ok trivial
      · exact yields_function? short named

/-! ### The function with an opacity -/

/-- The function with an opacity is given three whole numbers and a decimal one. -/
theorem forms_of_opacityCall? {text : String} {found : List (List Char)}
    (called : opacityCall? text = some found) :
    ∃ red green blue opacity, found = [red, green, blue, opacity] ∧
      (∀ digits ∈ [red, green, blue], IsDigits digits) ∧ IsDecimalNumeral opacity := by
  have forms := forall₂_of_call (.cons reads_digits1 <| .cons reads_digits1 <|
    .cons reads_digits1 <| .cons reads_opacityDigits .nil) called
  obtain ⟨red, _, isRed, afterRed, rfl⟩ := List.forall₂_cons_right_iff.mp forms
  obtain ⟨green, _, isGreen, afterGreen, rfl⟩ := List.forall₂_cons_right_iff.mp afterRed
  obtain ⟨blue, _, isBlue, afterBlue, rfl⟩ := List.forall₂_cons_right_iff.mp afterGreen
  obtain ⟨opacity, _, isOpacity, afterOpacity, rfl⟩ := List.forall₂_cons_right_iff.mp afterBlue
  obtain rfl := List.forall₂_nil_right_iff.mp afterOpacity
  refine ⟨red, green, blue, opacity, rfl, ?_, isOpacity.1⟩
  simp [isRed.1, isGreen.1, isBlue.1]

end SeriesChart.Color
