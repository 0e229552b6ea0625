/-
This file says when making a colour ends with a fault that is not called one of the options, and
that the colours that are made are in range. A text does so only as the function with an opacity,
when a channel has too many digits. A tuple does so when one of its channels is no whole number, or
when it is refused and the message would have to show a whole number that is too long.
-/

import SeriesChart.Color.Coercion
import SeriesChart.Proofs.Color.Functions
import SeriesChart.Proofs.Records.Escapes

namespace SeriesChart

open Numeral

/-! ### Outcomes -/

/-- The outcome is a fault that is none of the options. -/
def Strays {Result : Type} (outcome : Except Fault Result) : Prop :=
  Fails (fun fault => ∀ cause, fault ≠ .config cause) outcome

section Outcomes

variable {Result : Type}

theorem not_strays_config (cause : ConfigCause) :
    ¬Strays (.error (.config cause) : Except Fault Result) :=
  fun strays => (fails_error_iff _).mp strays cause rfl

theorem strays_of_ne {fault : Fault} (other : ∀ cause, fault ≠ .config cause) :
    Strays (.error fault : Except Fault Result) := ⟨fault, rfl, other⟩

/-- The outcome is a result with the property, or a fault of the options. -/
def Settles (outcome : Except Fault Result) (holds : Result → Prop) : Prop :=
  Yields outcome holds ∨ ∃ cause, outcome = .error (.config cause)

theorem settles_iff {outcome : Except Fault Result} {holds : Result → Prop} :
    Settles outcome holds ↔ ¬Strays outcome ∧ ∀ result, outcome = .ok result → holds result := by
  constructor
  · rintro (⟨result, rfl, held⟩ | ⟨cause, rfl⟩)
    · refine ⟨not_fails_ok result, fun found same => ?_⟩
      cases same
      exact held
    · exact ⟨not_strays_config cause, nofun⟩
  · rintro ⟨stays, held⟩
    cases outcome with
    | ok result => exact Or.inl (yields_ok (held result rfl))
    | error fault =>
      obtain ⟨cause, same⟩ := not_forall_not.mp fun other => stays (strays_of_ne other)
      exact Or.inr ⟨cause, congrArg _ same⟩

end Outcomes

namespace Value

/-! ### Values in messages -/

theorem checkShowable_of_isTooLong {value : Value} (long : value.IsTooLong) :
    value.checkShowable = .error (.invalid .tooLongToShow) := by
  obtain ⟨fault, refused, rfl⟩ := value.refuses_checkShowable.fails long
  exact refused

theorem not_isTooLong {value : Value} (shown : value.checkShowable = .ok ()) : ¬value.IsTooLong :=
  fun long => by cases shown.symm.trans (checkShowable_of_isTooLong long)

/-- Showing a value at first strays just when the value is too long, if the rest does not. -/
theorem strays_showable_bind_iff {Result : Type} (value : Value) {rest : Except Fault Result}
    (stays : ¬Strays rest) : Strays (value.checkShowable >>= fun _ => rest) ↔ value.IsTooLong := by
  by_cases long : value.IsTooLong
  · rw [checkShowable_of_isTooLong long]
    exact iff_of_true (strays_of_ne nofun) long
  · rw [(refuses_checkShowable value).passes long]
    exact iff_of_false stays long

/-- Refusing a value strays just when the message cannot show it. -/
theorem strays_refuse_iff {Result : Type} (value : Value) (cause : String → ConfigCause) :
    Strays (value.refuse fun shown => .config (cause shown) : Except Fault Result) ↔
      value.IsTooLong :=
  value.strays_showable_bind_iff (not_strays_config _)

theorem isTooLong_tuple_iff (items : List Value) :
    (Value.tuple items).IsTooLong ↔ ∃ item ∈ items, item.IsTooLong := by
  constructor
  · rintro ⟨number, shows, long⟩
    cases shows with
    | member known shows => exact ⟨_, known, number, shows, long⟩
  · rintro ⟨item, known, number, shows, long⟩
    exact ⟨number, .member known shows, long⟩

/-! ### Whole numbers -/

/-- The value stands for no whole number. -/
def IsNoWhole (value : Value) : Prop := ∀ whole, value.toInt ≠ .ok whole

theorem readInt_ne_config (shown : String) (characters : List Char) (cause : ConfigCause) :
    readInt shown characters ≠ .error (.config cause) := by
  unfold readInt
  dsimp only
  split
  · exact nofun
  · split
    · exact nofun
    · split
      · exact nofun
      · split <;> exact nofun

/-- A value that stands for no whole number has a type or a form that no number has, or it is
infinite; none of that is a fault of the options. -/
theorem toInt_ne_config (value : Value) (cause : ConfigCause) :
    value.toInt ≠ .error (.config cause) := by
  cases value with
  | float number | cell number =>
    show (Binary.ofFloat number).toInt .towardZero ≠ _
    cases Binary.ofFloat number <;> exact nofun
  | decimal number => cases number <;> exact nofun
  | array grid =>
    show (grid.toFloat >>= fun number => (Binary.ofFloat number).toInt .towardZero) ≠ _
    obtain ⟨number, read⟩ | refused := grid.toFloat_cases
    · rw [read]
      show (Binary.ofFloat number).toInt .towardZero ≠ _
      cases Binary.ofFloat number <;> exact nofun
    · rw [refused]
      exact nofun
  | text | bytes => exact readInt_ne_config _ _ cause
  | moment counted =>
    unfold toInt
    dsimp only
    split <;> exact nofun
  | _ => exact nofun

theorem strays_toInt_iff (value : Value) : Strays value.toInt ↔ value.IsNoWhole := by
  constructor
  · rintro ⟨fault, refused, -⟩ whole same
    cases refused.symm.trans same
  · intro none
    cases made : value.toInt with
    | ok whole => exact absurd made (none whole)
    | error fault =>
      refine strays_of_ne fun cause same => value.toInt_ne_config cause ?_
      rw [made, same]

theorem strays_mapM_toInt_iff (items : List Value) :
    Strays (items.mapM toInt) ↔ ∃ item ∈ items, item.IsNoWhole := by
  induction items with
  | nil => exact iff_of_false (not_fails_ok _) (by simp)
  | cons item rest inductionHypothesis =>
    rw [List.mapM_cons, List.exists_mem_cons_iff, ← inductionHypothesis]
    have others (channel : ℤ) : Strays (rest.mapM toInt >>= fun channels =>
        (pure (channel :: channels) : Except Fault (List ℤ))) ↔ Strays (rest.mapM toInt) :=
      (fails_bind_iff _ _).trans (or_iff_left fun ⟨_, _, fails⟩ => not_fails_ok _ fails)
    refine (fails_bind_iff _ _).trans ?_
    rw [← strays_toInt_iff]
    cases made : item.toInt with
    | ok channel =>
      refine or_congr Iff.rfl ⟨fun ⟨_, _, strays⟩ => (others _).mp strays, fun strays =>
        ⟨channel, rfl, (others channel).mpr strays⟩⟩
    | error fault =>
      have strays : Strays (.error fault : Except Fault ℤ) := by
        rw [← made, strays_toInt_iff]
        exact fun whole same => by cases made.symm.trans same
      exact iff_of_true (Or.inl strays) (Or.inl strays)

theorem forall₂_of_mapM_toInt {items : List Value} {channels : List ℤ}
    (made : items.mapM toInt = .ok channels) :
    List.Forall₂ (fun item channel => item.toInt = .ok channel) items channels := by
  induction items generalizing channels with
  | nil =>
    cases made
    exact .nil
  | cons item rest inductionHypothesis =>
    rw [List.mapM_cons] at made
    obtain ⟨channel, first, made⟩ := except_bind_eq_ok made
    obtain ⟨others, further, made⟩ := except_bind_eq_ok made
    cases made
    exact .cons first (inductionHypothesis further)

/-- What cannot be shown and stands for a whole number is one of too many digits. -/
theorem long_of_toInt {value : Value} {whole : ℤ} (long : value.IsTooLong)
    (made : value.toInt = .ok whole) : tenTo digitLimit ≤ whole.natAbs := by
  obtain ⟨number, shows, large⟩ := long
  cases shows with
  | self =>
    cases made
    exact large
  | item | member | key | value | cell => cases made

end Value

/-! ### Colours -/

namespace Color

open Value

theorem strays_check_iff (source : Value) (color : Color) :
    Strays (ofChannels.check source color) ↔ color.isValid = false ∧ source.IsTooLong := by
  unfold ofChannels.check
  split
  · rename_i valid
    exact iff_of_false (not_fails_ok _) fun ⟨invalid, _⟩ => by simp [valid] at invalid
  · rename_i invalid
    rw [strays_refuse_iff]
    exact (and_iff_right (Bool.eq_false_iff.mpr invalid)).symm

theorem not_strays_ofChannels_text (text : String) (channels : List ℤ) :
    ¬Strays (ofChannels (.text text) channels) := by
  have shown : ¬(Value.text text).IsTooLong := not_isTooLong rfl
  unfold ofChannels
  split
  · exact fun strays => shown ((strays_check_iff _ _).mp strays).2
  · exact fun strays => shown ((strays_check_iff _ _).mp strays).2
  · exact fun strays => shown ((strays_refuse_iff _ _).mp strays)

theorem natAbs_le_of_isChannel {value : ℤ} (channel : isChannel value = true) :
    value.natAbs ≤ 255 := by
  unfold isChannel at channel
  rw [Bool.and_eq_true, decide_eq_true_eq, decide_eq_true_eq] at channel
  omega

theorem not_isValid {color : Color} {channel : ℤ}
    (known : channel ∈ [color.red, color.green, color.blue, color.alpha])
    (invalid : isChannel channel = false) : color.isValid = false := by
  unfold isValid
  simp only [List.mem_cons, List.not_mem_nil, or_false] at known
  obtain rfl | rfl | rfl | rfl := known <;> simp [invalid]

/-- A tuple that is too long to be shown has a channel that is out of range. -/
theorem strays_ofChannels_iff {items : List Value} {channels : List ℤ}
    (made : items.mapM toInt = .ok channels) :
    Strays (ofChannels (.tuple items) channels) ↔ (Value.tuple items).IsTooLong := by
  have each := forall₂_of_mapM_toInt made
  have count := each.length_eq
  have far (long : (Value.tuple items).IsTooLong) :
      ∃ channel ∈ channels, isChannel channel = false := by
    obtain ⟨item, known, long⟩ := (isTooLong_tuple_iff items).mp long
    obtain ⟨place, inside, rfl⟩ := List.getElem_of_mem known
    have large := long_of_toInt long (each.get inside (count ▸ inside))
    refine ⟨_, List.getElem_mem (count ▸ inside), Bool.eq_false_iff.mpr fun channel => ?_⟩
    have small := natAbs_le_of_isChannel channel
    have limit : 255 < tenTo digitLimit := by decide +kernel
    exact absurd (large.trans small) (not_le.mpr limit)
  unfold ofChannels
  split
  · refine (strays_check_iff _ _).trans (and_iff_right_of_imp fun long => ?_)
    obtain ⟨channel, known, invalid⟩ := far long
    exact not_isValid (List.mem_append_left [255] known) invalid
  · refine (strays_check_iff _ _).trans (and_iff_right_of_imp fun long => ?_)
    obtain ⟨channel, known, invalid⟩ := far long
    exact not_isValid known invalid
  · exact strays_refuse_iff _ _

/-! ### The function with an opacity -/

theorem one_lt_of_isInf {number : Float} (unsigned : HasNoMinus number)
    (infinite : number.isInf = true) : 1.0 < number := by
  rw [lt_iff_parts]
  change number.toModel.unpack.isInf = true at infinite
  unfold HasNoMinus at unsigned
  generalize number.toModel.unpack = parts at unsigned infinite
  cases unsigned with
  | infinity => decide
  | notANumber | zero | finite => cases infinite

/-- An opacity of at most one becomes a channel. -/
theorem exists_channel_of_opacity {opacity : List Char} (decimal : IsDecimalNumeral opacity)
    (small : ¬1.0 < floatOf opacity) :
    ∃ alpha, Binary.toWhole .nearestEven (floatOf opacity * 255.0) = .ok alpha ∧
      isChannel alpha = true := by
  have one : (1.0 : Float).isFinite = true ∧ worth 1.0 = 1 := by decide +kernel
  have scale : (255.0 : Float).isFinite = true ∧ worth 255.0 = 255 := by decide +kernel
  have most : IsRepresentable Float.Model.Format.binary64 255 := by
    exact_mod_cast isRepresentable_natCast (by decide) (by decide : 255 < 2 ^ 53)
  obtain ⟨unsigned, exact, near, nonnegative, -⟩ := floatOf_spec decimal
  obtain close | ⟨infinite, -⟩ := near
  · have least := close.ge 0 isRepresentable_zero nonnegative
    rw [lt_iff_worth one.1 close.finite, one.2, not_lt] at small
    have product := isNear_mul close.finite scale.1
    rw [scale.2] at product
    have bounded : |worth (floatOf opacity) * 255| ≤ 2 ^ roomSize := by
      rw [abs_of_nonneg (by positivity)]
      exact (by linarith : _ ≤ (2 : ℚ) ^ (8 : ℤ)).trans (two_zpow_le (by decide))
    have scaled := product.isClose bounded
    have lower := scaled.ge 0 isRepresentable_zero (by positivity)
    have upper := scaled.le 255 most (by linarith)
    obtain ⟨alpha, read, apart⟩ := exists_nearest scaled.finite
    refine ⟨alpha, read, ?_⟩
    rw [abs_le] at apart
    have above : (-1 : ℚ) < alpha := by linarith
    have below : (alpha : ℚ) < 256 := by linarith
    have aboveWhole : -1 < alpha := by exact_mod_cast above
    have belowWhole : alpha < 256 := by exact_mod_cast below
    unfold isChannel
    rw [Bool.and_eq_true, decide_eq_true_eq, decide_eq_true_eq]
    omega
  · exact absurd (one_lt_of_isInf unsigned infinite) small

section OpacityCall

variable {shown : String} {red green blue opacity : List Char}

/-- With digits enough the function makes a colour in range, or is refused as a fault of the
options. -/
theorem settles_ofOpacityCall (digits : ∀ digits ∈ [red, green, blue], IsDigits digits)
    (short : ∀ digits ∈ [red, green, blue], ¬digitLimit < digits.length)
    (decimal : IsDecimalNumeral opacity) :
    Settles (ofOpacityCall shown red green blue opacity) (·.isValid = true) := by
  have whole {characters : List Char} (known : characters ∈ [red, green, blue]) :
      wholeOf characters = .ok (valueOfDigits (characters.map plainOf)) := by
    rw [wholeOf_of_isDigits (digits _ known), if_neg (short _ known)]
  have channel {value : ℕ} (small : ¬255 < (value : ℤ)) : isChannel value = true := by
    unfold isChannel
    rw [Bool.and_eq_true, decide_eq_true_eq, decide_eq_true_eq]
    omega
  unfold ofOpacityCall
  rw [whole (by simp), whole (by simp), whole (by simp)]
  dsimp only [bind, Except.bind]
  split
  · exact Or.inr ⟨_, rfl⟩
  · rename_i inRange
    simp only [Bool.or_eq_true, decide_eq_true_eq, not_or] at inRange
    obtain ⟨⟨⟨redSmall, greenSmall⟩, blueSmall⟩, opacitySmall⟩ := inRange
    obtain ⟨alpha, read, alphaChannel⟩ := exists_channel_of_opacity decimal opacitySmall
    rw [read]
    refine Or.inl (yields_ok ?_)
    unfold isValid
    rw [channel redSmall, channel greenSmall, channel blueSmall, alphaChannel]
    rfl

theorem strays_ofOpacityCall (digits : ∀ digits ∈ [red, green, blue], IsDigits digits)
    (long : ∃ digits ∈ [red, green, blue], digitLimit < digits.length) :
    Strays (ofOpacityCall shown red green blue opacity) := by
  have outcome (characters : List Char) (known : characters ∈ [red, green, blue]) :
      Strays (wholeOf characters) ∨
        ¬digitLimit < characters.length ∧ ∃ whole, wholeOf characters = .ok whole := by
    rw [wholeOf_of_isDigits (digits _ known)]
    by_cases tooMany : digitLimit < characters.length
    · rw [if_pos tooMany]
      exact Or.inl (strays_of_ne nofun)
    · rw [if_neg tooMany]
      exact Or.inr ⟨tooMany, _, rfl⟩
  -- The channels are read one after the other, and the first long one ends the call.
  refine (fails_bind_iff _ _).mpr ?_
  obtain strays | ⟨redShort, redWhole, read⟩ := outcome red (by simp)
  · exact Or.inl strays
  refine Or.inr ⟨redWhole, read, (fails_bind_iff _ _).mpr ?_⟩
  obtain strays | ⟨greenShort, greenWhole, read⟩ := outcome green (by simp)
  · exact Or.inl strays
  refine Or.inr ⟨greenWhole, read, (fails_bind_iff _ _).mpr (Or.inl ?_)⟩
  obtain strays | ⟨blueShort, -⟩ := outcome blue (by simp)
  · exact strays
  · simp [redShort, greenShort, blueShort] at long

end OpacityCall

end Color

/-! ### Values as colours -/

/-- The value ends the making of a colour with a fault that is none of the options: a call of the
function with an opacity has a channel of too many digits, a tuple of three or four members has one
that is no whole number, or a tuple that is refused cannot be shown. -/
def Value.BreaksColor : Value → Prop
  | .text written => ∃ red green blue opacity,
    Color.opacityCall? written = some [red, green, blue, opacity] ∧
      ∃ digits ∈ [red, green, blue], digitLimit < digits.length
  | .tuple items => (items.length = 3 ∨ items.length = 4) ∧ (∃ item ∈ items, item.IsNoWhole) ∨
    (Value.tuple items).IsTooLong
  | _ => False

namespace Color

open Value

/-- A text has a channel of too many digits and ends so, or it makes a colour in range or is refused
as a fault of the options. -/
theorem ofText_cases (text : String) :
    ((Value.text text).BreaksColor ∧ Strays (ofText text)) ∨
      ¬(Value.text text).BreaksColor ∧ Settles (ofText text) (·.isValid = true) := by
  unfold ofText
  dsimp only
  cases called : opacityCall? text with
  | some found =>
    obtain ⟨red, green, blue, opacity, rfl, digits, decimal⟩ := forms_of_opacityCall? called
    by_cases long : ∃ digits ∈ [red, green, blue], digitLimit < digits.length
    · exact Or.inl ⟨⟨red, green, blue, opacity, called, long⟩, strays_ofOpacityCall digits long⟩
    · have short : ∀ digits ∈ [red, green, blue], ¬digitLimit < digits.length :=
        fun digits known tooMany => long ⟨digits, known, tooMany⟩
      refine Or.inr ⟨?_, settles_ofOpacityCall digits short decimal⟩
      rintro ⟨_, _, _, _, same, tooMany⟩
      cases called.symm.trans same
      exact long tooMany
  | none =>
    have noCall : ¬(Value.text text).BreaksColor := by
      rintro ⟨_, _, _, _, impossible, -⟩
      cases called.symm.trans impossible
    refine Or.inr ⟨noCall, ?_⟩
    cases named : channels? text with
    | none => exact Or.inr ⟨_, rfl⟩
    | some outcome =>
      obtain ⟨channels, rfl, -⟩ := yields_channels? named
      exact settles_iff.mpr
        ⟨not_strays_ofChannels_text text channels, fun _ => isValid_of_ofChannels⟩

theorem strays_ofValue_iff (value : Value) : Strays (ofValue value) ↔ value.BreaksColor := by
  cases value with
  | text text =>
    obtain ⟨breaks, strays⟩ | ⟨sound, settles⟩ := ofText_cases text
    · exact iff_of_true strays breaks
    · exact iff_of_false (settles_iff.mp settles).1 sound
  | tuple items =>
    unfold ofValue Value.BreaksColor
    dsimp only
    split
    · rename_i size
      rw [and_iff_right size]
      refine (fails_bind_iff _ _).trans ?_
      change Strays _ ∨ _ ↔ _
      rw [strays_mapM_toInt_iff]
      refine or_congr_right' fun whole => ?_
      constructor
      · rintro ⟨channels, made, strays⟩
        exact (strays_ofChannels_iff made).mp strays
      · intro long
        have each : ∀ item ∈ items, Yields item.toInt fun _ => True := fun item known => by
          obtain ⟨channel, made⟩ := not_forall_not.mp fun none => whole ⟨item, known, none⟩
          exact ⟨channel, made, trivial⟩
        obtain ⟨channels, made, -⟩ := yields_mapM each
        exact ⟨channels, made, (strays_ofChannels_iff made).mpr long⟩
    · rename_i size
      rw [strays_refuse_iff]
      exact (or_iff_right fun both => size both.1).symm
  | _ => exact iff_of_false (not_strays_config _) id

/-- The colour of a value is in range. -/
theorem isValid_of_ofValue {value : Value} {color : Color} (made : ofValue value = .ok color) :
    color.isValid = true := by
  unfold ofValue at made
  split at made
  · rename_i text
    obtain ⟨-, fault, refused, -⟩ | ⟨-, settles⟩ := ofText_cases text
    · cases made.symm.trans refused
    · exact (settles_iff.mp settles).2 color made
  · split at made
    · obtain ⟨channels, -, made⟩ := except_bind_eq_ok made
      exact isValid_of_ofChannels made
    · exact absurd made (refuse_ne_ok _ _ _)
  · cases made

end Color

end SeriesChart
