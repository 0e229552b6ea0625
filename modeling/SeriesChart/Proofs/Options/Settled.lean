/-
This file says what becomes of the values that are given for the fields of options. The value that
a field takes is one that its rule leaves as it is; and every field is settled by its own value
alone, in which only what the value becomes counts. So options can be made again of their own
fields. Of several changes of one field the last one counts.
-/

import SeriesChart.Proofs.Options.Outcomes

namespace SeriesChart

/-! ### Whole numbers near floats -/

/-- No float is worth more than the largest one. -/
theorem abs_worth_le_largest (number : Float) : |worth number| ≤ (2 ^ 53 - 1) * 2 ^ (971 : ℤ) := by
  have lowest := isLowest number
  have room := hasRoom number
  unfold worth
  generalize number.toModel.unpack = parts at lowest room
  cases lowest with
  | notANumber | infinity | zero => exact abs_zero.trans_le (by positivity)
  | finite sign mantissa exponent positive fits least filled =>
    change exponent ≤ 971 at room
    change mantissa < 2 ^ 53 at fits
    have whole : (mantissa : ℚ) ≤ 2 ^ 53 - 1 := by
      rw [le_sub_iff_add_le]
      exact_mod_cast fits
    rw [abs_worth_finite]
    exact mul_le_mul whole (two_zpow_le room) (two_zpow_pos exponent).le (by norm_num)

/-- The whole number nearest to a float is not too large for a float. -/
theorem not_isTooLarge_of_toWhole {number : Float} {whole : ℤ}
    (read : Binary.toWhole .nearestEven number = .ok whole) : ¬IsTooLarge whole := by
  obtain ⟨nearest, same, near⟩ := exists_nearest (isFinite_of_toWhole read)
  cases read.symm.trans same
  have most := abs_worth_le_largest number
  have triangle := abs_sub_abs_le_abs_sub (whole : ℚ) (worth number)
  have double : (2 : ℚ) ^ (971 : ℤ) = 2 * 2 ^ 970 := by
    rw [show (971 : ℤ) = 1 + (970 : ℕ) from rfl, two_zpow_add, zpow_one, zpow_natCast]
  have unit : (1 : ℚ) ≤ 2 ^ 970 := one_le_pow₀ (by norm_num)
  have limit : (firstTooLarge : ℚ) = (2 ^ 54 - 1) * 2 ^ 970 := by
    rw [firstTooLarge, Nat.cast_mul, Nat.cast_pow, Nat.cast_pred (Nat.two_pow_pos 54), Nat.cast_pow,
      Nat.cast_two]
  intro large
  have far : (firstTooLarge : ℚ) ≤ |(whole : ℚ)| := by
    rw [← Int.cast_abs, Int.abs_eq_natAbs, Int.cast_natCast]
    exact Nat.cast_le.mpr large
  rw [limit] at far
  rw [double] at most
  generalize (2 : ℚ) ^ 970 = place at most unit far
  linarith

/-! ### Values that fields take -/

namespace Options

theorem kindOf_name {value : Value} {kind : ChartKind} (made : kindOf value = .ok kind) :
    kindOf (.text kind.name) = .ok kind := by
  obtain rfl | rfl := kind_of_kindOf made <;> rfl

theorem not_isTooLarge_of_wholePixels {value : Value} {height : ℤ}
    (made : wholePixels value = .ok height) : ¬IsTooLarge height := by
  have ofFloat (number : Float) {refused : Except Fault ℤ} (none : refused ≠ .ok height)
      (made : (if number.isFinite then Binary.toWhole .nearestEven number else refused) =
        .ok height) : ¬IsTooLarge height := by
    split at made
    · exact not_isTooLarge_of_toWhole made
    · exact absurd made none
  cases value with
  | int number =>
    obtain ⟨nearest, read, made⟩ := except_bind_eq_ok made
    cases made
    rw [ofInt_eq] at read
    split at read
    · cases read
    · assumption
  | float number | cell number => exact ofFloat number (Value.refuse_ne_ok _ _ _) made
  | _ =>
    unfold wholePixels at made
    exact absurd made (Value.refuse_ne_ok _ _ _)

theorem wholePixels_int {height : ℤ} (small : ¬IsTooLarge height) :
    wholePixels (.int height) = .ok height := by
  have read : Binary.ofInt height = .ok (Float.ofInt height) := by
    rw [ofInt_eq]
    exact if_neg small
  unfold wholePixels
  dsimp only
  rw [read]
  rfl

/-- A height is a whole number that is made a height again. -/
theorem heightOf_int {value : Value} {height : {height : ℤ // 0 < height}}
    (made : heightOf value = .ok height) : heightOf (.int height.1) = .ok height := by
  obtain ⟨pixels, read, made⟩ := except_bind_eq_ok made
  split at made
  · rename_i positive
    cases made
    unfold heightOf
    rw [wholePixels_int (not_isTooLarge_of_wholePixels read)]
    exact dif_pos positive
  · cases made

theorem keyOf_text {field : OptionField} {value : Value} {key : String}
    (made : keyOf field value = .ok key) : keyOf field (.text key) = .ok key :=
  if_neg (key_ne_of_keyOf made)

end Options

namespace OptionField

/-- The value that the field takes when a value is given for it. -/
def settle (field : OptionField) (value : Value) : Except Fault Value :=
  match field with
  | .kind => (Options.kindOf value).map fun kind => .text kind.name
  | .height => (Options.heightOf value).map fun height => .int height.1
  | .strokeColor | .fillColor => (Color.ofValue value).map Color.toValue
  | .showGrid | .showTooltip => value.isTrue.map .bool
  | .label => (Options.labelOf value).map .text
  | .timeKey => (Options.keyOf .timeKey value).map .text
  | .valueKey => (Options.keyOf .valueKey value).map .text

/-- The rule of a field leaves the value that the field has taken as it is. -/
theorem settle_settled {field : OptionField} {value settled : Value}
    (made : field.settle value = .ok settled) : field.settle settled = .ok settled := by
  have again {Result : Type} {read : Value → Except Fault Result} {form : Result → Value}
      (fixed : ∀ result, read value = .ok result → read (form result) = .ok result)
      (made : (read value).map form = .ok settled) : (read settled).map form = .ok settled := by
    obtain ⟨result, read, rfl⟩ := except_map_eq_ok_iff.mp made
    rw [fixed result read]
    rfl
  cases field with
  | kind => exact again (fun _ => Options.kindOf_name) made
  | height => exact again (fun _ => Options.heightOf_int) made
  | strokeColor | fillColor =>
    exact again (fun color made => Color.ofValue_toValue color (Color.isValid_of_ofValue made)) made
  | showGrid | showTooltip => exact again (fun _ _ => rfl) made
  | label => exact again (fun _ _ => rfl) made
  | timeKey | valueKey => exact again (fun _ => Options.keyOf_text) made

end OptionField

namespace Options

/-- Options hold what their fields take. -/
theorem settle_of_ofGiven {given : GivenOptions} {options : Options}
    (made : ofGiven given = .ok options) (field : OptionField) :
    field.settle (given field) = .ok (options.toGiven field) := by
  unfold ofGiven at made
  obtain ⟨kind, kindMade, made⟩ := except_bind_eq_ok made
  obtain ⟨⟨height, height_pos⟩, heightMade, made⟩ := except_bind_eq_ok made
  obtain ⟨strokeColor, strokeMade, made⟩ := except_bind_eq_ok made
  obtain ⟨fillColor, fillMade, made⟩ := except_bind_eq_ok made
  obtain ⟨showGrid, gridMade, made⟩ := except_bind_eq_ok made
  obtain ⟨showTooltip, tooltipMade, made⟩ := except_bind_eq_ok made
  obtain ⟨label, labelMade, made⟩ := except_bind_eq_ok made
  obtain ⟨timeKey, timeMade, made⟩ := except_bind_eq_ok made
  obtain ⟨valueKey, valueMade, made⟩ := except_bind_eq_ok made
  cases made
  cases field with
  | kind => exact congrArg (Except.map _) kindMade
  | height => exact congrArg (Except.map _) heightMade
  | strokeColor => exact congrArg (Except.map _) strokeMade
  | fillColor => exact congrArg (Except.map _) fillMade
  | showGrid => exact congrArg (Except.map _) gridMade
  | showTooltip => exact congrArg (Except.map _) tooltipMade
  | label => exact congrArg (Except.map _) labelMade
  | timeKey => exact congrArg (Except.map _) timeMade
  | valueKey => exact congrArg (Except.map _) valueMade

/-- Options are made just of values that settle all fields. -/
theorem exists_ofGiven_iff {given : GivenOptions} : (∃ options, ofGiven given = .ok options) ↔
    ∀ field : OptionField, ∃ settled, field.settle (given field) = .ok settled := by
  constructor
  · rintro ⟨options, made⟩ field
    exact ⟨_, settle_of_ofGiven made field⟩
  · intro settled
    have each (field : OptionField) {Result : Type} {read : Except Fault Result}
        {form : Result → Value} (same : field.settle (given field) = read.map form) :
        ∃ result, read = .ok result := by
      obtain ⟨value, made⟩ := settled field
      obtain ⟨result, known, -⟩ := except_map_eq_ok_iff.mp (same.symm.trans made)
      exact ⟨result, known⟩
    obtain ⟨kind, kindMade⟩ := each .kind rfl
    obtain ⟨height, heightMade⟩ := each .height rfl
    obtain ⟨strokeColor, strokeMade⟩ := each .strokeColor rfl
    obtain ⟨fillColor, fillMade⟩ := each .fillColor rfl
    obtain ⟨showGrid, gridMade⟩ := each .showGrid rfl
    obtain ⟨showTooltip, tooltipMade⟩ := each .showTooltip rfl
    obtain ⟨label, labelMade⟩ := each .label rfl
    obtain ⟨timeKey, timeMade⟩ := each .timeKey rfl
    obtain ⟨valueKey, valueMade⟩ := each .valueKey rfl
    unfold ofGiven
    rw [kindMade, heightMade, strokeMade, fillMade, gridMade, tooltipMade, labelMade, timeMade,
      valueMade]
    exact ⟨_, rfl⟩

theorem toValue_injective {first second : Color} (same : first.toValue = second.toValue) :
    first = second := by
  obtain ⟨red, green, blue, alpha⟩ := first
  cases second
  cases same
  rfl

/-- Values that settle all fields alike make the same options, or are refused for the same fault. -/
theorem ofGiven_congr {given other : GivenOptions}
    (same : ∀ field : OptionField, field.settle (given field) = field.settle (other field)) :
    ofGiven given = ofGiven other := by
  have kind : kindOf (given .kind) = kindOf (other .kind) := by
    refine except_eq_of_map_eq (fun first second firstMade secondMade names => ?_) (same .kind)
    obtain rfl | rfl := kind_of_kindOf firstMade <;>
      obtain rfl | rfl := kind_of_kindOf secondMade <;>
      first | rfl | exact absurd (Value.text.inj names) (by decide)
  have height : heightOf (given .height) = heightOf (other .height) :=
    except_eq_of_map_eq (fun _ _ _ _ equal => Subtype.ext (Value.int.inj equal)) (same .height)
  have strokeColor : Color.ofValue (given .strokeColor) = Color.ofValue (other .strokeColor) :=
    except_eq_of_map_eq (fun _ _ _ _ => toValue_injective) (same .strokeColor)
  have fillColor : Color.ofValue (given .fillColor) = Color.ofValue (other .fillColor) :=
    except_eq_of_map_eq (fun _ _ _ _ => toValue_injective) (same .fillColor)
  have showGrid : (given .showGrid).isTrue = (other .showGrid).isTrue :=
    except_eq_of_map_eq (fun _ _ _ _ => Value.bool.inj) (same .showGrid)
  have showTooltip : (given .showTooltip).isTrue = (other .showTooltip).isTrue :=
    except_eq_of_map_eq (fun _ _ _ _ => Value.bool.inj) (same .showTooltip)
  have label : labelOf (given .label) = labelOf (other .label) :=
    except_eq_of_map_eq (fun _ _ _ _ => Value.text.inj) (same .label)
  have timeKey : keyOf .timeKey (given .timeKey) = keyOf .timeKey (other .timeKey) :=
    except_eq_of_map_eq (fun _ _ _ _ => Value.text.inj) (same .timeKey)
  have valueKey : keyOf .valueKey (given .valueKey) = keyOf .valueKey (other .valueKey) :=
    except_eq_of_map_eq (fun _ _ _ _ => Value.text.inj) (same .valueKey)
  unfold ofGiven
  rw [kind, height, strokeColor, fillColor, showGrid, showTooltip, label, timeKey, valueKey]

/-- Every field of options is settled by what it holds. -/
theorem settle_toGiven {given : GivenOptions} {options : Options}
    (made : ofGiven given = .ok options) (field : OptionField) :
    field.settle (options.toGiven field) = .ok (options.toGiven field) :=
  OptionField.settle_settled (settle_of_ofGiven made field)

/-- Options are made again of their own fields. -/
theorem ofGiven_toGiven {given : GivenOptions} {options : Options}
    (made : ofGiven given = .ok options) : ofGiven options.toGiven = .ok options := by
  rw [← made]
  exact ofGiven_congr fun field =>
    (settle_toGiven made field).trans (settle_of_ofGiven made field).symm

/-- Other values make the same options just when they settle every field as these do. -/
theorem ofGiven_eq_ok_iff {given other : GivenOptions} {options : Options}
    (made : ofGiven given = .ok options) : ofGiven other = .ok options ↔
      ∀ field : OptionField, field.settle (given field) = field.settle (other field) := by
  constructor
  · intro alsoMade field
    rw [settle_of_ofGiven made, settle_of_ofGiven alsoMade]
  · exact fun same => (ofGiven_congr same).symm.trans made

end Options

/-! ### Changes -/

section Changes

variable {Key Content : Type} [DecidableEq Key]

theorem lookup_cons_eq (key known : Key) (content : Content) (rest : List (Key × Content)) :
    ((known, content) :: rest).lookup key = if key = known then some content else rest.lookup key := by
  rw [List.lookup_cons]
  by_cases same : key = known
  · rw [if_pos same, beq_iff_eq.mpr same]
  · rw [if_neg same, beq_false_of_ne same]

/-- Where no key stands twice, a key is looked up just to what stands beside it. -/
theorem lookup_eq_some_iff_mem {changes : List (Key × Content)}
    (distinct : (changes.map Prod.fst).Nodup) {key : Key} {content : Content} :
    changes.lookup key = some content ↔ (key, content) ∈ changes := by
  induction changes with
  | nil => simp
  | cons change rest inductionHypothesis =>
    obtain ⟨known, first⟩ := change
    obtain ⟨new, others⟩ : known ∉ rest.map Prod.fst ∧ (rest.map Prod.fst).Nodup :=
      List.nodup_cons.mp distinct
    rw [lookup_cons_eq, List.mem_cons, Prod.mk.injEq]
    by_cases same : key = known
    · subst same
      have apart : (key, content) ∉ rest := fun member => new (List.mem_map_of_mem member)
      rw [if_pos rfl, Option.some.injEq, or_iff_left apart, eq_comm, and_iff_right rfl]
    · rw [if_neg same, inductionHypothesis others, or_iff_right fun both => same both.1]

theorem lookup_of_perm {changes others : List (Key × Content)} (reordered : changes.Perm others)
    (distinct : (changes.map Prod.fst).Nodup) (key : Key) :
    changes.lookup key = others.lookup key := by
  have alsoDistinct : (others.map Prod.fst).Nodup := (reordered.map Prod.fst).nodup distinct
  refine Option.ext fun content => ?_
  rw [lookup_eq_some_iff_mem distinct, lookup_eq_some_iff_mem alsoDistinct, reordered.mem_iff]

/-- What the last of some changes puts under a key. -/
def lastOf? (changes : List (Key × Content)) (key : Key) : Option Content :=
  changes.reverse.lookup key

theorem lastOf?_append (changes further : List (Key × Content)) (key : Key) :
    lastOf? (changes ++ further) key = (lastOf? further key).or (lastOf? changes key) := by
  unfold lastOf?
  rw [List.reverse_append, List.lookup_append]

theorem lastOf?_cons (known : Key) (content : Content) (rest : List (Key × Content)) (key : Key) :
    lastOf? ((known, content) :: rest) key =
      (lastOf? rest key).or (if key = known then some content else none) := by
  rw [← List.singleton_append, lastOf?_append]
  exact congrArg (Option.or _) (lookup_cons_eq key known content [])

/-- Where no key stands twice, the last change of a key is its only one. -/
theorem lastOf?_of_nodup {changes : List (Key × Content)}
    (distinct : (changes.map Prod.fst).Nodup) (key : Key) :
    lastOf? changes key = changes.lookup key :=
  (lookup_of_perm changes.reverse_perm.symm distinct key).symm

end Changes

/-- Of several changes of a field the last one counts. -/
theorem GivenOptions.setAll_apply (given : GivenOptions) (changes : List (OptionField × Value))
    (field : OptionField) :
    given.setAll changes field = (lastOf? changes field).getD (given field) := by
  induction changes generalizing given with
  | nil => rfl
  | cons change rest inductionHypothesis =>
    obtain ⟨changed, value⟩ := change
    show (given.set changed value).setAll rest field = _
    rw [inductionHypothesis, lastOf?_cons]
    cases lastOf? rest field with
    | some last => rfl
    | none =>
      show given.set changed value field = Option.getD _ _
      by_cases same : field = changed
      · rw [same, if_pos rfl, GivenOptions.set_self]
        rfl
      · rw [if_neg same, GivenOptions.set_other given value same]
        rfl

end SeriesChart
