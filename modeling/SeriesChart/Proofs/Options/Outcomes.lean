/-
This file says when options are made or refused as such, and when the attempt ends with another
fault. The first field whose rule is not met decides, in the order in which the rules are applied;
the entries of a mapping are looked at before, and there the first unknown key decides. A rule ends
with another fault when a height is too large for a float, when a colour breaks, when a flag is an
array or a table without a truth value, and when a value that is refused or a label cannot be shown.
-/

import SeriesChart.Options.Basic
import SeriesChart.Proofs.Color.Coercion

namespace SeriesChart

/-! ### Values of fields -/

namespace Value

/-- The value ends the reading of a height with a fault that is none of the options: it is a whole
number beyond all floats, or it is refused and cannot be shown. -/
def BreaksHeight : Value → Prop
  | .int number => IsTooLarge number
  | value => value.IsTooLong

/-- The value has no truth: it is an array of another number of cells than one, or a table. -/
def BreaksTruth : Value → Prop
  | .array grid => grid.cells.size ≠ 1
  | .table _ => True
  | _ => False

theorem strays_isTrue_iff (value : Value) : Strays value.isTrue ↔ value.BreaksTruth := by
  cases value with
  | array grid =>
    show Strays (grid.decideBy _) ↔ grid.cells.size ≠ 1
    rw [← Array.length_toList]
    unfold Grid.decideBy
    split
    · rename_i empty
      exact iff_of_true (strays_of_ne nofun) (by simp [empty])
    · rename_i single
      exact iff_of_false (not_fails_ok _) (by simp [single])
    · rename_i several
      refine iff_of_true (strays_of_ne nofun) fun single => ?_
      obtain ⟨cell, same⟩ := List.length_eq_one_iff.mp single
      exact several cell same
  | table => exact iff_of_true (strays_of_ne nofun) trivial
  | _ => exact iff_of_false (not_fails_ok _) id

end Value

namespace Options

open Value

theorem strays_kindOf_iff (value : Value) : Strays (kindOf value) ↔ value.IsTooLong := by
  unfold kindOf
  dsimp only
  split
  · rename_i name
    split
    · exact iff_of_false (not_fails_ok _) (not_isTooLong rfl)
    · exact strays_refuse_iff _ _
  · exact strays_refuse_iff _ _

theorem kind_of_kindOf {value : Value} {kind : ChartKind} (made : kindOf value = .ok kind) :
    kind = .line ∨ kind = .bar := by
  unfold kindOf at made
  dsimp only at made
  split at made
  · split at made
    · rename_i named
      cases made
      unfold ChartKind.ofName? at named
      split at named <;> cases named
      · exact Or.inl rfl
      · exact Or.inr rfl
    · exact absurd made (refuse_ne_ok _ _ _)
  · exact absurd made (refuse_ne_ok _ _ _)

theorem strays_wholePixels_iff (value : Value) :
    Strays (wholePixels value) ↔ value.BreaksHeight := by
  have ofFloat (number : Float) {refused : Except Fault ℤ} (stays : ¬Strays refused) :
      ¬Strays (if number.isFinite then Binary.toWhole .nearestEven number else refused) := by
    split
    · rename_i finite
      obtain ⟨height, read⟩ := toWhole_of_isFinite finite .nearestEven
      rw [read]
      exact not_fails_ok height
    · exact stays
  cases value with
  | int number =>
    refine (fails_bind_iff _ _).trans <|
      (or_iff_left fun ⟨_, _, fails⟩ => not_fails_ok _ fails).trans ?_
    show Strays (Binary.ofInt number) ↔ IsTooLarge number
    rw [ofInt_eq]
    unfold IsTooLarge
    split
    · exact iff_of_true (strays_of_ne nofun) ‹_›
    · exact iff_of_false (not_fails_ok _) ‹_›
  | float number =>
    have short : ¬(Value.float number).IsTooLong := not_isTooLong rfl
    exact iff_of_false (ofFloat number ((strays_refuse_iff _ _).not.mpr short)) short
  | cell number =>
    have short : ¬(Value.cell number).IsTooLong := not_isTooLong rfl
    exact iff_of_false (ofFloat number ((strays_refuse_iff _ _).not.mpr short)) short
  | _ => exact strays_refuse_iff _ _

theorem strays_heightOf_iff (value : Value) : Strays (heightOf value) ↔ value.BreaksHeight := by
  refine (fails_bind_iff _ _).trans ((or_iff_left ?_).trans (strays_wholePixels_iff value))
  rintro ⟨height, -, strays⟩
  split at strays
  · exact not_fails_ok _ strays
  · exact not_strays_config _ strays

theorem strays_labelOf_iff (value : Value) : Strays (labelOf value) ↔ value.IsTooLong := by
  cases value with
  | absent => exact iff_of_false (not_fails_ok _) (not_isTooLong rfl)
  | _ => exact strays_showable_bind_iff _ (not_fails_ok _)

theorem strays_keyOf_iff (field : OptionField) (value : Value) :
    Strays (keyOf field value) ↔ value.IsTooLong := by
  unfold keyOf
  dsimp only
  split
  · rename_i key
    split
    · exact strays_refuse_iff _ _
    · exact iff_of_false (not_fails_ok _) (not_isTooLong rfl)
  · exact strays_refuse_iff _ _

theorem key_ne_of_keyOf {field : OptionField} {value : Value} {key : String}
    (made : keyOf field value = .ok key) : key ≠ "" := by
  unfold keyOf at made
  dsimp only at made
  split at made
  · split at made
    · exact absurd made (refuse_ne_ok _ _ _)
    · cases made
      assumption
  · exact absurd made (refuse_ne_ok _ _ _)

end Options

/-! ### Fields -/

namespace OptionField

/-- Applies the rule of the field, and leaves out what the value becomes. -/
def check (field : OptionField) (value : Value) : Except Fault Unit :=
  match field with
  | .kind => (Options.kindOf value).map fun _ => ()
  | .height => (Options.heightOf value).map fun _ => ()
  | .strokeColor | .fillColor => (Color.ofValue value).map fun _ => ()
  | .showGrid | .showTooltip => value.isTrue.map fun _ => ()
  | .label => (Options.labelOf value).map fun _ => ()
  | .timeKey => (Options.keyOf .timeKey value).map fun _ => ()
  | .valueKey => (Options.keyOf .valueKey value).map fun _ => ()

/-- The value ends the rule of the field with a fault that is none of the options. -/
def Breaks (field : OptionField) (value : Value) : Prop :=
  match field with
  | .height => value.BreaksHeight
  | .strokeColor | .fillColor => value.BreaksColor
  | .showGrid | .showTooltip => value.BreaksTruth
  | .kind | .label | .timeKey | .valueKey => value.IsTooLong

theorem strays_check_iff (field : OptionField) (value : Value) :
    Strays (field.check value) ↔ field.Breaks value := by
  cases field with
  | kind => exact (fails_map_iff _ _).trans (Options.strays_kindOf_iff value)
  | height => exact (fails_map_iff _ _).trans (Options.strays_heightOf_iff value)
  | strokeColor | fillColor => exact (fails_map_iff _ _).trans (Color.strays_ofValue_iff value)
  | showGrid | showTooltip => exact (fails_map_iff _ _).trans value.strays_isTrue_iff
  | label => exact (fails_map_iff _ _).trans (Options.strays_labelOf_iff value)
  | timeKey | valueKey => exact (fails_map_iff _ _).trans (Options.strays_keyOf_iff _ value)

end OptionField

/-! ### Given values -/

/-- The first field whose rule is not met breaks it. -/
def GivenOptions.Breaks (given : GivenOptions) : Prop :=
  StopsAt (fun field => field.check (given field) = .ok ())
    (fun field => field.Breaks (given field)) OptionField.all

/-- What options always are: a kind that exists, a height of at least one pixel, colours in range
and keys that are not empty. -/
structure Options.IsProper (options : Options) : Prop where
  kind : options.kind = .line ∨ options.kind = .bar
  height : 0 < options.height
  strokeColor : options.strokeColor.isValid = true
  fillColor : options.fillColor.isValid = true
  timeKey : options.timeKey ≠ ""
  valueKey : options.valueKey ≠ ""

namespace Options

theorem map_bind_eq {Result Next : Type} {first : Except Fault Result}
    {next : Result → Except Fault Next} {rest : Except Fault Unit}
    (same : ∀ result, (next result).map (fun _ => ()) = rest) :
    (first >>= next).map (fun _ => ()) = (first.map fun _ => ()) >>= fun _ => rest := by
  cases first with
  | ok result => exact same result
  | error fault => rfl

/-- Making options of given values is applying the rules of all fields in turn. -/
theorem ofGiven_eq_forM (given : GivenOptions) : (ofGiven given).map (fun _ => ()) =
    OptionField.all.forM fun field => field.check (given field) := by
  unfold ofGiven OptionField.all
  refine map_bind_eq fun kind => map_bind_eq fun ⟨height, height_pos⟩ => ?_
  refine map_bind_eq fun strokeColor => map_bind_eq fun fillColor => ?_
  refine map_bind_eq fun showGrid => map_bind_eq fun showTooltip => ?_
  exact map_bind_eq fun label => map_bind_eq fun timeKey => map_bind_eq fun valueKey => rfl

theorem strays_ofGiven_iff (given : GivenOptions) : Strays (ofGiven given) ↔ given.Breaks := by
  have each : (fun field => Strays (OptionField.check field (given field))) =
      fun field => field.Breaks (given field) :=
    funext fun field => propext (field.strays_check_iff (given field))
  refine (fails_map_iff (fun _ => ()) _).symm.trans ?_
  rw [ofGiven_eq_forM]
  refine (fails_forM_iff _ _).trans ?_
  change StopsAt _ (fun field => Strays _) _ ↔ _
  rw [each]
  rfl

/-- Every default meets the rule of its field. -/
theorem ofGiven_defaults : ofGiven GivenOptions.defaults = .ok standard := by decide +kernel

theorem isProper_of_ofGiven {given : GivenOptions} {options : Options}
    (made : ofGiven given = .ok options) : options.IsProper := by
  unfold ofGiven at made
  obtain ⟨kind, kindMade, made⟩ := except_bind_eq_ok made
  obtain ⟨⟨height, height_pos⟩, -, made⟩ := except_bind_eq_ok made
  obtain ⟨strokeColor, strokeMade, made⟩ := except_bind_eq_ok made
  obtain ⟨fillColor, fillMade, made⟩ := except_bind_eq_ok made
  obtain ⟨showGrid, -, made⟩ := except_bind_eq_ok made
  obtain ⟨showTooltip, -, made⟩ := except_bind_eq_ok made
  obtain ⟨label, -, made⟩ := except_bind_eq_ok made
  obtain ⟨timeKey, timeMade, made⟩ := except_bind_eq_ok made
  obtain ⟨valueKey, valueMade, made⟩ := except_bind_eq_ok made
  cases made
  exact {
    kind := kind_of_kindOf kindMade
    height := height_pos
    strokeColor := Color.isValid_of_ofValue strokeMade
    fillColor := Color.isValid_of_ofValue fillMade
    timeKey := key_ne_of_keyOf timeMade
    valueKey := key_ne_of_keyOf valueMade }

end Options

/-! ### Mappings -/

/-- The key is a name of a field, or another spelling of one. -/
def Value.IsSpelling (key : Value) : Prop := ∃ field, OptionField.ofKey? key = some field

namespace Options

/-- The changes of the entries whose keys are spellings of fields. -/
def knownChanges (entries : List (Value × Value)) : List (OptionField × Value) :=
  entries.filterMap fun entry => (OptionField.ofKey? entry.1).map fun field => (field, entry.2)

section Entries

variable {key value : Value} {rest : List (Value × Value)}

theorem changesOfEntries_cons_of_some {field : OptionField}
    (known : OptionField.ofKey? key = some field) : changesOfEntries ((key, value) :: rest) =
      (changesOfEntries rest).map ((field, value) :: ·) := by
  rw [changesOfEntries, known]
  rfl

theorem strays_changesOfEntries_cons_iff_of_none (unknown : OptionField.ofKey? key = none) :
    Strays (changesOfEntries ((key, value) :: rest)) ↔ key.IsTooLong := by
  rw [changesOfEntries, unknown]
  exact Value.strays_refuse_iff _ _

end Entries

theorem changesOfEntries_of_known {entries : List (Value × Value)}
    (known : ∀ entry ∈ entries, entry.1.IsSpelling) :
    changesOfEntries entries = .ok (knownChanges entries) := by
  induction entries with
  | nil => rfl
  | cons entry rest inductionHypothesis =>
    obtain ⟨key, value⟩ := entry
    obtain ⟨⟨field, spelled⟩, others⟩ := List.forall_mem_cons.mp known
    rw [changesOfEntries_cons_of_some spelled, inductionHypothesis others]
    simp [knownChanges, spelled, Except.map]

theorem forall_isSpelling {entries : List (Value × Value)} {changes : List (OptionField × Value)}
    (read : changesOfEntries entries = .ok changes) : ∀ entry ∈ entries, entry.1.IsSpelling := by
  induction entries generalizing changes with
  | nil => exact List.forall_mem_nil _
  | cons entry rest inductionHypothesis =>
    obtain ⟨key, value⟩ := entry
    cases spelled : OptionField.ofKey? key with
    | none =>
      rw [changesOfEntries, spelled] at read
      exact absurd read (Value.refuse_ne_ok _ _ _)
    | some field =>
      rw [changesOfEntries, spelled] at read
      obtain ⟨others, further, -⟩ := except_bind_eq_ok read
      exact List.forall_mem_cons.mpr ⟨⟨field, spelled⟩, inductionHypothesis further⟩

/-- The first unknown key decides how the entries of a mapping are refused. -/
theorem strays_changesOfEntries_iff (entries : List (Value × Value)) :
    Strays (changesOfEntries entries) ↔ StopsAt (fun entry => entry.1.IsSpelling)
      (fun entry => ¬entry.1.IsSpelling ∧ entry.1.IsTooLong) entries := by
  induction entries with
  | nil => exact iff_of_false (not_fails_ok _) (not_stopsAt_nil _ _)
  | cons entry rest inductionHypothesis =>
    obtain ⟨key, value⟩ := entry
    rw [stopsAt_cons_iff, ← inductionHypothesis]
    cases spelled : OptionField.ofKey? key with
    | none =>
      have unknown : ¬key.IsSpelling := fun ⟨_, known⟩ => by cases spelled.symm.trans known
      rw [strays_changesOfEntries_cons_iff_of_none spelled]
      exact ⟨fun long => Or.inl ⟨unknown, long⟩,
        fun either => either.elim (·.2) fun both => absurd both.1 unknown⟩
    | some field =>
      have known : key.IsSpelling := ⟨field, spelled⟩
      rw [changesOfEntries_cons_of_some spelled]
      refine (fails_map_iff _ _).trans ?_
      exact ⟨fun strays => Or.inr ⟨known, strays⟩,
        fun either => either.elim (fun both => absurd known both.1) (·.2)⟩

end Options

/-! ### Sources -/

/-- The options of the source end with a fault that is none of the options: the first unknown key of
a mapping cannot be shown, or all keys are known and the first field whose rule is not met breaks
it. -/
def OptionsSource.Breaks : OptionsSource → Prop
  | .value (.mapping entries) =>
    StopsAt (fun entry => entry.1.IsSpelling)
        (fun entry => ¬entry.1.IsSpelling ∧ entry.1.IsTooLong) entries ∨
      (∀ entry ∈ entries, entry.1.IsSpelling) ∧
        (GivenOptions.defaults.setAll (Options.knownChanges entries)).Breaks
  | _ => False

namespace OptionsSource

theorem strays_ofMapping_iff (entries : List (Value × Value)) :
    Strays (Options.ofMapping entries) ↔ (OptionsSource.value (.mapping entries)).Breaks := by
  refine (fails_bind_iff _ _).trans (or_congr (Options.strays_changesOfEntries_iff entries) ?_)
  constructor
  · rintro ⟨changes, read, strays⟩
    have known := Options.forall_isSpelling read
    cases read.symm.trans (Options.changesOfEntries_of_known known)
    exact ⟨known, (Options.strays_ofGiven_iff _).mp strays⟩
  · rintro ⟨known, breaks⟩
    exact ⟨_, Options.changesOfEntries_of_known known, (Options.strays_ofGiven_iff _).mpr breaks⟩

theorem strays_resolve_iff (source : OptionsSource) : Strays source.resolve ↔ source.Breaks := by
  cases source with
  | ready options => exact iff_of_false (not_fails_ok _) id
  | value given =>
    cases given with
    | absent =>
      refine iff_of_false ?_ id
      show ¬Strays (Options.ofGiven GivenOptions.defaults)
      rw [Options.ofGiven_defaults]
      exact not_fails_ok _
    | mapping entries => exact strays_ofMapping_iff entries
    | _ => exact iff_of_false (not_strays_config _) id

theorem isProper_of_resolve {source : OptionsSource}
    (ready : ∀ options, source = .ready options → options.IsProper) {options : Options}
    (made : source.resolve = .ok options) : options.IsProper := by
  cases source with
  | ready options =>
    cases made
    exact ready options rfl
  | value given =>
    cases given with
    | absent => exact Options.isProper_of_ofGiven made
    | mapping entries =>
      obtain ⟨changes, -, made⟩ := except_bind_eq_ok made
      exact Options.isProper_of_ofGiven made
    | _ => cases made

/-- Whoever asks for options has proper ones or a fault of the options, unless the source breaks;
and so it is with a height, a colour and a key. -/
theorem resolve_settles_iff (source : OptionsSource)
    (ready : ∀ options, source = .ready options → options.IsProper) :
    (∀ value, Settles (Options.heightOf value) (0 < ·.1) ↔ ¬value.BreaksHeight) ∧
    (∀ value, Settles (Color.ofValue value) (·.isValid = true) ↔ ¬value.BreaksColor) ∧
    (∀ field value, Settles (Options.keyOf field value) (· ≠ "") ↔ ¬value.IsTooLong) ∧
    (Settles source.resolve Options.IsProper ↔ ¬source.Breaks) := by
  refine ⟨fun value => ?_, fun value => ?_, fun field value => ?_, ?_⟩
  · rw [settles_iff, Options.strays_heightOf_iff]
    exact and_iff_left fun height _ => height.2
  · rw [settles_iff, Color.strays_ofValue_iff]
    exact and_iff_left fun _ => Color.isValid_of_ofValue
  · rw [settles_iff, Options.strays_keyOf_iff]
    exact and_iff_left fun _ => Options.key_ne_of_keyOf
  · rw [settles_iff, strays_resolve_iff]
    exact and_iff_left fun _ => isProper_of_resolve ready

/-- A mapping that changes most fields, some under the names that web pages use. One channel of its
colour is a float and another one an array without directions. -/
def barEntries : List (Value × Value) :=
  [(.text "type", .text "bar"), (.text "height", .float 120.5),
    (.text "color", .tuple [.int 10, .float 20.75, .array ⟨[], #[30.0]⟩]),
    (.text "showGrid", .int 0), (.text "label", .int 7), (.text "xKey", .text "day")]

/-- The options of that mapping. -/
def barOptions : Options :=
  { Options.standard with
    kind := .bar
    height := 120
    height_pos := by decide
    strokeColor := ⟨10, 20, 30, 255⟩
    showGrid := false
    label := "7"
    timeKey := "day" }

/-- A mapping of many changes becomes proper options, and so do the options that it became. -/
theorem resolve_settles_bar :
    (value (.mapping barEntries)).resolve = .ok barOptions ∧
      Settles (value (.mapping barEntries)).resolve Options.IsProper ∧
      Settles (ready barOptions).resolve Options.IsProper := by
  have made : (value (.mapping barEntries)).resolve = .ok barOptions := by decide +kernel
  have sound : ¬(value (.mapping barEntries)).Breaks := by
    rw [← strays_resolve_iff, made]
    exact not_fails_ok _
  have given (options : Options) (same : value (.mapping barEntries) = ready options) :
      options.IsProper := by cases same
  have only (options : Options) (same : ready barOptions = ready options) : options.IsProper :=
    ready.inj same ▸ isProper_of_resolve given made
  exact ⟨made, (resolve_settles_iff (value (.mapping barEntries)) given).2.2.2.mpr sound,
    (resolve_settles_iff (ready barOptions) only).2.2.2.mpr id⟩

/-- A height beyond all floats is neither made into options nor refused as a fault of them. -/
theorem unsettled_by_tall_height :
    ¬Settles (value (.mapping [(.text "height", .int (10 ^ 400))])).resolve Options.IsProper := by
  have ended : (value (.mapping [(.text "height", .int (10 ^ 400))])).resolve =
      .error (.overflow .integerTooLarge) := by decide +kernel
  rw [ended, settles_iff]
  exact fun settled => settled.1 (strays_of_ne nofun)

end OptionsSource

end SeriesChart
