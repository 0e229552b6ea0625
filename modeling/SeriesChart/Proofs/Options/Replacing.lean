/-
This file proves that options stay what they are when they are made again of their own fields, and
that changes which are made one after the other could have been made at once. In both cases the
first argument whose name is that of no field decides how the arguments are refused, and after that
the fields, each of which is settled by the last value that is given for it.
-/

import SeriesChart.Proofs.Options.Settled

namespace SeriesChart

/-! ### Names -/

theorem OptionField.ofName?_eq_some_iff {name : String} {field : OptionField} :
    ofName? name = some field ↔ name = field.name := by
  constructor
  · intro named
    have found := List.find?_some (p := fun other : OptionField => other.name = name) named
    exact (of_decide_eq_true found).symm
  · rintro rfl
    exact ofName?_name field

theorem OptionField.name_injective : Function.Injective OptionField.name := by
  intro first second same
  have named := ofName?_name first
  rw [same, ofName?_name] at named
  exact (Option.some.inj named).symm

namespace Options

/-- The fault of an argument whose name is that of no field. -/
def strangeName (name : String) : Fault :=
  if name = selfName then .mistyped (.repeatedArgument owner "__init__" name)
  else .mistyped (.unexpectedArgument owner name)

/-- The names of arguments, in order. -/
def namesOf (arguments : List (String × Value)) : List String := arguments.map Prod.fst

/-- The first of some names that is that of no field. -/
def firstStrange? (names : List String) : Option String :=
  names.find? fun name => (OptionField.ofName? name).isNone

/-- The changes of the arguments whose names are those of fields. -/
def namedChanges (arguments : List (String × Value)) : List (OptionField × Value) :=
  arguments.filterMap fun argument =>
    (OptionField.ofName? argument.1).map fun field => (field, argument.2)

section Arguments

variable {name : String} {value : Value} {rest : List (String × Value)}

theorem changesOfArguments_cons_of_none (strange : OptionField.ofName? name = none) :
    changesOfArguments ((name, value) :: rest) = .error (strangeName name) := by
  unfold changesOfArguments strangeName
  rw [strange]
  split <;> rfl

theorem changesOfArguments_cons_of_some {field : OptionField}
    (named : OptionField.ofName? name = some field) :
    changesOfArguments ((name, value) :: rest) =
      (changesOfArguments rest).map ((field, value) :: ·) := by
  have other : name ≠ selfName := by
    rintro rfl
    rw [show OptionField.ofName? selfName = none by decide] at named
    cases named
  rw [changesOfArguments, if_neg other, named]
  rfl

theorem namedChanges_cons_of_none (strange : OptionField.ofName? name = none) :
    namedChanges ((name, value) :: rest) = namedChanges rest := by
  simp [namedChanges, strange]

theorem namedChanges_cons_of_some {field : OptionField}
    (named : OptionField.ofName? name = some field) :
    namedChanges ((name, value) :: rest) = (field, value) :: namedChanges rest := by
  simp [namedChanges, named]

end Arguments

/-- The first strange name decides how arguments are refused. -/
theorem changesOfArguments_eq (arguments : List (String × Value)) :
    changesOfArguments arguments =
      match firstStrange? (namesOf arguments) with
      | some name => .error (strangeName name)
      | none => .ok (namedChanges arguments) := by
  induction arguments with
  | nil => rfl
  | cons argument rest inductionHypothesis =>
    obtain ⟨name, value⟩ := argument
    cases named : OptionField.ofName? name with
    | none =>
      have first : firstStrange? (namesOf ((name, value) :: rest)) = some name :=
        List.find?_cons_of_pos (by rw [named]; rfl)
      rw [changesOfArguments_cons_of_none named, first]
    | some field =>
      have later : firstStrange? (namesOf ((name, value) :: rest)) =
          firstStrange? (namesOf rest) :=
        List.find?_cons_of_neg (by rw [named]; exact Bool.false_ne_true)
      rw [changesOfArguments_cons_of_some named, namedChanges_cons_of_some named, later,
        inductionHypothesis]
      cases firstStrange? (namesOf rest) <;> rfl

theorem lastOf?_namedChanges (arguments : List (String × Value)) (field : OptionField) :
    lastOf? (namedChanges arguments) field = lastOf? arguments field.name := by
  induction arguments with
  | nil => rfl
  | cons argument rest inductionHypothesis =>
    obtain ⟨name, value⟩ := argument
    rw [lastOf?_cons, ← inductionHypothesis]
    cases named : OptionField.ofName? name with
    | none =>
      have other : field.name ≠ name := by
        rintro rfl
        rw [OptionField.ofName?_name] at named
        cases named
      rw [namedChanges_cons_of_none named, if_neg other, Option.or_none]
    | some found =>
      obtain rfl := OptionField.ofName?_eq_some_iff.mp named
      simp only [namedChanges_cons_of_some named, lastOf?_cons, OptionField.name_injective.eq_iff]

/-- Options are changed unless a name is strange, and every field takes the last value that is given
for it. -/
theorem replace_eq (options : Options) (arguments : List (String × Value)) :
    options.replace arguments =
      if selfName ∈ namesOf arguments then
        .error (.mistyped (.repeatedArgument owner "replace" selfName))
      else match firstStrange? (namesOf arguments) with
        | some name => .error (strangeName name)
        | none => ofGiven (options.toGiven.setAll (namedChanges arguments)) := by
  have self : arguments.any (·.1 = selfName) = decide (selfName ∈ namesOf arguments) := by
    rw [Bool.eq_iff_iff, List.any_eq_true, decide_eq_true_eq]
    unfold namesOf
    rw [List.mem_map]
    simp only [decide_eq_true_eq]
  unfold replace
  rw [self, changesOfArguments_eq]
  by_cases given : selfName ∈ namesOf arguments
  · simp only [given, decide_true, if_true]
    rfl
  · simp only [given, decide_false, if_false]
    cases firstStrange? (namesOf arguments) <;> rfl

/-! ### Arguments of two calls -/

/-- Puts a value under a name. A name that is there stays where it is. -/
def setArgument (arguments : List (String × Value)) (name : String) (value : Value) :
    List (String × Value) :=
  match arguments with
  | [] => [(name, value)]
  | (known, old) :: rest =>
    if known = name then (known, value) :: rest else (known, old) :: setArgument rest name value

/-- The arguments of several calls as those of one: each name stands where it was given first, with
the value that was given last. -/
def mergedArguments (arguments : List (String × Value)) : List (String × Value) :=
  arguments.foldl (fun merged argument => setArgument merged argument.1 argument.2) []

theorem mergedArguments_concat (arguments : List (String × Value)) (argument : String × Value) :
    mergedArguments (arguments ++ [argument]) =
      setArgument (mergedArguments arguments) argument.1 argument.2 := by
  unfold mergedArguments
  rw [List.foldl_append]
  rfl

theorem namesOf_setArgument (arguments : List (String × Value)) (name : String) (value : Value) :
    namesOf (setArgument arguments name value) =
      if name ∈ namesOf arguments then namesOf arguments else namesOf arguments ++ [name] := by
  induction arguments with
  | nil => rfl
  | cons argument rest inductionHypothesis =>
    obtain ⟨known, old⟩ := argument
    unfold setArgument
    by_cases same : known = name
    · subst same
      simp [namesOf]
    · unfold namesOf at inductionHypothesis ⊢
      rw [if_neg same, List.map_cons, inductionHypothesis, List.map_cons]
      have member : name ∈ known :: rest.map Prod.fst ↔ name ∈ rest.map Prod.fst := by
        rw [List.mem_cons, or_iff_right (Ne.symm same)]
      simp only [member]
      split <;> rfl

theorem lookup_setArgument (arguments : List (String × Value)) (name : String) (value : Value)
    (key : String) : (setArgument arguments name value).lookup key =
      if key = name then some value else arguments.lookup key := by
  induction arguments with
  | nil => exact lookup_cons_eq key name value []
  | cons argument rest inductionHypothesis =>
    obtain ⟨known, old⟩ := argument
    unfold setArgument
    rw [lookup_cons_eq]
    by_cases same : known = name
    · rw [if_pos same, lookup_cons_eq, same]
      split <;> rfl
    · rw [if_neg same, lookup_cons_eq, inductionHypothesis]
      by_cases found : key = known
      · rw [if_pos found, if_pos found, if_neg (found ▸ same)]
      · rw [if_neg found, if_neg found]

theorem namesOf_append (arguments further : List (String × Value)) :
    namesOf (arguments ++ further) = namesOf arguments ++ namesOf further := List.map_append

theorem namesOf_mergedArguments_concat (arguments : List (String × Value))
    (argument : String × Value) :
    namesOf (mergedArguments (arguments ++ [argument])) =
      if argument.1 ∈ namesOf (mergedArguments arguments) then namesOf (mergedArguments arguments)
      else namesOf (mergedArguments arguments) ++ [argument.1] := by
  rw [mergedArguments_concat, namesOf_setArgument]

/-- Merged arguments have the names of those that were merged. -/
theorem mem_namesOf_mergedArguments (arguments : List (String × Value)) (name : String) :
    name ∈ namesOf (mergedArguments arguments) ↔ name ∈ namesOf arguments := by
  induction arguments using List.reverseRecOn with
  | nil => exact Iff.rfl
  | append_singleton arguments argument inductionHypothesis =>
    rw [namesOf_mergedArguments_concat, namesOf_append, List.mem_append, ← inductionHypothesis]
    show _ ↔ _ ∨ name ∈ [argument.1]
    split
    · rename_i known
      refine (or_iff_left_of_imp fun same => ?_).symm
      rw [List.mem_singleton.mp same]
      exact known
    · exact List.mem_append

/-- No name stands twice among merged arguments. -/
theorem nodup_namesOf_mergedArguments (arguments : List (String × Value)) :
    (namesOf (mergedArguments arguments)).Nodup := by
  induction arguments using List.reverseRecOn with
  | nil => exact List.nodup_nil
  | append_singleton arguments argument inductionHypothesis =>
    rw [namesOf_mergedArguments_concat]
    split
    · exact inductionHypothesis
    · rename_i new
      rw [← List.concat_eq_append]
      exact inductionHypothesis.concat new

/-- The first strange name is the same. -/
theorem firstStrange?_mergedArguments (arguments : List (String × Value)) :
    firstStrange? (namesOf (mergedArguments arguments)) = firstStrange? (namesOf arguments) := by
  induction arguments using List.reverseRecOn with
  | nil => rfl
  | append_singleton arguments argument inductionHypothesis =>
    rw [namesOf_mergedArguments_concat, namesOf_append]
    unfold firstStrange? at inductionHypothesis ⊢
    rw [List.find?_append, ← inductionHypothesis]
    split
    · rename_i known
      -- A name that was known before does not become the first strange one.
      cases found : (namesOf (mergedArguments arguments)).find? _ with
      | some first => rfl
      | none =>
        refine (List.find?_eq_none.mpr fun name same => ?_).symm
        rw [List.mem_singleton.mp same]
        exact List.find?_eq_none.mp found _ known
    · exact List.find?_append

theorem lookup_mergedArguments (arguments : List (String × Value)) (name : String) :
    (mergedArguments arguments).lookup name = lastOf? arguments name := by
  induction arguments using List.reverseRecOn with
  | nil => rfl
  | append_singleton arguments argument inductionHypothesis =>
    obtain ⟨given, value⟩ := argument
    rw [mergedArguments_concat, lookup_setArgument, inductionHypothesis, lastOf?_append,
      lastOf?_cons]
    split <;> rfl

/-- Merged arguments give the value that was given last. -/
theorem lastOf?_mergedArguments (arguments : List (String × Value)) (name : String) :
    lastOf? (mergedArguments arguments) name = lastOf? arguments name := by
  rw [lastOf?_of_nodup (nodup_namesOf_mergedArguments arguments), lookup_mergedArguments]

/-- Changes that are made after others could have been made with them, at once. -/
theorem replace_replace {options replaced : Options} {changes : List (String × Value)}
    (first : options.replace changes = .ok replaced) (further : List (String × Value)) :
    replaced.replace further = options.replace (mergedArguments (changes ++ further)) := by
  rw [replace_eq] at first
  split at first
  · cases first
  rename_i noSelf
  split at first
  · cases first
  rename_i noStrange
  have self : selfName ∈ namesOf (mergedArguments (changes ++ further)) ↔
      selfName ∈ namesOf further := by
    rw [mem_namesOf_mergedArguments, namesOf_append, List.mem_append, or_iff_right noSelf]
  have strange : firstStrange? (namesOf (mergedArguments (changes ++ further))) =
      firstStrange? (namesOf further) := by
    rw [firstStrange?_mergedArguments, namesOf_append]
    unfold firstStrange? at noStrange ⊢
    rw [List.find?_append, noStrange, Option.none_or]
  have settled : ofGiven (replaced.toGiven.setAll (namedChanges further)) =
      ofGiven (options.toGiven.setAll (namedChanges (mergedArguments (changes ++ further)))) := by
    refine ofGiven_congr fun field => ?_
    rw [GivenOptions.setAll_apply, GivenOptions.setAll_apply, lastOf?_namedChanges,
      lastOf?_namedChanges, lastOf?_mergedArguments, lastOf?_append]
    cases lastOf? further field.name with
    | some value => rfl
    | none =>
      -- The field keeps what it has become by the first changes.
      have kept := settle_of_ofGiven first field
      rw [GivenOptions.setAll_apply, lastOf?_namedChanges] at kept
      exact (settle_toGiven first field).trans kept.symm
  rw [replace_eq, replace_eq, settled]
  simp only [self, strange]

/-! ### Options made in any way -/

/-- The options were made of arguments, of a mapping, or by changing others that were made so. -/
inductive IsMade : Options → Prop where
  | ofArguments {arguments : List (String × Value)} {options : Options}
    (made : Options.ofArguments arguments = .ok options) : IsMade options
  | ofMapping {entries : List (Value × Value)} {options : Options}
    (made : Options.ofMapping entries = .ok options) : IsMade options
  | replace {options changed : Options} {arguments : List (String × Value)} (known : IsMade options)
    (made : options.replace arguments = .ok changed) : IsMade changed

theorem IsMade.exists_given {options : Options} (made : options.IsMade) :
    ∃ given, ofGiven given = .ok options := by
  cases made with
  | ofArguments made | ofMapping made =>
    obtain ⟨changes, -, made⟩ := except_bind_eq_ok made
    exact ⟨_, made⟩
  | replace known made =>
    rw [replace_eq] at made
    split at made
    · cases made
    · split at made
      · cases made
      · exact ⟨_, made⟩

/-- The fields of options as changes. -/
def ownChanges (options : Options) : List (OptionField × Value) :=
  OptionField.all.map fun field => (field, options.toGiven field)

/-- The fields of options as arguments. -/
def ownArguments (options : Options) : List (String × Value) :=
  options.ownChanges.map fun change => (change.1.name, change.2)

/-- The fields of options as a mapping. -/
def ownEntries (options : Options) : List (Value × Value) :=
  options.ownChanges.map fun change => (.text change.1.name, change.2)

theorem setAll_ownChanges (given : GivenOptions) (options : Options) :
    given.setAll options.ownChanges = options.toGiven := by
  funext field
  rw [GivenOptions.setAll_apply]
  cases field <;> rfl

theorem changesOfArguments_named (changes : List (OptionField × Value)) :
    changesOfArguments (changes.map fun change => (change.1.name, change.2)) = .ok changes := by
  induction changes with
  | nil => rfl
  | cons change rest inductionHypothesis =>
    rw [List.map_cons, changesOfArguments_cons_of_some (OptionField.ofName?_name change.1),
      inductionHypothesis]
    rfl

theorem changesOfEntries_named (changes : List (OptionField × Value)) :
    changesOfEntries (changes.map fun change => (.text change.1.name, change.2)) =
      .ok changes := by
  induction changes with
  | nil => rfl
  | cons change rest inductionHypothesis =>
    have known : OptionField.ofKey? (.text change.1.name) = some change.1 := by
      cases change.1 <;> decide
    rw [List.map_cons, changesOfEntries_cons_of_some known, inductionHypothesis]
    rfl

/-- The options are made again of their own fields in every way, and changes that are made one after
the other could have been made at once: with the same options, or the same fault. -/
structure IsSettled (options : Options) : Prop where
  replace_nothing : options.replace [] = .ok options
  ofArguments_own : Options.ofArguments options.ownArguments = .ok options
  ofMapping_own : Options.ofMapping options.ownEntries = .ok options
  replace_twice : ∀ changes further replaced, options.replace changes = .ok replaced →
    replaced.replace further = options.replace (mergedArguments (changes ++ further))

/-- However options were made, they are settled; and a colour is made again of its own channels. -/
theorem isSettled_of_isMade {options : Options} (made : options.IsMade) :
    options.IsSettled ∧ ∀ value color, Color.ofValue value = .ok color →
      Color.ofValue color.toValue = .ok color := by
  obtain ⟨given, known⟩ := made.exists_given
  have again := ofGiven_toGiven known
  refine ⟨⟨again, ?_, ?_, fun _ further _ first => replace_replace first further⟩,
    fun _ color ofValue => Color.ofValue_toValue color (Color.isValid_of_ofValue ofValue)⟩
  · unfold Options.ofArguments
    rw [ownArguments, changesOfArguments_named]
    show ofGiven (GivenOptions.defaults.setAll options.ownChanges) = _
    rw [setAll_ownChanges, again]
  · unfold Options.ofMapping
    rw [ownEntries, changesOfEntries_named]
    show ofGiven (GivenOptions.defaults.setAll options.ownChanges) = _
    rw [setAll_ownChanges, again]

/-- Options that were made of a mapping and then given half a pixel more than whole ones. -/
theorem isSettled_of_replacing : ∃ options : Options, options.IsMade ∧ options.kind = .bar ∧
    options.height = 100 ∧ options.IsSettled := by
  have bars : Options.ofMapping [(.text "type", .text "bar")] = .ok { standard with kind := .bar } := by
    decide +kernel
  have lower : ({ standard with kind := .bar } : Options).replace [("height", .float 99.5)] =
      .ok { standard with kind := .bar, height := 100, height_pos := by decide } := by
    decide +kernel
  have made := IsMade.replace (.ofMapping bars) lower
  exact ⟨_, made, rfl, rfl, (isSettled_of_isMade made).1⟩

end Options

end SeriesChart
