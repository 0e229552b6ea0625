/-
This file says how far the order of a mapping counts when options are made of it. A key that is no
spelling of a field is refused wherever it stands, and a field takes the value of the last entry
whose key stands for it. So the order does not count as long as the last entries stay the same,
which they do when no two keys are spellings of one field; with two spellings of one field it does.
-/

import SeriesChart.Proofs.Options.Settled

namespace SeriesChart

/-- Both attempts have the same result, or neither has one. -/
inductive Concur {Result : Type} : Except Fault Result → Except Fault Result → Prop
  | made (result : Result) : Concur (.ok result) (.ok result)
  | refused (fault other : Fault) : Concur (.error fault) (.error other)

theorem Concur.refl {Result : Type} (outcome : Except Fault Result) :
    Concur outcome outcome := by
  cases outcome with
  | ok result => exact .made result
  | error fault => exact .refused fault fault

namespace Options

/-! ### What a mapping gives -/

/-- The fields that the keys of a mapping stand for. -/
def fieldsOf (entries : List (Value × Value)) : List OptionField :=
  entries.filterMap fun entry => OptionField.ofKey? entry.1

/-- No two keys of the mapping are spellings of one field. -/
def SpellsOnce (entries : List (Value × Value)) : Prop := (fieldsOf entries).Nodup

/-- What the last entry whose key stands for the field gives it. -/
def lastGiven? (entries : List (Value × Value)) (field : OptionField) : Option Value :=
  lastOf? (knownChanges entries) field

/-- The values that a mapping gives all fields. -/
def givenBy (entries : List (Value × Value)) : GivenOptions :=
  fun field => (lastGiven? entries field).getD (GivenOptions.defaults field)

theorem map_fst_knownChanges (entries : List (Value × Value)) :
    (knownChanges entries).map Prod.fst = fieldsOf entries := by
  unfold knownChanges fieldsOf
  rw [List.map_filterMap]
  congr 1
  funext entry
  cases OptionField.ofKey? entry.1 <;> rfl

section Entries

variable {entries others : List (Value × Value)}

theorem ofMapping_of_known (known : ∀ entry ∈ entries, entry.1.IsSpelling) :
    ofMapping entries = ofGiven (givenBy entries) := by
  have given : GivenOptions.defaults.setAll (knownChanges entries) = givenBy entries :=
    funext fun field => GivenOptions.setAll_apply _ _ field
  unfold ofMapping
  rw [changesOfEntries_of_known known, ← given]
  rfl

theorem ofMapping_of_unknown (unknown : ¬∀ entry ∈ entries, entry.1.IsSpelling) :
    ∃ fault, ofMapping entries = .error fault := by
  unfold ofMapping
  cases read : changesOfEntries entries with
  | ok changes => exact absurd (forall_isSpelling read) unknown
  | error fault => exact ⟨fault, rfl⟩

theorem forall_isSpelling_of_ofMapping {options : Options} (made : ofMapping entries = .ok options) :
    ∀ entry ∈ entries, entry.1.IsSpelling := by
  obtain ⟨changes, read, -⟩ := except_bind_eq_ok made
  exact forall_isSpelling read

/-- A mapping is made options just when all its keys are known and what it gives settles all
fields. -/
theorem exists_ofMapping_iff : (∃ options, ofMapping entries = .ok options) ↔
    (∀ entry ∈ entries, entry.1.IsSpelling) ∧
      ∀ field : OptionField, ∃ settled, field.settle (givenBy entries field) = .ok settled := by
  constructor
  · rintro ⟨options, made⟩
    have known := forall_isSpelling_of_ofMapping made
    rw [ofMapping_of_known known] at made
    exact ⟨known, exists_ofGiven_iff.mp ⟨options, made⟩⟩
  · rintro ⟨known, settled⟩
    rw [ofMapping_of_known known]
    exact exists_ofGiven_iff.mpr settled

/-! ### Mappings in another order -/

theorem forall_isSpelling_iff_of_perm (reordered : entries.Perm others) :
    (∀ entry ∈ entries, entry.1.IsSpelling) ↔ ∀ entry ∈ others, entry.1.IsSpelling :=
  forall_congr' fun _ => imp_congr_left reordered.mem_iff

theorem lastGiven?_of_perm (reordered : entries.Perm others) (once : SpellsOnce entries)
    (field : OptionField) : lastGiven? entries field = lastGiven? others field := by
  have changes : (knownChanges entries).Perm (knownChanges others) := reordered.filterMap _
  have distinct : ((knownChanges entries).map Prod.fst).Nodup := by
    rw [map_fst_knownChanges]
    exact once
  have alsoDistinct := (changes.map Prod.fst).nodup distinct
  unfold lastGiven?
  rw [lastOf?_of_nodup distinct, lastOf?_of_nodup alsoDistinct, lookup_of_perm changes distinct]

theorem concur_of_lastGiven (reordered : entries.Perm others)
    (last : ∀ field, lastGiven? entries field = lastGiven? others field) :
    Concur (ofMapping entries) (ofMapping others) := by
  by_cases known : ∀ entry ∈ entries, entry.1.IsSpelling
  · have given : givenBy entries = givenBy others :=
      funext fun field => congrArg (Option.getD · _) (last field)
    rw [ofMapping_of_known known,
      ofMapping_of_known ((forall_isSpelling_iff_of_perm reordered).mp known), given]
    exact .refl _
  · obtain ⟨fault, refused⟩ := ofMapping_of_unknown known
    obtain ⟨other, alsoRefused⟩ :=
      ofMapping_of_unknown ((forall_isSpelling_iff_of_perm reordered).not.mp known)
    rw [refused, alsoRefused]
    exact .refused fault other

/-- How far the order counts in two mappings with the same entries. They are treated alike when no
field is spelled twice, or when each field is given the same value last. A mapping is made options
just when all keys are known and what is given last settles all fields; and the other one is made the
same options just when each field becomes the same in both. -/
structure TurnsOnLast (entries others : List (Value × Value)) : Prop where
  concur_of_once : SpellsOnce entries → Concur (ofMapping entries) (ofMapping others)
  concur_of_last : (∀ field, lastGiven? entries field = lastGiven? others field) →
    Concur (ofMapping entries) (ofMapping others)
  exists_iff : (∃ options, ofMapping entries = .ok options) ↔
    (∀ entry ∈ entries, entry.1.IsSpelling) ∧
      ∀ field : OptionField, ∃ settled, field.settle (givenBy entries field) = .ok settled
  eq_ok_iff : ∀ options, ofMapping entries = .ok options → (ofMapping others = .ok options ↔
    ∀ field : OptionField,
      field.settle (givenBy entries field) = field.settle (givenBy others field))

/-- Of a mapping in another order the last entries decide whether it is treated alike. -/
theorem turnsOnLast_of_perm (reordered : entries.Perm others) : TurnsOnLast entries others where
  concur_of_once once := concur_of_lastGiven reordered (lastGiven?_of_perm reordered once)
  concur_of_last last := concur_of_lastGiven reordered last
  exists_iff := exists_ofMapping_iff
  eq_ok_iff options made := by
    have known := forall_isSpelling_of_ofMapping made
    rw [ofMapping_of_known known] at made
    rw [ofMapping_of_known ((forall_isSpelling_iff_of_perm reordered).mp known)]
    exact ofGiven_eq_ok_iff made

end Entries

/-- Bars in blue are the same whether their colour or their kind is given first. -/
theorem concur_bars_in_blue :
    Concur (ofMapping [(.text "color", .text "blue"), (.text "type", .text "bar")])
      (ofMapping [(.text "type", .text "bar"), (.text "color", .text "blue")]) := by
  have once : SpellsOnce [(.text "color", .text "blue"), (.text "type", .text "bar")] := by
    unfold SpellsOnce
    decide
  exact (turnsOnLast_of_perm (List.Perm.swap _ _ [])).concur_of_once once

/-- With two spellings of the stroke colour the order counts. -/
theorem not_concur_two_strokes : ¬∀ entries others : List (Value × Value), entries.Perm others →
    Concur (ofMapping entries) (ofMapping others) := by
  have blueLast : ofMapping [(.text "color", .tuple [.int 255, .int 0, .int 0]),
      (.text "stroke_color", .tuple [.int 0, .int 0, .int 255])] =
      .ok { standard with strokeColor := ⟨0, 0, 255, 255⟩ } := by decide +kernel
  have redLast : ofMapping [(.text "stroke_color", .tuple [.int 0, .int 0, .int 255]),
      (.text "color", .tuple [.int 255, .int 0, .int 0])] =
      .ok { standard with strokeColor := ⟨255, 0, 0, 255⟩ } := by decide +kernel
  intro always
  have concur := always _ _ (List.Perm.swap (.text "stroke_color", .tuple [.int 0, .int 0, .int 255])
    (.text "color", .tuple [.int 255, .int 0, .int 0]) [])
  rw [blueLast, redLast] at concur
  cases concur

end Options

end SeriesChart
