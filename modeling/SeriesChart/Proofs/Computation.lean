/-
This file holds what is common to all computations that keep a state and may give up. Such
a computation ends with a result or with a fault, and in both cases in a state. A property
that every step keeps is kept by the whole; and when two computations take related states
to related states step by step, with the same results and the same faults, they do so as a
whole.
-/

import SeriesChart.Fault

namespace EStateM.Result

variable {Error State Other Value : Type}

/-! ### Parts of an outcome -/

/-- The state at the end, whether the computation gave up or not. -/
def state : EStateM.Result Error State Value → State
  | .ok _ state => state
  | .error _ state => state

/-- The result, or the fault in its place. -/
def result : EStateM.Result Error State Value → Except Error Value
  | .ok value _ => .ok value
  | .error fault _ => .error fault

/-- The same end in the image of the state. -/
def mapState (image : State → Other) :
    EStateM.Result Error State Value → EStateM.Result Error Other Value
  | .ok value state => .ok value (image state)
  | .error fault state => .error fault (image state)

variable {value : Value} {fault : Error} {last : State}

@[simp] theorem state_ok : (ok value last : EStateM.Result Error State Value).state = last := rfl

@[simp] theorem state_error :
    (error fault last : EStateM.Result Error State Value).state = last := rfl

@[simp] theorem result_ok :
    (ok value last : EStateM.Result Error State Value).result = .ok value := rfl

@[simp] theorem result_error :
    (error fault last : EStateM.Result Error State Value).result = .error fault := rfl

@[simp] theorem mapState_ok (image : State → Other) :
    (ok value last : EStateM.Result Error State Value).mapState image = .ok value (image last) :=
  rfl

@[simp] theorem mapState_error (image : State → Other) :
    (error fault last : EStateM.Result Error State Value).mapState image =
      .error fault (image last) := rfl

@[simp] theorem state_mapState (image : State → Other) (outcome : EStateM.Result Error State Value) :
    (outcome.mapState image).state = image outcome.state := by
  cases outcome <;> rfl

@[simp] theorem result_mapState (image : State → Other)
    (outcome : EStateM.Result Error State Value) :
    (outcome.mapState image).result = outcome.result := by
  cases outcome <;> rfl

theorem mapState_mapState {Last : Type} (image : State → Other) (next : Other → Last)
    (outcome : EStateM.Result Error State Value) :
    (outcome.mapState image).mapState next = outcome.mapState fun state => next (image state) := by
  cases outcome <;> rfl

theorem mapState_eq_ok {image : State → Other} {outcome : EStateM.Result Error State Value}
    {other : Other} (equal : outcome.mapState image = .ok value other) :
    ∃ state, outcome = .ok value state ∧ image state = other := by
  cases outcome with
  | ok found state =>
    rw [mapState_ok] at equal
    cases equal
    exact ⟨state, rfl, rfl⟩
  | error fault state => cases equal

theorem mapState_eq_error {image : State → Other} {outcome : EStateM.Result Error State Value}
    {other : Other} (equal : outcome.mapState image = .error fault other) :
    ∃ state, outcome = .error fault state ∧ image state = other := by
  cases outcome with
  | ok found state => cases equal
  | error found state =>
    rw [mapState_error] at equal
    cases equal
    exact ⟨state, rfl, rfl⟩

theorem eq_ok_of_result {outcome : EStateM.Result Error State Value}
    (equal : outcome.result = .ok value) : outcome = .ok value outcome.state := by
  cases outcome with
  | ok found last =>
    cases equal
    rfl
  | error fault last => cases equal

/-! ### Outcomes side by side -/

/-- Both have the same result in related states, or both gave up with the same fault in related
states. -/
inductive Alike (related : State → Other → Prop) :
    EStateM.Result Error State Value → EStateM.Result Error Other Value → Prop where
  | ok (value : Value) {first : State} {second : Other} (states : related first second) :
    Alike related (.ok value first) (.ok value second)
  | error (fault : Error) {first : State} {second : Other} (states : related first second) :
    Alike related (.error fault first) (.error fault second)

namespace Alike

variable {related : State → Other → Prop}
variable {first : EStateM.Result Error State Value} {second : EStateM.Result Error Other Value}

theorem mono {wider : State → Other → Prop} (alike : Alike related first second)
    (implied : ∀ first second, related first second → wider first second) :
    Alike wider first second := by
  cases alike with
  | ok value states => exact .ok value (implied _ _ states)
  | error fault states => exact .error fault (implied _ _ states)

theorem states (alike : Alike related first second) : related first.state second.state := by
  cases alike with
  | ok value states => exact states
  | error fault states => exact states

theorem results (alike : Alike related first second) : first.result = second.result := by
  cases alike <;> rfl

theorem mapState {NewState NewOther : Type} {wider : NewState → NewOther → Prop}
    {image : State → NewState} {otherImage : Other → NewOther}
    (alike : Alike (fun first second => wider (image first) (otherImage second)) first second) :
    Alike wider (first.mapState image) (second.mapState otherImage) := by
  cases alike with
  | ok value states => exact .ok value states
  | error fault states => exact .error fault states

/-- What follows a pair of computations is alike as soon as it is so after related states. -/
theorem bind {Next : Type} {wider : State → Other → Prop} {action : EStateM Error State Value}
    {otherAction : EStateM Error Other Value} {state : State} {other : Other}
    {next : Value → EStateM Error State Next} {otherNext : Value → EStateM Error Other Next}
    (alike : Alike related (action state) (otherAction other))
    (implied : ∀ first second, related first second → wider first second)
    (further : ∀ value first second, related first second →
      Alike wider (next value first) (otherNext value second)) :
    Alike wider ((action >>= next) state) ((otherAction >>= otherNext) other) := by
  show Alike wider (EStateM.bind action next state) (EStateM.bind otherAction otherNext other)
  unfold EStateM.bind
  generalize action state = ended at alike
  generalize otherAction other = otherEnded at alike
  cases alike with
  | ok value states => exact further value _ _ states
  | error fault states => exact .error fault (implied _ _ states)

/-- What comes after a part without a state, if that part has a result. -/
theorem bindLift {State Other Value Next : Type} {related : State → Other → Prop} {state : State}
    {other : Other} {part : Except SeriesChart.Fault Value}
    {next : Value → EStateM SeriesChart.Fault State Next}
    {otherNext : Value → EStateM SeriesChart.Fault Other Next} (states : related state other)
    (further : ∀ value, part = .ok value → Alike related (next value state) (otherNext value other)) :
    Alike related (((part : EStateM SeriesChart.Fault State Value) >>= next) state)
      (((part : EStateM SeriesChart.Fault Other Value) >>= otherNext) other) := by
  cases part with
  | ok value => exact further value rfl
  | error fault => exact .error fault states

/-- One computation for every item of a list. -/
theorem forM {Item : Type} {action : Item → EStateM Error State Unit}
    {otherAction : Item → EStateM Error Other Unit}
    (each : ∀ item first second, related first second →
      Alike related (action item first) (otherAction item second)) (items : List Item)
    {state : State} {other : Other} (states : related state other) :
    Alike related (items.forM action state) (items.forM otherAction other) := by
  induction items generalizing state other with
  | nil => exact .ok () states
  | cons item rest inductionHypothesis =>
    exact bind (each item _ _ states) (fun _ _ => id) fun _ _ _ => inductionHypothesis

end Alike

end EStateM.Result

namespace SeriesChart

/-! ### One computation after another -/

section Steps

variable {State Result Next : Type}

theorem bind_of_ok {action : EStateM Fault State Result} {next : Result → EStateM Fault State Next}
    {before after : State} {result : Result} (equal : action before = .ok result after) :
    (action >>= next) before = next result after := by
  show EStateM.bind action next before = next result after
  unfold EStateM.bind
  rw [equal]

theorem bind_of_error {action : EStateM Fault State Result}
    {next : Result → EStateM Fault State Next} {before after : State} {fault : Fault}
    (equal : action before = .error fault after) :
    (action >>= next) before = .error fault after := by
  show EStateM.bind action next before = .error fault after
  unfold EStateM.bind
  rw [equal]

theorem get_bind (next : State → EStateM Fault State Next) (state : State) :
    (get >>= next) state = next state state := rfl

/-- A computation that has a result had one in each of its steps. -/
theorem bind_eq_ok {action : EStateM Fault State Result} {next : Result → EStateM Fault State Next}
    {before last : State} {result : Next} (equal : (action >>= next) before = .ok result last) :
    ∃ first after, action before = .ok first after ∧ next first after = .ok result last := by
  cases step : action before with
  | ok first after =>
    rw [bind_of_ok step] at equal
    exact ⟨first, after, rfl, equal⟩
  | error fault after =>
    rw [bind_of_error step] at equal
    cases equal

/-- A part without a state that has a result hands it on. -/
theorem lift_bind_of_ok {part : Except Fault Result} {next : Result → EStateM Fault State Next}
    {value : Result} (known : part = .ok value) :
    ((part : EStateM Fault State Result) >>= next) = next value := by
  rw [known]
  rfl

/-- A part without a state has a result or ends everything. -/
theorem lift_bind_eq_ok {part : Except Fault Result} {next : Result → EStateM Fault State Next}
    {before last : State} {result : Next}
    (equal : ((part : EStateM Fault State Result) >>= next) before = .ok result last) :
    ∃ value, part = .ok value ∧ next value before = .ok result last := by
  cases part with
  | ok value => exact ⟨value, rfl, equal⟩
  | error fault => cases equal

/-- A part without a state that ends everything leaves the state as it was. -/
theorem lift_bind_eq_error {part : Except Fault Result} {next : Result → EStateM Fault State Next}
    {before last : State} {fault : Fault}
    (equal : ((part : EStateM Fault State Result) >>= next) before = .error fault last) :
    last = before ∨ ∃ value, part = .ok value ∧ next value before = .error fault last := by
  cases part with
  | ok value => exact Or.inr ⟨value, rfl, equal⟩
  | error found =>
    cases equal
    exact Or.inl rfl

theorem except_bind_eq_ok {part : Except Fault Result} {next : Result → Except Fault Next}
    {result : Next} (equal : (part >>= next) = .ok result) :
    ∃ value, part = .ok value ∧ next value = .ok result := by
  cases part with
  | ok value => exact ⟨value, rfl, equal⟩
  | error fault => cases equal

theorem except_map_eq_ok_iff {part : Except Fault Result} {function : Result → Next} {result : Next} :
    part.map function = .ok result ↔ ∃ value, part = .ok value ∧ function value = result := by
  cases part with
  | ok value =>
    show Except.ok (function value) = _ ↔ _
    simp only [Except.ok.injEq, exists_eq_left']
  | error fault => exact iff_of_false nofun nofun

theorem except_map_eq_error_iff {part : Except Fault Result} {function : Result → Next}
    {fault : Fault} : part.map function = .error fault ↔ part = .error fault := by
  cases part with
  | ok value => exact iff_of_false nofun nofun
  | error found =>
    show (Except.error found : Except Fault Next) = .error fault ↔ _
    rw [Except.error.injEq, Except.error.injEq]

/-- Parts with the same images are the same where the function tells their results apart. -/
theorem except_eq_of_map_eq {first second : Except Fault Result} {function : Result → Next}
    (injective : ∀ result other, first = .ok result → second = .ok other →
      function result = function other → result = other)
    (same : first.map function = second.map function) : first = second := by
  cases first with
  | ok result =>
    obtain ⟨other, made, equal⟩ := except_map_eq_ok_iff.mp same.symm
    rw [injective result other rfl made equal.symm, made]
  | error fault => exact (except_map_eq_error_iff.mp same.symm).symm

/-- What is refused on a condition was not refused if there is a result. -/
theorem refuse_eq_ok {check : Except Fault Bool} {fault : Fault} {rest : Except Fault Result}
    {result : Result}
    (equal : (do
      if ← check then throw fault
      rest) = .ok result) :
    check = .ok false ∧ rest = .ok result := by
  obtain ⟨refused, read, equal⟩ := except_bind_eq_ok equal
  cases refused with
  | true => cases equal
  | false => exact ⟨read, equal⟩

end Steps

/-! ### Outcomes without a state -/

section Outcomes

variable {Item Result Next : Type}

/-- The outcome is a fault of the sort. -/
def Fails (sort : Fault → Prop) (outcome : Except Fault Result) : Prop :=
  ∃ fault, outcome = .error fault ∧ sort fault

section Fails

variable {sort : Fault → Prop}

theorem not_fails_ok (result : Result) : ¬Fails sort (.ok result) := by
  rintro ⟨fault, impossible, -⟩
  cases impossible

theorem fails_error_iff (fault : Fault) :
    Fails sort (.error fault : Except Fault Result) ↔ sort fault := by
  constructor
  · rintro ⟨found, same, held⟩
    cases same
    exact held
  · exact fun held => ⟨fault, rfl, held⟩

/-- A computation in two parts fails so when the first part does, or the second part after it. -/
theorem fails_bind_iff (first : Except Fault Result) (next : Result → Except Fault Next) :
    Fails sort (first >>= next) ↔
      Fails sort first ∨ ∃ value, first = .ok value ∧ Fails sort (next value) := by
  cases first with
  | error fault =>
    refine (fails_error_iff fault).trans ((fails_error_iff fault).symm.trans (or_iff_left ?_).symm)
    rintro ⟨value, impossible, -⟩
    cases impossible
  | ok value =>
    refine Iff.trans ?_ (or_iff_right (not_fails_ok value)).symm
    constructor
    · exact fun fails => ⟨value, rfl, fails⟩
    · rintro ⟨found, same, fails⟩
      cases same
      exact fails

theorem fails_map_iff (function : Result → Next) (outcome : Except Fault Result) :
    Fails sort (outcome.map function) ↔ Fails sort outcome := by
  cases outcome with
  | ok result => exact iff_of_false (not_fails_ok _) (not_fails_ok _)
  | error fault => exact (fails_error_iff fault).trans (fails_error_iff fault).symm

/-- After items that pass there is one that stops. -/
def StopsAt (passes stops : Item → Prop) (items : List Item) : Prop :=
  ∃ before item after, items = before ++ item :: after ∧
    (∀ earlier ∈ before, passes earlier) ∧ stops item

theorem not_stopsAt_nil (passes stops : Item → Prop) : ¬StopsAt passes stops [] := by
  rintro ⟨before, item, after, split, -⟩
  cases before <;> cases split

theorem stopsAt_cons_iff {passes stops : Item → Prop} (first : Item) (rest : List Item) :
    StopsAt passes stops (first :: rest) ↔
      stops first ∨ passes first ∧ StopsAt passes stops rest := by
  constructor
  · rintro ⟨before, item, after, split, earlier, stop⟩
    cases before with
    | nil =>
      cases split
      exact Or.inl stop
    | cons head tail =>
      cases split
      obtain ⟨pass, others⟩ := List.forall_mem_cons.mp earlier
      exact Or.inr ⟨pass, tail, item, after, rfl, others, stop⟩
  · rintro (stop | ⟨pass, before, item, after, rfl, earlier, stop⟩)
    · exact ⟨[], first, rest, rfl, List.forall_mem_nil _, stop⟩
    · exact ⟨first :: before, item, after, rfl, List.forall_mem_cons.mpr ⟨pass, earlier⟩, stop⟩

/-- A loop fails so when, after items that pass, one item does. -/
theorem fails_forM_iff (check : Item → Except Fault Unit) (items : List Item) :
    Fails sort (items.forM check) ↔
      StopsAt (fun item => check item = .ok ()) (fun item => Fails sort (check item)) items := by
  induction items with
  | nil => exact iff_of_false (not_fails_ok ()) (not_stopsAt_nil _ _)
  | cons first rest inductionHypothesis =>
    show Fails sort (check first >>= fun _ => rest.forM check) ↔ _
    rw [fails_bind_iff, stopsAt_cons_iff, inductionHypothesis]
    exact or_congr_right ⟨fun ⟨_, both⟩ => both, fun both => ⟨(), both⟩⟩

end Fails

/-- The outcome is a result with the property. -/
def Yields (outcome : Except Fault Result) (holds : Result → Prop) : Prop :=
  ∃ result, outcome = .ok result ∧ holds result

section Yields

variable {holds : Result → Prop} {holdsNext : Next → Prop}

theorem yields_ok {result : Result} (held : holds result) : Yields (.ok result) holds :=
  ⟨result, rfl, held⟩

theorem Yields.bind {outcome : Except Fault Result} {next : Result → Except Fault Next}
    (first : Yields outcome holds)
    (further : ∀ result, holds result → Yields (next result) holdsNext) :
    Yields (outcome >>= next) holdsNext := by
  obtain ⟨result, rfl, held⟩ := first
  exact further result held

theorem Yields.anyway {outcome : Except Fault Result} (yields : Yields outcome holds) :
    Yields outcome fun _ => True := yields.imp fun _ both => ⟨both.1, trivial⟩

theorem yields_mapM {read : Item → Except Fault Result} {items : List Item}
    (each : ∀ item ∈ items, Yields (read item) holds) :
    Yields (items.mapM read) fun results => ∀ result ∈ results, holds result := by
  induction items with
  | nil => exact yields_ok (List.forall_mem_nil _)
  | cons item rest inductionHypothesis =>
    obtain ⟨first, others⟩ := List.forall_mem_cons.mp each
    rw [List.mapM_cons]
    refine first.bind fun result held => (inductionHypothesis others).bind fun results all => ?_
    exact yields_ok (List.forall_mem_cons.mpr ⟨held, all⟩)

end Yields

end Outcomes

/-! ### Kept properties -/

section Keeps

variable {State Result Next : Type}

/-- Wherever the computation starts with the property it ends with it, even if it gives up. -/
def Keeps (holds : State → Prop) (action : EStateM Fault State Result) : Prop :=
  ∀ state, holds state → holds (action state).state

variable {holds : State → Prop}

theorem keeps_pure (result : Result) : Keeps holds (pure result) := fun _ held => held

theorem keeps_lift (part : Except Fault Result) :
    Keeps holds (part : EStateM Fault State Result) := by
  intro state held
  cases part <;> exact held

theorem keeps_get : Keeps holds (get : EStateM Fault State State) := fun _ held => held

theorem keeps_modify {change : State → State} (kept : ∀ state, holds state → holds (change state)) :
    Keeps holds (modify change : EStateM Fault State Unit) := kept

theorem keeps_bind {action : EStateM Fault State Result}
    {next : Result → EStateM Fault State Next} (first : Keeps holds action)
    (further : ∀ result, Keeps holds (next result)) : Keeps holds (action >>= next) := by
  intro state held
  have middle := first state held
  cases step : action state with
  | ok result after =>
    rw [step] at middle
    rw [bind_of_ok step]
    exact further result after middle
  | error fault after =>
    rw [step] at middle
    rw [bind_of_error step]
    exact middle

theorem keeps_forM {Item : Type} {action : Item → EStateM Fault State Unit}
    (each : ∀ item, Keeps holds (action item)) (items : List Item) :
    Keeps holds (items.forM action) := by
  induction items with
  | nil => exact keeps_pure ()
  | cons item rest inductionHypothesis =>
    exact keeps_bind (each item) fun _ => inductionHypothesis

end Keeps

end SeriesChart
