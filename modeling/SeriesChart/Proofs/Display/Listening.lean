/-
This file counts who listens to whom. A chart keeps a list of what it listens to, and every
host keeps a list of those who listen to it. Whatever is done with charts and hosts, also
while a chart is mounted and also when something gives up, the two agree: a host is
listened to by the charts that are on it and by no others, by each of them once for every
kind of events or not at all.
-/

import SeriesChart.Proofs.Display.Freshness

namespace SeriesChart

/-! ### Mounted charts -/

namespace Page

/-- Detaching does not give up, and a mounted chart is detached whatever came of the rest. -/
theorem state_mounted {Result : Type} (id : ChartId) (host : HostId)
    (body : EStateM Fault Page Result) (page : Page) :
    (mounted id host body page).state =
      match attach id host page with
      | .ok _ attached => (detach id (body attached).state).state
      | .error _ last => last := by
  unfold mounted
  cases attached : attach id host page with
  | error fault last => rw [bind_of_error attached, EStateM.Result.state_error]
  | ok _ before =>
    rw [bind_of_ok attached]
    have passed : ∃ result, (try
        let result ← body
        pure (.ok result)
      catch fault => pure (.error fault) : EStateM Fault Page (Except Fault Result)) before =
        .ok result (body before).state := by
      show ∃ result, EStateM.tryCatch (EStateM.bind body _) _ before = _
      unfold EStateM.tryCatch EStateM.bind
      cases body before with
      | ok result last => exact ⟨.ok result, rfl⟩
      | error fault last => exact ⟨.error fault, rfl⟩
    obtain ⟨result, passed⟩ := passed
    rw [bind_of_ok passed]
    show _ = (detach id (body before).state).state
    cases detached : detach id (body before).state with
    | error fault last =>
      rw [bind_of_error detached]
      rfl
    | ok _ last =>
      rw [bind_of_ok detached]
      cases result <;> rfl

end Page

/-! ### Activities -/

/-- What is done with a page: operations one after the other, also while a chart is mounted, and
also where a fault is passed over. -/
inductive Activity where
  | pass
  /-- Gives up on its own account. -/
  | raise (fault : Fault)
  | single (operation : Operation)
  /-- The second comes only if the first did not give up. -/
  | andThen (first second : Activity)
  /-- Passes over the fault of what gives up. -/
  | attempt (body : Activity)
  /-- Goes on while a chart is attached to a host, and detaches the chart in the end. -/
  | mounted (chart : ChartId) (host : HostId) (body : Activity)

namespace Activity

/-- Does it. -/
def perform : Activity → EStateM Fault Page Unit
  | pass => pure ()
  | raise fault => throw fault
  | single operation => operation.perform
  | andThen first second => do
    first.perform
    second.perform
  | attempt body => try body.perform catch _ => pure ()
  | mounted chart host body => Page.mounted chart host body.perform

/-- The operations that it comes to, in the order in which they are performed. -/
def operations : Activity → Page → List Operation
  | pass, _ => []
  | raise _, _ => []
  | single operation, _ => [operation]
  | andThen first second, page =>
    match first.perform page with
    | .ok _ middle => first.operations page ++ second.operations middle
    | .error _ _ => first.operations page
  | attempt body, page => body.operations page
  | mounted chart host body, page =>
    match Page.attach chart host page with
    | .ok _ attached => .attach chart host :: (body.operations attached ++ [.detach chart])
    | .error _ _ => [.attach chart host]

/-- An activity leaves the page as its operations do. -/
theorem state_perform (activity : Activity) (page : Page) :
    (activity.perform page).state = page.after (activity.operations page) := by
  induction activity generalizing page with
  | pass => rfl
  | raise fault => rfl
  | single operation => rfl
  | andThen first second firstHypothesis secondHypothesis =>
    have performed := firstHypothesis page
    unfold perform operations
    cases ended : first.perform page with
    | ok _ middle =>
      rw [ended, EStateM.Result.state_ok] at performed
      rw [bind_of_ok ended, Page.after_append, ← performed, secondHypothesis]
    | error fault last =>
      rw [ended] at performed
      rw [bind_of_error ended, ← performed]
  | attempt body inductionHypothesis =>
    rw [operations, ← inductionHypothesis]
    show (EStateM.tryCatch body.perform _ page).state = _
    unfold EStateM.tryCatch
    cases body.perform page <;> rfl
  | mounted chart host body inductionHypothesis =>
    unfold perform operations
    rw [Page.state_mounted]
    have attaching : (Operation.attach chart host).perform page = Page.attach chart host page := rfl
    cases attached : Page.attach chart host page with
    | ok _ before =>
      rw [Page.after_cons, attaching, attached, EStateM.Result.state_ok, Page.after_append,
        ← inductionHypothesis]
      rfl
    | error fault last =>
      rw [Page.after_cons, attaching, attached]
      rfl

end Activity

/-! ### All who listen -/

/-- Of many lists only the one at a given place holds an item. -/
theorem count_flatMap_at {Item : Type} (items : List Item) (listeners : Item → List ChartId)
    (id : ChartId) (index amount : Nat) (inside : index < items.length ∨ amount = 0)
    (each : ∀ place item, items[place]? = some item →
      (listeners item).count id = if place = index then amount else 0) :
    (items.flatMap listeners).count id = amount := by
  induction items generalizing index amount with
  | nil =>
    obtain outside | none := inside
    · exact absurd outside (Nat.not_lt_zero _)
    · rw [none]
      rfl
  | cons item rest inductionHypothesis =>
    have first := each 0 item rfl
    rw [List.flatMap_cons, List.count_append, first]
    cases index with
    | zero =>
      have none := inductionHypothesis 0 0 (Or.inr rfl) fun place other found =>
        (each (place + 1) other found).trans (by rw [if_neg (Nat.succ_ne_zero place), ite_self])
      rw [if_pos rfl, none, Nat.add_zero]
    | succ index =>
      have further := inductionHypothesis index amount (inside.imp_left Nat.lt_of_succ_lt_succ)
        fun place other found => by
          rw [each (place + 1) other found]
          simp only [Nat.add_right_cancel_iff]
      rw [if_neg (Nat.succ_ne_zero index).symm, further, Nat.zero_add]

namespace Page

/-- Everyone who listens to some host, once for every listener that a host holds. -/
def audience (page : Page) : List ChartId :=
  page.hosts.toList.flatMap fun host => host.moves ++ host.leaves

end Page

theorem Chart.Sound.count_all {chart : Chart} (sound : chart.Sound) :
    chart.listens.count .move + chart.listens.count .leave = chart.listens.length := by
  obtain silent | listening := sound.listens
  · rw [silent]
    rfl
  · rw [listening]
    rfl

theorem Chart.Sound.count_alike {chart : Chart} (sound : chart.Sound) :
    (∀ kind, chart.listens.count kind = 0) ∨ ∀ kind, chart.listens.count kind = 1 := by
  obtain silent | listening := sound.listens
  · rw [silent]
    exact Or.inl fun kind => rfl
  · rw [listening]
    exact Or.inr fun kind => by cases kind <;> rfl

namespace Page

variable {before page : Page} {id other : ChartId} {host : HostId} {chart : Chart}

/-- The hosts of a page know of a chart just what the chart says. -/
structure AgreesOn (page : Page) (id : ChartId) (chart : Chart) : Prop where
  own : ∀ host place, chart.host = some host → page.hosts[host]? = some place →
    (∀ kind, place.count kind id = 0) ∨ ∀ kind, place.count kind id = 1
  others : ∀ host place kind, chart.host ≠ some host → page.hosts[host]? = some place →
    place.count kind id = 0
  total : chart.listens.length = page.audience.count id

theorem Sound.count_of_some (sound : page.Sound) (found : page.charts[id]? = some chart)
    {place : Host ChartId} (placed : page.hosts[host]? = some place) (kind : PointerKind) :
    place.count kind id = if chart.host = some host then chart.listens.count kind else 0 := by
  rw [sound.listeners id host place kind placed, registered_of_some found]

theorem Sound.count_audience (sound : page.Sound) (found : page.charts[id]? = some chart) :
    page.audience.count id = chart.listens.length := by
  have chartSound := (sound.charts id chart found).2
  cases hosted : chart.host with
  | none =>
    refine count_flatMap_at _ _ _ 0 _ (Or.inr ?_) fun host place placed => ?_
    · rw [(chartSound.idle hosted).2.2.2]
      rfl
    · rw [Array.getElem?_toList] at placed
      have each (kind : PointerKind) : place.count kind id = 0 := by
        rw [sound.count_of_some found placed, hosted, if_neg nofun]
      rw [(chartSound.idle hosted).2.2.2, List.length_nil, ite_self, List.count_append]
      exact congrArg₂ (· + ·) (each .move) (each .leave)
  | some own =>
    refine count_flatMap_at _ _ _ own _ (Or.inl ?_) fun host place placed => ?_
    · rw [Array.length_toList]
      exact sound.known id chart own found hosted
    · rw [Array.getElem?_toList] at placed
      have each (kind : PointerKind) :
          place.count kind id = if host = own then chart.listens.count kind else 0 := by
        rw [sound.count_of_some found placed, hosted]
        simp only [Option.some.injEq, eq_comm]
      rw [List.count_append]
      refine (congrArg₂ (· + ·) (each .move) (each .leave)).trans ?_
      split
      · exact chartSound.count_all
      · rfl

/-- On a page that can be relied on, hosts and charts agree on who listens. -/
theorem Sound.agreesOn (sound : page.Sound) (found : page.charts[id]? = some chart) :
    page.AgreesOn id chart where
  own host place hosted placed := by
    have each (kind : PointerKind) : place.count kind id = chart.listens.count kind := by
      rw [sound.count_of_some found placed, if_pos hosted]
    simp only [each]
    exact (sound.charts id chart found).2.count_alike
  others host place kind apart placed := by rw [sound.count_of_some found placed, if_neg apart]
  total := (sound.count_audience found).symm

end Page

/-! ### What an operation leaves to other charts -/

namespace Chart

theorem SameSeat.refl (chart : Chart) : chart.SameSeat chart := ⟨rfl, rfl, rfl⟩

theorem SameSeat.trans {first second third : Chart} (same : first.SameSeat second)
    (further : second.SameSeat third) : first.SameSeat third :=
  ⟨further.id.trans same.id, further.host.trans same.host, further.listens.trans same.listens⟩

end Chart

/-- The chart that an operation is about, if it is about one. -/
def Operation.subject : Operation → Option ChartId
  | attach chart _ => some chart
  | update chart _ _ => some chart
  | resize chart => some chart
  | detach chart => some chart
  | draw chart _ => some chart
  | point chart _ => some chart
  | _ => none

namespace Page

variable {before page : Page} {id other : ChartId} {host : HostId} {chart : Chart}

/-- The page has a chart on the same host as a given one that listens to the same. -/
def HasSeat (id : ChartId) (chart : Chart) (page : Page) : Prop :=
  ∃ last, page.charts[id]? = some last ∧ chart.SameSeat last

theorem keeps_hasSeat_onChart {action : EStateM Fault Chart Unit}
    (same : ∀ chart : Chart, chart.SameSeat (action chart).state) (id : ChartId) :
    Keeps (HasSeat other chart) (onChart id action) := by
  intro page ⟨last, found, seated⟩
  cases own : page.charts[id]? with
  | none =>
    rw [onChart_of_none _ own]
    exact ⟨last, found, seated⟩
  | some old =>
    rw [onChart_of_some _ own, EStateM.Result.state_mapState]
    have charts := charts_setChart page (action old).state own other
    by_cases self : other = id
    · rw [if_pos self] at charts
      subst self
      rw [own] at found
      cases found
      exact ⟨_, charts, seated.trans (same _)⟩
    · rw [if_neg self, found] at charts
      exact ⟨last, charts, seated⟩

/-- What is done to another chart alone. -/
theorem keeps_hasSeat_onChart_other (action : EStateM Fault Chart Unit) (apart : other ≠ id) :
    Keeps (HasSeat other chart) (onChart id action) := by
  intro page ⟨last, found, seated⟩
  cases own : page.charts[id]? with
  | none =>
    rw [onChart_of_none _ own]
    exact ⟨last, found, seated⟩
  | some old =>
    rw [onChart_of_some _ own, EStateM.Result.state_mapState]
    have charts := charts_setChart page (action old).state own other
    rw [if_neg apart, found] at charts
    exact ⟨last, charts, seated⟩

/-- What is done to another chart on a host. -/
theorem keeps_hasSeat_onSeat_other (action : EStateM Fault Seat Unit) (host : HostId)
    (apart : other ≠ id) : Keeps (HasSeat other chart) (onSeat id host action) := by
  intro page ⟨last, found, seated⟩
  cases own : page.charts[id]? with
  | none =>
    rw [onSeat_of_no_chart _ own]
    exact ⟨last, found, seated⟩
  | some old =>
    cases placed : page.hosts[host]? with
    | none =>
      rw [onSeat_of_no_host _ placed]
      exact ⟨last, found, seated⟩
    | some place =>
      rw [onSeat_of_some _ own placed, EStateM.Result.state_mapState]
      have charts := charts_putBack page host (action ⟨old, place⟩).state own other
      rw [if_neg apart, found] at charts
      exact ⟨last, charts, seated⟩

theorem keeps_hasSeat_act_other (action : EStateM Fault Seat Unit) (apart : other ≠ id) :
    Keeps (HasSeat other chart) (act id action) := by
  intro page seated
  rw [act_eq]
  split
  · exact keeps_hasSeat_onSeat_other action _ apart page seated
  · rw [onDetached_eq]
    exact keeps_hasSeat_onChart_other _ apart page seated

/-- An operation that is not about a chart changes neither its host nor what it listens to. -/
theorem keeps_hasSeat_perform {operation : Operation} (apart : operation.subject ≠ some other) :
    Keeps (HasSeat other chart) operation.perform := by
  have distinct (id : ChartId) (subject : operation.subject = some id) : other ≠ id := fun same =>
    apart (subject.trans (congrArg some same.symm))
  cases operation with
  | addHost name width ratio =>
    intro page seated
    rw [Operation.perform_addHost]
    cases (Host.create width ratio : Except Fault (Host ChartId)) <;> exact seated
  | addChart name data options look =>
    intro page ⟨last, found, seated⟩
    rw [Operation.perform_addChart]
    cases Chart.firstReading data options with
    | error fault => exact ⟨last, found, seated⟩
    | ok read =>
      refine ⟨last, ?_, seated⟩
      have inside := (Array.getElem?_eq_some_iff.mp found).1
      exact (Array.getElem?_push_lt inside).trans (Array.getElem?_eq_getElem inside ▸ found)
  | attach chart host => exact keeps_hasSeat_onSeat_other _ host (distinct chart rfl)
  | update chart data options => exact keeps_hasSeat_act_other _ (distinct chart rfl)
  | resize chart => exact keeps_hasSeat_act_other _ (distinct chart rfl)
  | detach chart => exact keeps_hasSeat_act_other _ (distinct chart rfl)
  | setHost host width ratio => exact keeps_modify fun _ seated => seated
  | draw chart highlight => exact keeps_hasSeat_onChart (Chart.sameSeat_draw highlight) chart
  | point chart event => exact keeps_hasSeat_onChart (Chart.sameSeat_followPointer event) chart
  | tell host event =>
    exact keeps_bind keeps_get fun _ => keeps_forM (fun id =>
      keeps_hasSeat_onChart (Chart.sameSeat_followPointer event) id) _

/-! ### What an operation does about listening -/

/-- What holds after an operation. Hosts and charts agree. A chart that was just attached, or
updated on its host, listens as its options say. All charts that the operation is not about are
heard as before. -/
structure Hears (before : Page) (operation : Operation) (page : Page) : Prop where
  agree : ∀ id chart, page.charts[id]? = some chart → page.AgreesOn id chart
  fitted : ∀ id host chart place, operation.redraws before = some (id, host) →
    operation.perform before = .ok () page → page.charts[id]? = some chart →
    page.hosts[host]? = some place → chart.host = some host ∧
      (chart.listens.length = if chart.stage.options.showTooltip then 2 else 0) ∧
      ∀ kind, place.count kind id = if chart.stage.options.showTooltip then 1 else 0
  others : ∀ other chart, operation.subject ≠ some other → before.charts[other]? = some chart →
    ∃ last, page.charts[other]? = some last ∧ last.host = chart.host ∧
      last.listens = chart.listens ∧
      ∀ (host : HostId) (place lastPlace : Host ChartId) (kind : PointerKind),
        before.hosts[host]? = some place → page.hosts[host]? = some lastPlace →
        lastPlace.count kind other = place.count kind other

theorem listens_of_redraws {operation : Operation} {place : Host ChartId} (sound : before.Sound)
    (drawn : operation.redraws before = some (id, host))
    (done : operation.perform before = .ok () page) (found : page.charts[id]? = some chart)
    (placed : page.hosts[host]? = some place) :
    chart.host = some host ∧ chart.listens = Seat.wantedListens chart.stage.options := by
  obtain ⟨seat, others, occupied, hidden, refreshed⟩ :=
    refresh_of_redraws sound drawn done found placed
  obtain ⟨sheet, _, drawnAs⟩ := Seat.drawnAs_of_refresh occupied hidden refreshed
  have listens : chart.listens = Seat.wantedListens seat.chart.stage.options :=
    congrArg ChartView.listens drawnAs.view
  have options : chart.stage.options = seat.chart.stage.options := drawnAs.options
  refine ⟨(congrArg ChartView.host drawnAs.view).trans occupied.host_eq, ?_⟩
  rw [listens, options]

theorem Sound.hears (sound : before.Sound) (operation : Operation) :
    Hears before operation (operation.perform before).state := by
  have last := keeps_sound_perform operation before sound
  refine ⟨fun id chart found => last.agreesOn found, ?_, ?_⟩
  · intro id host chart place drawn done found placed
    obtain ⟨hosted, listens⟩ := listens_of_redraws sound drawn done found placed
    refine ⟨hosted, ?_, fun kind => ?_⟩
    · rw [listens]
      unfold Seat.wantedListens
      split <;> rfl
    · rw [last.count_of_some found placed, if_pos hosted, listens]
      unfold Seat.wantedListens
      split
      · cases kind <;> rfl
      · rfl
  · intro other chart apart found
    obtain ⟨lastChart, lastFound, same⟩ :=
      keeps_hasSeat_perform apart before ⟨chart, found, .refl chart⟩
    refine ⟨lastChart, lastFound, same.host, same.listens, ?_⟩
    intro host place lastPlace kind placed lastPlaced
    rw [sound.count_of_some found placed, last.count_of_some lastFound lastPlaced, same.host,
      same.listens]

/-- No listener is lost, doubled or left behind. Whatever is done with charts and hosts, after every
single operation of it a host is listened to by the charts that are on it and by no others, once for
every kind or not at all. -/
theorem hears_throughout (activity : Activity) :
    (activity.perform {}).state = after (activity.operations {}) {} ∧
      ∀ earlier operation later, activity.operations {} = earlier ++ operation :: later →
        Hears (after earlier {}) operation (after (earlier ++ [operation]) {}) := by
  refine ⟨activity.state_perform {}, fun earlier operation later _ => ?_⟩
  rw [after_append]
  exact (sound_after earlier).hears operation

end Page

end SeriesChart
