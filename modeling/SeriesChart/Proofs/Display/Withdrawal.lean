/-
This file says what an attaching that gives up leaves behind. A chart that is attached
already refuses before anything is changed. A chart without a host may give up before it
has a sheet, before or between its listeners, or in the middle of the drawing; wherever it
was, detaching takes back what was begun. The host is left with the listeners it had, in
their order, and the chart is as new, with its data and options.
-/

import SeriesChart.Proofs.Display.Looks

namespace SeriesChart

/-! ### Listeners that come and go -/

namespace Host

variable {Listener : Type}

theorem setListeners_setListeners_self (host : Host Listener) (kind : PointerKind)
    (first second : List Listener) :
    (host.setListeners kind first).setListeners kind second = host.setListeners kind second := by
  cases kind <;> rfl

theorem setListeners_listeners (host : Host Listener) (kind : PointerKind) :
    host.setListeners kind (host.listeners kind) = host := by
  cases kind <;> rfl

/-- A listener who is taken away first where the last one came last leaves the host as it was. -/
theorem removeListener_addListener [BEq Listener] (host : Host Listener) (kind : PointerKind)
    (listener : Listener)
    (erased : (host.listeners kind ++ [listener]).erase listener = host.listeners kind) :
    (host.addListener kind listener).removeListener kind listener = host := by
  unfold removeListener addListener
  rw [setListeners_setListeners_self, listeners_setListeners_self, erased, setListeners_listeners]

/-- The host with one more listener to each of some kinds. -/
def withListeners (host : Host Listener) (kinds : List PointerKind) (listener : Listener) :
    Host Listener :=
  kinds.foldl (fun host kind => host.addListener kind listener) host

theorem withListeners_concat (host : Host Listener) (kinds : List PointerKind) (kind : PointerKind)
    (listener : Listener) :
    host.withListeners (kinds ++ [kind]) listener =
      (host.withListeners kinds listener).addListener kind listener :=
  List.foldl_concat _ _ _ _

/-- The new listeners come after those who were there. -/
theorem listeners_withListeners (host : Host Listener) (kinds : List PointerKind)
    (kind : PointerKind) (listener : Listener) :
    (host.withListeners kinds listener).listeners kind =
      host.listeners kind ++ List.replicate (kinds.count kind) listener := by
  induction kinds using List.reverseRecOn with
  | nil => exact (List.append_nil _).symm
  | append_singleton kinds last inductionHypothesis =>
    rw [withListeners_concat, List.count_append, List.count_singleton]
    unfold addListener
    by_cases same : kind = last
    · subst same
      rw [listeners_setListeners_self, inductionHypothesis, List.append_assoc, beq_self_eq_true,
        if_pos rfl, List.replicate_succ']
    · rw [listeners_setListeners_other _ _ same, inductionHypothesis,
        if_neg fun equal => same (eq_of_beq equal).symm, Nat.add_zero]

/-- A listener that was not there before and ends last what it began first leaves the host as it
was. -/
theorem foldr_removeListener_withListeners [BEq Listener] [LawfulBEq Listener]
    (host : Host Listener) {listener : Listener}
    (strange : ∀ kind, listener ∉ host.listeners kind) (kinds : List PointerKind) :
    kinds.foldr (fun kind host => host.removeListener kind listener)
      (host.withListeners kinds listener) = host := by
  -- From the end: the listener that came last is the first to go.
  induction kinds using List.reverseRecOn with
  | nil => rfl
  | append_singleton kinds last inductionHypothesis =>
    rw [withListeners_concat, List.foldr_concat, removeListener_addListener]
    · exact inductionHypothesis
    · rw [listeners_withListeners, List.append_assoc, List.erase_append_right _ (strange last),
        ← List.replicate_succ', List.erase_replicate_self, Nat.add_sub_cancel]

end Host

/-! ### A chart on the way to its host -/

namespace Seat

/-- The chart is being attached to a host. It is still the same chart, and the host has no other
listeners than those it had and those that the chart began with. -/
structure Begun (chart : Chart) (place : Host ChartId) (seat : Seat) : Prop where
  number : seat.chart.id = chart.id
  subject : seat.chart.stage.HasSubject chart.stage.look chart.stage.series chart.stage.options
  host : seat.host = place.withListeners seat.chart.listens chart.id

variable {chart : Chart} {place : Host ChartId} {seat : Seat}

/-- Before its first step nothing is begun. -/
theorem begun_placed (silent : chart.listens = []) (host : HostId) :
    Begun chart place (placed ⟨chart, place⟩ host) where
  number := rfl
  subject := ⟨rfl, rfl, rfl⟩
  host := by
    show place = place.withListeners chart.listens chart.id
    rw [silent]
    rfl

theorem keeps_begun_fitSheet : Keeps (Begun chart place) fitSheet := by
  intro seat begun
  rw [fitSheet_eq]
  split
  · exact begun
  · exact ⟨begun.number, begun.subject, begun.host⟩
  · exact begun

/-- One more listener is begun with. -/
theorem Begun.listenTo (begun : seat.Begun chart place) (kind : PointerKind) :
    (seat.listenTo kind).Begun chart place where
  number := begun.number
  subject := begun.subject
  host := by
    show seat.host.addListener kind seat.chart.id =
      place.withListeners (seat.chart.listens ++ [kind]) chart.id
    rw [Host.withListeners_concat, begun.host, begun.number]

theorem Begun.listen (begun : seat.Begun chart place) : seat.listen.Begun chart place :=
  (begun.listenTo .move).listenTo .leave

section Strange

variable (strange : ∀ kind, chart.id ∉ place.listeners kind)

include strange

theorem Begun.host_unlisten (begun : seat.Begun chart place) : seat.unlisten.host = place := by
  show seat.chart.listens.foldr (fun kind host => host.removeListener kind seat.chart.id)
    seat.host = place
  rw [begun.host, begun.number]
  exact Host.foldr_removeListener_withListeners place strange _

theorem Begun.fitListeners (begun : seat.Begun chart place) :
    seat.fitListeners.Begun chart place := by
  unfold Seat.fitListeners
  split
  · split
    · exact begun.listen
    · exact begun
  · exact ⟨begun.number, begun.subject, begun.host_unlisten strange⟩

theorem keeps_begun_refresh : Keeps (Begun chart place) refresh := by
  refine keeps_bind keeps_begun_fitSheet fun _ => ?_
  refine keeps_bind (keeps_modify fun _ begun => begun.fitListeners strange) fun _ => ?_
  intro seat begun
  rw [onChart_eq, Chart.draw_eq, EStateM.Result.state_mapState, EStateM.Result.state_mapState]
  exact ⟨begun.number, Stage.keeps_subject_render _ _ begun.subject, begun.host⟩

/-- Wherever the attaching of a chart was, detaching leaves the host as it was and the chart as
new. -/
theorem Begun.detach (begun : seat.Begun chart place) :
    seat.detach =
      ⟨.fresh chart.id chart.stage.series chart.stage.options chart.stage.look, place⟩ := by
  have host : seat.detach.host = place := begun.host_unlisten strange
  have anew : seat.detach.chart =
      .fresh seat.chart.id seat.chart.stage.series seat.chart.stage.options
        seat.chart.stage.look := rfl
  obtain ⟨look, series, options⟩ := begun.subject
  rw [begun.number, look, series, options] at anew
  rw [← anew, ← host]

/-- An attaching that gives up leaves the host as it was and the chart as new. -/
theorem attach_eq_error {host : HostId} {fault : Fault} {last : Seat} (free : chart.host = none)
    (silent : chart.listens = []) (failed : attach host ⟨chart, place⟩ = .error fault last) :
    last = ⟨.fresh chart.id chart.stage.series chart.stage.options chart.stage.look, place⟩ := by
  have unattached : ¬chart.isAttached = true := by
    unfold Chart.isAttached
    rw [free]
    exact Bool.false_ne_true
  rw [attach_eq, if_neg unattached] at failed
  -- Every step keeps what was begun, so it holds wherever the attaching gave up.
  have begun := keeps_begun_refresh strange _ (begun_placed silent host)
  cases ended : refresh (placed ⟨chart, place⟩ host) with
  | ok _ seat =>
    rw [ended] at failed
    cases failed
  | error other seat =>
    rw [ended] at failed begun
    cases failed
    exact begun.detach strange

end Strange

end Seat

/-! ### Charts and hosts of a page -/

namespace Page

/-- A chart without a host listens to no host. -/
theorem Sound.not_listening {page : Page} {id : ChartId} {host : HostId} {chart : Chart}
    {place : Host ChartId} (sound : page.Sound) (found : page.charts[id]? = some chart)
    (free : chart.host = none) (placed : page.hosts[host]? = some place) (kind : PointerKind) :
    id ∉ place.listeners kind := by
  refine List.count_eq_zero.mp ?_
  show place.count kind id = 0
  rw [sound.listeners id host place kind placed, registered_of_some found, if_neg]
  rw [free]
  exact nofun

/-- The page with other hosts. -/
def withHosts (page : Page) (hosts : Array (Host ChartId)) : Page := { page with hosts }

@[simp] theorem withHosts_hosts (page : Page) : page.withHosts page.hosts = page := rfl

/-- The page with a chart that has its data, its options and nothing else. -/
def withFresh (page : Page) (chart : Chart) : Page :=
  { page with
    charts := page.charts.setIfInBounds chart.id
      (.fresh chart.id chart.stage.series chart.stage.options chart.stage.look) }

@[simp] theorem hosts_withFresh (page : Page) (chart : Chart) :
    (page.withFresh chart).hosts = page.hosts := rfl

/-- An attaching that gives up changes nothing if the chart is attached already. Otherwise it leaves
all hosts, with all who listen to them, and all other charts as they were, and the chart as new,
with its data and options. -/
theorem attach_withdraws (operations : List Operation) (hosts : Array (Host ChartId)) (id : ChartId)
    (host : HostId) (fault : Fault) (last : Page)
    (strange : ∀ chart place kind, (after operations {}).charts[id]? = some chart →
      chart.host = none → hosts[host]? = some place → id ∉ place.listeners kind)
    (failed : (Operation.attach id host).perform ((after operations {}).withHosts hosts) =
      .error fault last) :
    ∃ chart, (after operations {}).charts[id]? = some chart ∧ chart.id = id ∧
      ((chart.host ≠ none ∧ fault = .alreadyAttached ∧
          last = (after operations {}).withHosts hosts) ∨
        (chart.host = none ∧ last = ((after operations {}).withHosts hosts).withFresh chart)) := by
  have sound := sound_after operations
  generalize after operations {} = page at sound strange failed
  change onSeat id host (Seat.attach host) (page.withHosts hosts) = .error fault last at failed
  cases found : page.charts[id]? with
  | none =>
    have absent : (page.withHosts hosts).charts[id]? = none := found
    rw [onSeat_of_no_chart _ absent] at failed
    cases failed
  | some chart =>
    obtain ⟨number, chartSound⟩ := sound.charts id chart found
    refine ⟨chart, rfl, number, ?_⟩
    have present : (page.withHosts hosts).charts[id]? = some chart := found
    cases placed : hosts[host]? with
    | none =>
      have nowhere : (page.withHosts hosts).hosts[host]? = none := placed
      rw [onSeat_of_no_host _ nowhere] at failed
      cases failed
    | some place =>
      have there : (page.withHosts hosts).hosts[host]? = some place := placed
      rw [onSeat_of_some _ present there] at failed
      obtain ⟨seat, refused, rfl⟩ := EStateM.Result.mapState_eq_error failed
      by_cases attached : chart.isAttached = true
      · left
        rw [Seat.attach_eq, if_pos attached] at refused
        cases refused
        exact ⟨Seat.ne_none_of_isAttached attached, rfl, putBack_self present there⟩
      · right
        have free := Seat.eq_none_of_not_isAttached attached
        have withdrawn := Seat.attach_eq_error
          (fun kind => number ▸ strange chart place kind found free placed) free
          (chartSound.idle free).2.2.2 refused
        refine ⟨free, ?_⟩
        rw [withdrawn]
        unfold putBack withFresh
        rw [number, setIfInBounds_self there]

/-- A script that attaches one chart and makes another one that cannot be drawn: its point has a
time without a date. -/
def undrawable : List Operation :=
  [.addHost "h" (.int 300) (.float 1.0), .addChart "a" (.list []) .none {}, .attach 0 0,
    .addChart "b" (.list [.list [.int 1000000000000000, .int 10]]) .none {}]

/-- The drawing of the second chart gives up, and only the first one is left on the host. -/
theorem attach_undrawable_withdraws : ∃ fault last chart,
    (Operation.attach 1 0).perform (after undrawable {}) = .error fault last ∧
      (after undrawable {}).charts[1]? = some chart ∧ last = (after undrawable {}).withFresh chart ∧
      last.hosts.map Host.moves = #[[0]] ∧ last.hosts.map Host.leaves = #[[0]] := by
  have sound := sound_after undrawable
  have gaveUp : ((Operation.attach 1 0).perform (after undrawable {})).result.isOk = false := by
    decide +kernel
  have free : (after undrawable {}).charts[1]?.map Chart.host = some none := by decide +kernel
  have moves : (after undrawable {}).hosts.map Host.moves = #[[0]] := by decide +kernel
  have leaves : (after undrawable {}).hosts.map Host.leaves = #[[0]] := by decide +kernel
  cases ended : (Operation.attach 1 0).perform (after undrawable {}) with
  | ok _ last =>
    rw [ended] at gaveUp
    cases gaveUp
  | error fault last =>
    rw [← withHosts_hosts (after undrawable {})] at ended
    obtain ⟨chart, found, _, ⟨attached, _⟩ | ⟨_, withdrawn⟩⟩ :=
      attach_withdraws undrawable (after undrawable {}).hosts 1 0 fault last
        (fun _ _ kind found free placed => sound.not_listening found free placed kind) ended
    · rw [found] at free
      exact absurd (Option.some.inj free) attached
    · rw [withHosts_hosts] at withdrawn
      have hosts : last.hosts = (after undrawable {}).hosts := by
        rw [withdrawn, hosts_withFresh]
      refine ⟨fault, last, chart, rfl, found, withdrawn, ?_, ?_⟩
      · rw [hosts]
        exact moves
      · rw [hosts]
        exact leaves

end Page

end SeriesChart
