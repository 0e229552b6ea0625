/-
This file holds what is true of a page whatever was done to it. The picture that a chart
keeps can be relied on, and its sheet could have been made for some host; without a host a
chart has no sheet, shows nothing and listens to nothing. Hosts and charts agree on who
listens to what: a chart is known to its own host and to no other one. Every operation
keeps this up, also when it gives up.
-/

import SeriesChart.Proofs.Display.Rendering
import SeriesChart.Proofs.Display.Script
import SeriesChart.Proofs.Display.Sizing

namespace SeriesChart

/-! ### Stages -/

namespace Stage

/-- What is kept can be relied on, and the sheet could have been made for some host. -/
structure Sound (stage : Stage) : Prop where
  coherent : stage.Coherent
  made : ∀ sheet, stage.sheet = some sheet → sheet.IsMadeFor stage.look

theorem sound_of_no_sheet {stage : Stage} (none : stage.sheet = none) : stage.Sound where
  coherent := coherent_of_no_sheet none
  made sheet placed := by
    rw [none] at placed
    cases placed

/-- A redrawing changes the sheet only by painting on it. -/
theorem render_sheet {stage : Stage} (coherent : stage.Coherent) {sheet : Sheet}
    (placed : stage.sheet = some sheet) (highlight : Option Highlight) :
    ∃ canvas, (render highlight stage).state.sheet = some ⟨sheet.device, canvas⟩ ∧
      canvas.HasSize sheet.canvas.width sheet.canvas.height := by
  obtain ⟨cache, drawn, _⟩ := render_eq highlight placed coherent
  refine ⟨(stage.painting sheet.device highlight sheet.canvas).state, ?_, ?_⟩
  · rw [drawn, EStateM.Result.state_mapState]
    rfl
  · exact stage.keeps_size_painting sheet.device highlight _ _ sheet.canvas sheet.canvas.hasSize_self

/-- A redrawing leaves all that a chart keeps for its whole life, its data and its options. -/
theorem render_rest {stage : Stage} (coherent : stage.Coherent) (highlight : Option Highlight) :
    (render highlight stage).state.look = stage.look ∧
      (render highlight stage).state.series = stage.series ∧
      (render highlight stage).state.options = stage.options := by
  cases placed : stage.sheet with
  | none =>
    rw [render_of_no_sheet highlight placed]
    exact ⟨rfl, rfl, rfl⟩
  | some sheet =>
    obtain ⟨cache, drawn, _⟩ := render_eq highlight placed coherent
    rw [drawn, EStateM.Result.state_mapState]
    exact ⟨rfl, rfl, rfl⟩

theorem keeps_sound_render (highlight : Option Highlight) : Keeps Sound (render highlight) := by
  intro stage sound
  cases placed : stage.sheet with
  | none =>
    rw [render_of_no_sheet highlight placed]
    exact sound
  | some sheet =>
    obtain ⟨canvas, shown, sized⟩ := render_sheet sound.coherent placed highlight
    obtain ⟨_, _, coherent⟩ := render_eq highlight placed sound.coherent
    refine ⟨coherent, fun last lastPlaced => ?_⟩
    rw [shown] at lastPlaced
    cases lastPlaced
    rw [(render_rest sound.coherent highlight).1]
    exact (sound.made sheet placed).withCanvas sized

end Stage

/-! ### Tooltips -/

namespace Tooltip

variable {Target : Type} {holds : Target → Prop}

theorem keeps_onTarget {action : EStateM Fault Target Unit} (kept : Keeps holds action) :
    Keeps (fun shown : Tooltip × Target => holds shown.2) (onTarget action) := by
  intro shown held
  rw [onTarget_eq, EStateM.Result.state_mapState]
  exact kept shown.2 held

theorem keeps_change (update : Tooltip → Tooltip) :
    Keeps (fun shown : Tooltip × Target => holds shown.2) (change update) :=
  keeps_modify fun _ held => held

variable {redraw : Option Highlight → EStateM Fault Target Unit}
variable (kept : ∀ highlight, Keeps holds (redraw highlight))

include kept

theorem keeps_leave : Keeps (fun shown : Tooltip × Target => holds shown.2) (leave redraw) := by
  refine keeps_bind keeps_get fun shown => ?_
  refine keeps_bind (keeps_change _) fun _ => ?_
  split
  · exact keeps_onTarget (kept none)
  · exact keeps_pure _

theorem keeps_showPoint (rules : TooltipRules) (label : String) (hover : Hover) :
    Keeps (fun shown : Tooltip × Target => holds shown.2) (showPoint rules redraw label hover) :=
  keeps_bind (keeps_change _) fun _ => keeps_bind (keeps_onTarget (kept _)) fun _ =>
    keeps_bind (keeps_lift _) fun _ => keeps_change _

theorem keeps_moveTo (rules : TooltipRules) (field : HoverField) (x y : Value) :
    Keeps (fun shown : Tooltip × Target => holds shown.2) (moveTo rules redraw field x y) := by
  refine keeps_bind (keeps_lift _) fun found => ?_
  cases found with
  | none => exact keeps_leave kept
  | some hover =>
    refine keeps_bind keeps_get fun (tooltip, _) => ?_
    show Keeps _ (if tooltip.hover.map Hover.index ≠ some hover.index then _ else _)
    split
    · exact keeps_showPoint kept rules field.label hover
    · exact keeps_pure _

end Tooltip

/-! ### Charts -/

namespace Chart

/-- The chart can be relied on, and without a host it is as it was made. -/
structure Sound (chart : Chart) : Prop where
  stage : chart.stage.Sound
  listens : chart.listens = [] ∨ chart.listens = PointerKind.all
  idle : chart.host = none → chart.stage.sheet = none ∧ chart.stage.frame = none ∧
    chart.tooltip = .hidden ∧ chart.listens = []

/-- A chart that is on one host or on none listens nowhere else. -/
theorem Sound.count_listens {chart : Chart} (sound : chart.Sound) {host : HostId}
    (near : ∀ other, chart.host = some other → other = host) (kind : PointerKind) :
    chart.listens.count kind = if chart.host = some host then chart.listens.count kind else 0 := by
  split
  · rfl
  · rename_i apart
    cases hosted : chart.host with
    | none =>
      rw [(sound.idle hosted).2.2.2]
      rfl
    | some other => exact absurd (hosted.trans (congrArg some (near other hosted))) apart

theorem sound_fresh (id : ChartId) (series : Series) (options : Options) (look : Look) :
    (fresh id series options look).Sound where
  stage := Stage.sound_of_no_sheet rfl
  listens := Or.inl rfl
  idle _ := ⟨rfl, rfl, rfl, rfl⟩

theorem Sound.committed {chart : Chart} (sound : chart.Sound) (series : Series)
    (options : Options) : (chart.committed series options).Sound where
  stage := ⟨Stage.coherent_forgetBase _, sound.stage.made⟩
  listens := sound.listens
  idle none :=
    have idle := sound.idle none
    ⟨idle.1, idle.2.1, rfl, idle.2.2.2⟩

theorem Sound.hideTooltip {chart : Chart} (sound : chart.Sound) : chart.hideTooltip.Sound where
  stage := sound.stage
  listens := sound.listens
  idle none :=
    have idle := sound.idle none
    ⟨idle.1, idle.2.1, rfl, idle.2.2.2⟩

/-- What a step of a chart leaves to its host. -/
structure SameSeat (first second : Chart) : Prop where
  id : second.id = first.id
  host : second.host = first.host
  listens : second.listens = first.listens

theorem sameSeat_onTooltip (action : Tooltip.Showing Stage Unit) (chart : Chart) :
    SameSeat chart (onTooltip action chart).state := by
  rw [onTooltip_eq, EStateM.Result.state_mapState]
  exact ⟨rfl, rfl, rfl⟩

theorem sameSeat_draw (highlight : Option Highlight) (chart : Chart) :
    SameSeat chart (draw highlight chart).state :=
  sameSeat_onTooltip _ chart

theorem sameSeat_followPointer (event : PointerEvent) (chart : Chart) :
    SameSeat chart (followPointer event chart).state := by
  rw [followPointer_eq]
  exact sameSeat_onTooltip _ chart

theorem keeps_sound_draw (highlight : Option Highlight) : Keeps Sound (draw highlight) := by
  intro chart sound
  rw [draw_eq, EStateM.Result.state_mapState]
  refine ⟨Stage.keeps_sound_render _ _ sound.stage, sound.listens, fun none => ?_⟩
  obtain ⟨noSheet, noFrame, rest⟩ := sound.idle none
  rw [Stage.render_of_no_sheet _ noSheet]
  exact ⟨noSheet, noFrame, rest⟩

theorem keeps_sound_followPointer (event : PointerEvent) : Keeps Sound (followPointer event) := by
  intro chart sound
  have stageKept : Keeps (fun shown : Tooltip × Stage => shown.2.Sound)
      (response chart.stage event) := by
    obtain passed | hides | ⟨frame, _, moves⟩ := response_cases chart.stage event
    · rw [passed]
      exact keeps_pure ()
    · rw [hides]
      exact Tooltip.keeps_leave Stage.keeps_sound_render
    · rw [moves]
      exact Tooltip.keeps_moveTo Stage.keeps_sound_render _ _ _ _
  rw [followPointer_eq, onTooltip_eq, EStateM.Result.state_mapState]
  refine ⟨stageKept _ sound.stage, sound.listens, fun none => ?_⟩
  obtain ⟨noSheet, noFrame, hidden, rest⟩ := sound.idle none
  obtain passed | hides | ⟨frame, drawn, moves⟩ := response_cases chart.stage event
  · rw [passed]
    exact ⟨noSheet, noFrame, hidden, rest⟩
  · rw [hides, hidden]
    exact ⟨noSheet, noFrame, rfl, rest⟩
  · rw [noFrame] at drawn
    cases drawn

end Chart

/-! ### Who listens to a host -/

namespace Host

/-- How often someone listens to one kind of events. -/
def count (host : Host ChartId) (kind : PointerKind) (id : ChartId) : Nat :=
  (host.listeners kind).count id

theorem count_addListener (host : Host ChartId) (kind other : PointerKind) (id listener : ChartId) :
    (host.addListener kind listener).count other id =
      host.count other id + if other = kind ∧ listener = id then 1 else 0 := by
  unfold count addListener
  by_cases same : other = kind
  · subst same
    rw [listeners_setListeners_self, List.count_append, List.count_singleton]
    simp
  · rw [listeners_setListeners_other _ _ same, if_neg fun both => same both.1, Nat.add_zero]

theorem count_removeListener (host : Host ChartId) (kind other : PointerKind)
    (id listener : ChartId) :
    (host.removeListener kind listener).count other id =
      host.count other id - if other = kind ∧ listener = id then 1 else 0 := by
  unfold count removeListener
  by_cases same : other = kind
  · subst same
    rw [listeners_setListeners_self, List.count_erase]
    simp
  · rw [listeners_setListeners_other _ _ same, if_neg fun both => same both.1, Nat.sub_zero]

/-- Ending all that was begun takes each kind away as often as it was begun. -/
theorem count_foldr_removeListener (host : Host ChartId) (kinds : List PointerKind)
    (other : PointerKind) (id listener : ChartId) :
    (kinds.foldr (fun kind host => host.removeListener kind listener) host).count other id =
      host.count other id - if listener = id then kinds.count other else 0 := by
  induction kinds with
  | nil => simp
  | cons kind rest inductionHypothesis =>
    rw [List.foldr_cons, count_removeListener, inductionHypothesis, List.count_cons]
    by_cases own : listener = id
    · by_cases same : kind = other
      · simp [own, same, Nat.sub_sub]
      · simp [own, same, Ne.symm same]
    · simp [own]

end Host

/-! ### Charts on their hosts -/

namespace Seat

/-- The chart of the given number can be relied on, it is on the given host or on none, and the host
knows what it listens to. What others listen to is as given. -/
structure Sound (id : ChartId) (host : HostId) (others : ChartId → PointerKind → Nat)
    (seat : Seat) : Prop where
  number : seat.chart.id = id
  chart : seat.chart.Sound
  placed : ∀ other, seat.chart.host = some other → other = host
  own : ∀ kind, seat.host.count kind id = seat.chart.listens.count kind
  rest : ∀ other kind, other ≠ id → seat.host.count kind other = others other kind

variable {id : ChartId} {host : HostId} {others : ChartId → PointerKind → Nat} {seat : Seat}

/-- A step of the chart alone. -/
theorem Sound.withChart (sound : seat.Sound id host others) {chart : Chart} (chartSound : chart.Sound)
    (same : seat.chart.SameSeat chart) : Sound id host others { seat with chart } where
  number := same.id.trans sound.number
  chart := chartSound
  placed := by
    show ∀ other, chart.host = some other → other = host
    rw [same.host]
    exact sound.placed
  own := by
    show ∀ kind, seat.host.count kind id = chart.listens.count kind
    rw [same.listens]
    exact sound.own
  rest := sound.rest

theorem keeps_sound_onChart {action : EStateM Fault Chart Unit} (kept : Keeps Chart.Sound action)
    (same : ∀ chart : Chart, chart.SameSeat (action chart).state) :
    Keeps (Sound id host others) (onChart action) := by
  intro seat sound
  rw [onChart_eq, EStateM.Result.state_mapState]
  exact sound.withChart (kept _ sound.chart) (same _)

theorem Sound.listen (sound : seat.Sound id host others) (attached : seat.chart.host ≠ none)
    (silent : seat.chart.listens = []) : seat.listen.Sound id host others where
  number := sound.number
  chart :=
    { stage := sound.chart.stage
      listens := Or.inr (congrArg (· ++ [PointerKind.move] ++ [PointerKind.leave]) silent)
      idle := fun none => absurd none attached }
  placed := sound.placed
  own kind := by
    show ((seat.host.addListener .move seat.chart.id).addListener .leave seat.chart.id).count kind id =
      (seat.chart.listens ++ [PointerKind.move] ++ [PointerKind.leave]).count kind
    rw [Host.count_addListener, Host.count_addListener, sound.own, silent, sound.number]
    cases kind <;> simp
  rest other kind distinct := by
    show ((seat.host.addListener .move seat.chart.id).addListener .leave seat.chart.id).count kind
      other = others other kind
    have apart : seat.chart.id ≠ other := fun same => distinct (same.symm.trans sound.number)
    rw [Host.count_addListener, Host.count_addListener, if_neg fun both => apart both.2,
      if_neg fun both => apart both.2]
    exact sound.rest other kind distinct

theorem Sound.unlisten (sound : seat.Sound id host others) : seat.unlisten.Sound id host others where
  number := sound.number
  chart :=
    { stage := sound.chart.stage
      listens := Or.inl rfl
      idle := fun none =>
        have idle := sound.chart.idle none
        ⟨idle.1, idle.2.1, idle.2.2.1, rfl⟩ }
  placed := sound.placed
  own kind := by
    show (seat.chart.listens.foldr (fun kind host => host.removeListener kind seat.chart.id)
      seat.host).count kind id = 0
    rw [Host.count_foldr_removeListener, if_pos sound.number, sound.own, Nat.sub_self]
  rest other kind distinct := by
    have apart : seat.chart.id ≠ other := fun same => distinct (same.symm.trans sound.number)
    show (seat.chart.listens.foldr (fun kind host => host.removeListener kind seat.chart.id)
      seat.host).count kind other = others other kind
    rw [Host.count_foldr_removeListener, if_neg apart]
    exact sound.rest other kind distinct

theorem Sound.fitListeners (sound : seat.Sound id host others) (attached : seat.chart.host ≠ none) :
    seat.fitListeners.Sound id host others := by
  unfold Seat.fitListeners
  split
  · split
    · rename_i silent
      exact sound.listen attached (List.isEmpty_iff.mp silent)
    · exact sound
  · exact sound.unlisten

theorem Sound.detach (sound : seat.Sound id host others) : seat.detach.Sound id host others where
  number := sound.number
  chart :=
    { stage := Stage.sound_of_no_sheet rfl
      listens := Or.inl rfl
      idle := fun _ => ⟨rfl, rfl, rfl, rfl⟩ }
  placed := fun _ none => by cases none
  own := sound.unlisten.own
  rest := sound.unlisten.rest

theorem Sound.withSheet (sound : seat.Sound id host others) (attached : seat.chart.host ≠ none)
    {sheet : Sheet} (made : sheet.IsMadeFor seat.chart.stage.look) :
    (seat.withSheet sheet).Sound id host others where
  number := sound.number
  chart :=
    { stage := ⟨Stage.coherent_forgetBase _, fun _ placed => Option.some.inj placed ▸ made⟩
      listens := sound.chart.listens
      idle := fun none => absurd none attached }
  placed := sound.placed
  own := sound.own
  rest := sound.rest

theorem ne_none_of_isAttached {chart : Chart} (attached : chart.isAttached = true) :
    chart.host ≠ none := by
  intro none
  unfold Chart.isAttached at attached
  rw [none] at attached
  cases attached

theorem eq_none_of_not_isAttached {chart : Chart} (free : ¬chart.isAttached = true) :
    chart.host = none := by
  unfold Chart.isAttached at free
  cases hosted : chart.host with
  | none => rfl
  | some host =>
    rw [hosted] at free
    exact absurd rfl free

/-- The seat can be relied on and the chart is attached. -/
def Occupied (id : ChartId) (host : HostId) (others : ChartId → PointerKind → Nat)
    (seat : Seat) : Prop := seat.Sound id host others ∧ seat.chart.host ≠ none

theorem Sound.occupied (sound : seat.Sound id host others) :
    (seat.placed host).Occupied id host others :=
  ⟨{ sound with
    chart := { sound.chart with idle := fun none => by cases none }
    placed := fun _ same => (Option.some.inj same).symm }, fun none => by cases none⟩

theorem keeps_occupied_fitSheet : Keeps (Occupied id host others) fitSheet := by
  intro seat ⟨sound, attached⟩
  obtain ⟨fault, _, refused⟩ | ⟨last, done, fitted, rfl | ⟨sheet, rfl⟩⟩ :=
    fitSheet_cases seat sound.chart.stage.made
  · rw [refused]
    exact ⟨sound, attached⟩
  · rw [done]
    exact ⟨sound, attached⟩
  · rw [done]
    exact ⟨sound.withSheet attached (fitted.made rfl), attached⟩

theorem keeps_occupied_draw (highlight : Option Highlight) :
    Keeps (Occupied id host others) (onChart (Chart.draw highlight)) := by
  intro seat ⟨sound, attached⟩
  refine ⟨keeps_sound_onChart (Chart.keeps_sound_draw _) (Chart.sameSeat_draw _) seat sound, ?_⟩
  rw [onChart_eq, EStateM.Result.state_mapState]
  show (Chart.draw highlight seat.chart).state.host ≠ none
  rw [(Chart.sameSeat_draw highlight seat.chart).host]
  exact attached

theorem keeps_occupied_refresh : Keeps (Occupied id host others) refresh := by
  refine keeps_bind keeps_occupied_fitSheet fun _ => ?_
  refine keeps_bind (keeps_modify fun seat occupied => ?_) fun _ => keeps_occupied_draw none
  refine ⟨occupied.1.fitListeners occupied.2, ?_⟩
  unfold fitListeners
  split
  · split
    · exact occupied.2
    · exact occupied.2
  · exact occupied.2

theorem keeps_sound_attach : Keeps (Sound id host others) (attach host) := by
  intro seat sound
  rw [attach_eq]
  split
  · exact sound
  · have refreshed := keeps_occupied_refresh _ sound.occupied
    cases ended : refresh (seat.placed host) with
    | ok _ last =>
      rw [ended] at refreshed
      exact refreshed.1
    | error fault last =>
      rw [ended] at refreshed
      exact refreshed.1.detach

/-- On its own host or without one, an update keeps all that can be relied on. -/
theorem keeps_sound_update (data : Value) (options : OptionsSource) :
    Keeps (Sound id host others) (update data options) := by
  intro seat sound
  rw [update_eq]
  cases seat.chart.reading data options with
  | error fault => exact sound
  | ok read =>
    obtain ⟨series, options⟩ := read
    have committed : Sound id host others
        { seat with chart := seat.chart.committed series options } :=
      sound.withChart (sound.chart.committed series options) ⟨rfl, rfl, rfl⟩
    show Sound id host others (if seat.chart.isAttached then refresh _ else .ok () _).state
    split
    · rename_i attached
      exact (keeps_occupied_refresh _ ⟨committed, ne_none_of_isAttached attached⟩).1
    · exact committed

theorem keeps_sound_resize : Keeps (Sound id host others) resize := by
  intro seat sound
  have hidden : Sound id host others seat.hidden :=
    sound.withChart sound.chart.hideTooltip ⟨rfl, rfl, rfl⟩
  rw [resize_eq]
  split
  · rename_i attached
    have fitted := keeps_occupied_fitSheet seat.hidden ⟨hidden, ne_none_of_isAttached attached⟩
    cases ended : fitSheet seat.hidden with
    | ok _ last =>
      rw [ended] at fitted
      exact (keeps_occupied_draw none last fitted).1
    | error fault last =>
      rw [ended] at fitted
      exact fitted.1
  · exact sound

/-- A chart without a host is not attached by anything but attaching. -/
theorem keeps_idle_update (data : Value) (options : OptionsSource) :
    Keeps (fun seat : Seat => seat.chart.host = none) (update data options) := by
  intro seat idle
  rw [update_eq]
  cases seat.chart.reading data options with
  | error fault => exact idle
  | ok read =>
    show (if seat.chart.host.isSome then refresh _ else .ok () _).state.chart.host = none
    rw [idle]
    exact idle

theorem keeps_idle_resize : Keeps (fun seat : Seat => seat.chart.host = none) resize := by
  intro seat idle
  rw [resize_eq]
  unfold Chart.isAttached
  rw [idle]
  exact idle

end Seat

/-! ### Pages -/

namespace Page

/-- How often a chart listens to a host, if the chart is asked. -/
def registered (page : Page) (id : ChartId) (host : HostId) (kind : PointerKind) : Nat :=
  match page.charts[id]? with
  | some chart => if chart.host = some host then chart.listens.count kind else 0
  | none => 0

/-- Every chart can be relied on and has a host that exists or none, and every host knows of every
chart what that chart says. -/
structure Sound (page : Page) : Prop where
  charts : ∀ (id : ChartId) (chart : Chart), page.charts[id]? = some chart →
    chart.id = id ∧ chart.Sound
  known : ∀ (id : ChartId) (chart : Chart) (host : HostId), page.charts[id]? = some chart →
    chart.host = some host → host < page.hosts.size
  listeners : ∀ (id : ChartId) (host : HostId) (place : Host ChartId) (kind : PointerKind),
    page.hosts[host]? = some place → place.count kind id = page.registered id host kind

theorem sound_empty : Sound {} where
  charts id chart found := by
    rw [show ({} : Page).charts[id]? = none from rfl] at found
    cases found
  known id chart host found := by
    rw [show ({} : Page).charts[id]? = none from rfl] at found
    cases found
  listeners id host place kind placed := by
    rw [show ({} : Page).hosts[host]? = none from rfl] at placed
    cases placed

variable {page : Page} {id : ChartId} {host : HostId} {chart : Chart} {place : Host ChartId}

theorem registered_of_some (found : page.charts[id]? = some chart) (host : HostId)
    (kind : PointerKind) :
    page.registered id host kind =
      if chart.host = some host then chart.listens.count kind else 0 := by
  unfold registered
  rw [found]

/-- A chart on the host it has, or on any host if it has none, can be relied on. -/
theorem Sound.seat (sound : page.Sound) (found : page.charts[id]? = some chart)
    (placed : page.hosts[host]? = some place) (near : ∀ other, chart.host = some other → other = host) :
    Seat.Sound id host (fun other kind => place.count kind other) ⟨chart, place⟩ where
  number := (sound.charts id chart found).1
  chart := (sound.charts id chart found).2
  placed := near
  own kind := by
    show place.count kind id = chart.listens.count kind
    rw [sound.listeners id host place kind placed, registered_of_some found]
    exact ((sound.charts id chart found).2.count_listens near kind).symm
  rest _ _ _ := rfl

/-- Other charts stay as they are. -/
theorem charts_putBack (page : Page) (host : HostId) (seat : Seat)
    (found : page.charts[id]? = some chart) (other : ChartId) :
    (page.putBack id host seat).charts[other]? =
      if other = id then some seat.chart else page.charts[other]? := by
  have inside : id < page.charts.size := (Array.getElem?_eq_some_iff.mp found).1
  show (page.charts.setIfInBounds id seat.chart)[other]? = _
  rw [Array.getElem?_setIfInBounds, if_pos inside]
  by_cases same : other = id
  · rw [if_pos same.symm, if_pos same]
  · rw [if_neg (Ne.symm same), if_neg same]

/-- Other hosts stay as they are. -/
theorem hosts_putBack (page : Page) (id : ChartId) (seat : Seat)
    (placed : page.hosts[host]? = some place) (other : HostId) :
    (page.putBack id host seat).hosts[other]? =
      if other = host then some seat.host else page.hosts[other]? := by
  have inside : host < page.hosts.size := (Array.getElem?_eq_some_iff.mp placed).1
  show (page.hosts.setIfInBounds host seat.host)[other]? = _
  rw [Array.getElem?_setIfInBounds, if_pos inside]
  by_cases same : other = host
  · rw [if_pos same.symm, if_pos same]
  · rw [if_neg (Ne.symm same), if_neg same]

/-- What a chart may do on its host it may do on a page. -/
theorem Sound.putBack (sound : page.Sound) (found : page.charts[id]? = some chart)
    (placed : page.hosts[host]? = some place) (near : ∀ other, chart.host = some other → other = host)
    {seat : Seat} (seatSound : seat.Sound id host fun other kind => place.count kind other) :
    (page.putBack id host seat).Sound where
  charts other last lastFound := by
    rw [charts_putBack page host seat found] at lastFound
    split at lastFound
    · rename_i same
      cases lastFound
      exact ⟨seatSound.number.trans same.symm, seatSound.chart⟩
    · exact sound.charts other last lastFound
  known other last lastHost lastFound hosted := by
    show lastHost < (page.hosts.setIfInBounds host seat.host).size
    rw [Array.size_setIfInBounds]
    rw [charts_putBack page host seat found] at lastFound
    split at lastFound
    · cases lastFound
      rw [seatSound.placed lastHost hosted]
      exact (Array.getElem?_eq_some_iff.mp placed).1
    · exact sound.known other last lastHost lastFound hosted
  listeners other lastHost lastPlace kind lastPlaced := by
    rw [hosts_putBack page id seat placed] at lastPlaced
    have lastChart := charts_putBack page host seat found other
    by_cases own : other = id
    · subst own
      rw [if_pos rfl] at lastChart
      rw [registered_of_some lastChart]
      split at lastPlaced
      · rename_i same
        subst same
        cases lastPlaced
        rw [seatSound.own]
        exact seatSound.chart.count_listens seatSound.placed kind
      · rename_i apart
        rw [sound.listeners other lastHost lastPlace kind lastPlaced, registered_of_some found,
          if_neg fun hosted => apart (near lastHost hosted),
          if_neg fun hosted => apart (seatSound.placed lastHost hosted)]
    · rw [if_neg own] at lastChart
      have unchanged : (page.putBack id host seat).registered other lastHost kind =
          page.registered other lastHost kind := by
        unfold registered
        rw [lastChart]
      rw [unchanged]
      split at lastPlaced
      · rename_i same
        subst same
        cases lastPlaced
        rw [seatSound.rest other kind own]
        exact sound.listeners other lastHost place kind placed
      · exact sound.listeners other lastHost lastPlace kind lastPlaced

theorem charts_setChart (page : Page) (last : Chart) (found : page.charts[id]? = some chart)
    (other : ChartId) :
    (page.charts.setIfInBounds id last)[other]? =
      if other = id then some last else page.charts[other]? :=
  charts_putBack page 0 ⟨last, nowhere⟩ found other

/-- All charts look as before just when the one that changed does. -/
theorem views_setChart_iff (found : page.charts[id]? = some chart) (last : Chart) :
    (page.charts.setIfInBounds id last).map Chart.view = page.charts.map Chart.view ↔
      last.view = chart.view := by
  constructor
  · intro same
    have views := congrArg (fun views : Array ChartView => views[id]?) same
    change ((page.charts.setIfInBounds id last).map Chart.view)[id]? =
      (page.charts.map Chart.view)[id]? at views
    rw [Array.getElem?_map, Array.getElem?_map, charts_setChart page last found, if_pos rfl,
      found] at views
    exact Option.some.inj views
  · intro same
    refine Array.ext_getElem? fun other => ?_
    rw [Array.getElem?_map, Array.getElem?_map, charts_setChart page last found]
    split
    · rename_i own
      rw [own, found]
      exact congrArg some same
    · rfl

/-- What a chart may do alone it may do on a page. -/
theorem Sound.setChart (sound : page.Sound) (found : page.charts[id]? = some chart) {last : Chart}
    (lastSound : last.Sound) (same : chart.SameSeat last) :
    Sound { page with charts := page.charts.setIfInBounds id last } where
  charts other next nextFound := by
    change (page.charts.setIfInBounds id last)[other]? = some next at nextFound
    rw [charts_setChart page last found] at nextFound
    split at nextFound
    · rename_i own
      cases nextFound
      exact ⟨(same.id.trans (sound.charts id chart found).1).trans own.symm, lastSound⟩
    · exact sound.charts other next nextFound
  known other next nextHost nextFound hosted := by
    change (page.charts.setIfInBounds id last)[other]? = some next at nextFound
    rw [charts_setChart page last found] at nextFound
    split at nextFound
    · cases nextFound
      exact sound.known id chart nextHost found (same.host.symm.trans hosted)
    · exact sound.known other next nextHost nextFound hosted
  listeners other nextHost place kind placed := by
    have lastChart : ({ page with charts := page.charts.setIfInBounds id last } : Page).charts[other]? =
      _ := charts_setChart page last found other
    rw [sound.listeners other nextHost place kind placed]
    by_cases own : other = id
    · subst own
      rw [if_pos rfl] at lastChart
      rw [registered_of_some found, registered_of_some lastChart, same.host, same.listens]
    · rw [if_neg own] at lastChart
      unfold registered
      rw [lastChart]

theorem keeps_sound_onChart {action : EStateM Fault Chart Unit} (kept : Keeps Chart.Sound action)
    (same : ∀ chart : Chart, chart.SameSeat (action chart).state) (id : ChartId) :
    Keeps Sound (onChart id action) := by
  intro page sound
  cases found : page.charts[id]? with
  | none =>
    rw [onChart_of_none _ found]
    exact sound
  | some chart =>
    rw [onChart_of_some _ found, EStateM.Result.state_mapState]
    exact sound.setChart found (kept chart (sound.charts id chart found).2) (same chart)

section Act

variable {action : EStateM Fault Seat Unit}
variable (kept : ∀ id host others, Keeps (Seat.Sound id host others) action)

include kept

/-- What keeps up a chart that has no host, and gives it none, keeps up the page. -/
theorem Sound.onDetached (sound : page.Sound)
    (keptIdle : Keeps (fun seat : Seat => seat.chart.host = none) action)
    (idle : (page.charts[id]?).bind Chart.host = none) : (onDetached id action page).state.Sound := by
  rw [onDetached_eq]
  cases found : page.charts[id]? with
  | none =>
    rw [onChart_of_none _ found]
    exact sound
  | some chart =>
    rw [found] at idle
    have hosted : chart.host = none := idle
    have chartSound := (sound.charts id chart found).2
    have before : Seat.Sound id 0 (fun _ _ => 0) ⟨chart, nowhere⟩ :=
      { number := (sound.charts id chart found).1
        chart := chartSound
        placed := fun other placed => by
          rw [show chart.host = some other from placed] at hosted
          cases hosted
        own := fun kind => by
          rw [(chartSound.idle hosted).2.2.2]
          cases kind <;> rfl
        rest := fun _ kind _ => by cases kind <;> rfl }
    have after := kept id 0 (fun _ _ => 0) _ before
    have stays := keptIdle ⟨chart, nowhere⟩ hosted
    have ended : (alone action chart).state = (action ⟨chart, nowhere⟩).state.chart :=
      EStateM.Result.state_mapState _ _
    rw [onChart_of_some _ found, EStateM.Result.state_mapState, ended]
    refine sound.setChart found after.chart ⟨?_, ?_, ?_⟩
    · exact after.number.trans (sound.charts id chart found).1.symm
    · exact stays.trans hosted.symm
    · exact (after.chart.idle stays).2.2.2.trans (chartSound.idle hosted).2.2.2.symm

/-- What keeps up a chart on its host keeps up the page. -/
theorem Sound.onSeat (sound : page.Sound) (bound : (page.charts[id]?).bind Chart.host = some host) :
    (onSeat id host action page).state.Sound := by
  obtain ⟨chart, found, hosted⟩ := Option.bind_eq_some_iff.mp bound
  have near : ∀ other, chart.host = some other → other = host := fun other placed =>
    Option.some.inj (placed.symm.trans hosted)
  cases placed : page.hosts[host]? with
  | none =>
    rw [onSeat_of_no_host _ placed]
    exact sound
  | some place =>
    rw [onSeat_of_some _ found placed, EStateM.Result.state_mapState]
    exact sound.putBack found placed near (kept _ _ _ _ (sound.seat found placed near))

/-- What keeps up a chart on its host, and a chart without one, keeps up the page. -/
theorem keeps_sound_act (keptIdle : Keeps (fun seat : Seat => seat.chart.host = none) action)
    (id : ChartId) : Keeps Sound (act id action) := by
  intro page sound
  rw [act_eq]
  cases bound : (page.charts[id]?).bind Chart.host with
  | none => exact sound.onDetached kept keptIdle bound
  | some host => exact sound.onSeat kept bound

end Act

theorem keeps_sound_attach (id : ChartId) (host : HostId) : Keeps Sound (attach id host) := by
  intro page sound
  show Sound (onSeat id host (Seat.attach host) page).state
  cases found : page.charts[id]? with
  | none =>
    rw [onSeat_of_no_chart _ found]
    exact sound
  | some chart =>
    cases placed : page.hosts[host]? with
    | none =>
      rw [onSeat_of_no_host _ placed]
      exact sound
    | some place =>
      rw [onSeat_of_some _ found placed, EStateM.Result.state_mapState]
      by_cases attached : chart.isAttached = true
      · rw [Seat.attach_eq, if_pos attached]
        show Sound (page.putBack id host ⟨chart, place⟩)
        rw [putBack_self found placed]
        exact sound
      · have near : ∀ other, chart.host = some other → other = host := fun other hosted => by
          rw [Seat.eq_none_of_not_isAttached attached] at hosted
          cases hosted
        exact sound.putBack found placed near
          (Seat.keeps_sound_attach _ (sound.seat found placed near))

theorem Sound.withChart (sound : page.Sound) (name : String) (series : Series) (options : Options)
    (look : Look) : (page.withChart name (.fresh page.charts.size series options look)).Sound := by
  have charts (id : ChartId) :
      (page.withChart name (.fresh page.charts.size series options look)).charts[id]? =
        if id = page.charts.size then some (.fresh page.charts.size series options look)
        else page.charts[id]? := Array.getElem?_push
  refine ⟨fun id chart found => ?_, fun id chart host found hosted => ?_,
    fun id host place kind placed => ?_⟩
  · rw [charts] at found
    split at found
    · rename_i new
      cases found
      exact ⟨new.symm, Chart.sound_fresh _ _ _ _⟩
    · exact sound.charts id chart found
  · rw [charts] at found
    split at found
    · cases found
      cases hosted
    · exact sound.known id chart host found hosted
  · refine (sound.listeners id host place kind placed).trans ?_
    unfold registered
    rw [charts]
    by_cases new : id = page.charts.size
    · rw [if_pos new, new, Array.getElem?_eq_none (Nat.le_refl _)]
      rfl
    · rw [if_neg new]

theorem Sound.addHost (sound : page.Sound) (name : String) {host : Host ChartId}
    (silent : ∀ kind id, host.count kind id = 0) : (page.addHost name host).Sound := by
  refine ⟨sound.charts, fun id chart other found hosted => ?_, fun id other place kind placed => ?_⟩
  · show other < (page.hosts.push host).size
    rw [Array.size_push]
    exact Nat.lt_succ_of_lt (sound.known id chart other found hosted)
  · change (page.hosts.push host)[other]? = some place at placed
    rw [Array.getElem?_push] at placed
    split at placed
    · rename_i new
      cases placed
      rw [silent]
      show 0 = page.registered id other kind
      cases found : page.charts[id]? with
      | none =>
        unfold registered
        rw [found]
      | some chart =>
        rw [registered_of_some found, if_neg]
        intro hosted
        have known := sound.known id chart other found hosted
        rw [new] at known
        exact Nat.lt_irrefl _ known
    · exact sound.listeners id other place kind placed

theorem Sound.changeHost (sound : page.Sound) (host : HostId) (width ratio : Value) :
    (page.changeHost host fun place => { place with width, ratio }).Sound := by
  refine ⟨sound.charts, fun id chart other found hosted => ?_, fun id other place kind placed => ?_⟩
  · show other < (page.hosts.modify host _).size
    rw [Array.size_modify]
    exact sound.known id chart other found hosted
  · change (page.hosts.modify host _)[other]? = some place at placed
    rw [Array.getElem?_modify] at placed
    split at placed
    · cases oldPlaced : page.hosts[other]? with
      | none =>
        rw [oldPlaced] at placed
        cases placed
      | some old =>
        rw [oldPlaced] at placed
        cases placed
        refine Eq.trans ?_ (sound.listeners id other old kind oldPlaced)
        cases kind <;> rfl
    · exact sound.listeners id other place kind placed

/-- Nobody listens to a new host. -/
theorem count_of_create {width ratio : Value} {host : Host ChartId}
    (made : Host.create width ratio = .ok host) (kind : PointerKind) (id : ChartId) :
    host.count kind id = 0 := by
  obtain ⟨_, made⟩ := refuse_eq_ok made
  obtain ⟨_, _, made⟩ := except_bind_eq_ok made
  obtain ⟨_, _, made⟩ := except_bind_eq_ok made
  cases made
  cases kind <;> rfl

/-- Whatever is done to a page, it can be relied on. -/
theorem keeps_sound_perform (operation : Operation) : Keeps Sound operation.perform := by
  cases operation with
  | addHost name width ratio =>
    intro page sound
    rw [Operation.perform_addHost]
    cases made : (Host.create width ratio : Except Fault (Host ChartId)) with
    | error fault => exact sound
    | ok host => exact sound.addHost name (count_of_create made)
  | addChart name data options look =>
    intro page sound
    rw [Operation.perform_addChart]
    cases Chart.firstReading data options with
    | error fault => exact sound
    | ok read => exact sound.withChart name read.1 read.2 look
  | attach chart host => exact keeps_sound_attach chart host
  | update chart data options =>
    exact keeps_sound_act (fun _ _ _ => Seat.keeps_sound_update data options)
      (Seat.keeps_idle_update data options) chart
  | resize chart =>
    exact keeps_sound_act (fun _ _ _ => Seat.keeps_sound_resize) Seat.keeps_idle_resize chart
  | detach chart =>
    exact keeps_sound_act (fun _ _ _ => keeps_modify fun _ sound => sound.detach)
      (keeps_modify fun _ _ => rfl) chart
  | setHost host width ratio => exact keeps_modify fun _ sound => sound.changeHost host width ratio
  | draw chart highlight =>
    exact keeps_sound_onChart (Chart.keeps_sound_draw highlight) (Chart.sameSeat_draw highlight) chart
  | point chart event =>
    exact keeps_sound_onChart (Chart.keeps_sound_followPointer event)
      (Chart.sameSeat_followPointer event) chart
  | tell host event =>
    exact keeps_bind keeps_get fun _ => keeps_forM (fun id =>
      keeps_sound_onChart (Chart.keeps_sound_followPointer event)
        (Chart.sameSeat_followPointer event) id) _

/-- Every page that a script leads to can be relied on. -/
theorem sound_after (operations : List Operation) : (after operations {}).Sound :=
  holds_after keeps_sound_perform sound_empty operations

end Page

end SeriesChart
