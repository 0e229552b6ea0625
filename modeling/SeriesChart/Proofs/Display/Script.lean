/-
This file says what can be done to a page and what is seen of it. A script is a list of
operations that are performed one after the other on the page that the one before left,
whether that one succeeded or gave up. What can be seen after every operation is whether
it gave up, with which fault, and what all charts and hosts look like from outside; the
picture that a chart keeps for itself is not seen.
-/

import SeriesChart.Proofs.Display.Steps

namespace SeriesChart

/-! ### Operations -/

/-- One thing that is done to a page. -/
inductive Operation where
  | addHost (name : String) (width ratio : Value)
  | addChart (name : String) (data : Value) (options : OptionsSource) (look : Look)
  | attach (chart : ChartId) (host : HostId)
  | update (chart : ChartId) (data : Value) (options : OptionsSource)
  | resize (chart : ChartId)
  | detach (chart : ChartId)
  /-- Assigns a width and a ratio to a host, whatever they are. -/
  | setHost (host : HostId) (width ratio : Value)
  | draw (chart : ChartId) (highlight : Option Highlight)
  /-- Tells an event to one chart. -/
  | point (chart : ChartId) (event : PointerEvent)
  /-- Tells an event to all who listen to a host. -/
  | tell (host : HostId) (event : PointerEvent)

namespace Operation

/-- Does it. -/
def perform : Operation → EStateM Fault Page Unit
  | addHost name width ratio => do
    let host ← Host.create width ratio
    modify (·.addHost name host)
  | addChart name data options look => do
    let page ← get
    set (← page.addChart name data options look)
  | attach chart host => Page.attach chart host
  | update chart data options => Page.update chart data options
  | resize chart => Page.resize chart
  | detach chart => Page.detach chart
  | setHost host width ratio =>
    modify (·.changeHost host fun place => { place with width, ratio })
  | draw chart highlight => Page.onChart chart (Chart.draw highlight)
  | point chart event => Page.onChart chart (Chart.followPointer event)
  | tell host event => Page.dispatch host event

theorem perform_addHost (name : String) (width ratio : Value) (page : Page) :
    perform (addHost name width ratio) page =
      match Host.create width ratio with
      | .ok host => .ok () (page.addHost name host)
      | .error fault => .error fault page := by
  show EStateM.bind (Fault.lift (Host.create width ratio)) _ page = _
  cases Host.create width ratio <;> rfl

theorem perform_addChart (name : String) (data : Value) (options : OptionsSource) (look : Look)
    (page : Page) :
    perform (addChart name data options look) page =
      match Chart.firstReading data options with
      | .ok (series, options) =>
        .ok () (page.withChart name (.fresh page.charts.size series options look))
      | .error fault => .error fault page := by
  show EStateM.bind (Fault.lift (page.addChart name data options look)) _ page = _
  rw [Page.addChart_eq]
  cases Chart.firstReading data options <;> rfl

end Operation

/-! ### What is seen -/

/-- What is seen of a chart from outside. -/
structure ChartView where
  series : Series
  options : Options
  host : Option HostId
  listens : List PointerKind
  tooltip : Tooltip
  frame : Option Frame
  picture : Option Canvas
  ratio : Float

/-- What a chart looks like from outside. -/
def Chart.view (chart : Chart) : ChartView where
  series := chart.stage.series
  options := chart.stage.options
  host := chart.host
  listens := chart.listens
  tooltip := chart.tooltip
  frame := chart.stage.frame
  picture := chart.canvas?
  ratio := chart.ratio

/-- What is seen of a page from outside. -/
structure PageView where
  charts : Array ChartView
  hosts : Array (Host ChartId)

namespace Page

/-- What a page looks like from outside. -/
def view (page : Page) : PageView := ⟨page.charts.map Chart.view, page.hosts⟩

/-! ### Scripts -/

/-- The page after a script. An operation that gives up does not end the script. -/
def after (operations : List Operation) (page : Page) : Page :=
  operations.foldl (fun page operation => (operation.perform page).state) page

/-- What is seen after every operation of a script: how it ended, and the page. -/
def history : List Operation → Page → List (Except Fault Unit × PageView)
  | [], _ => []
  | operation :: rest, page =>
    let outcome := operation.perform page
    (outcome.result, outcome.state.view) :: history rest outcome.state

@[simp] theorem after_nil (page : Page) : page.after [] = page := rfl

@[simp] theorem after_cons (operation : Operation) (rest : List Operation) (page : Page) :
    page.after (operation :: rest) = (operation.perform page).state.after rest := rfl

theorem after_append (first second : List Operation) (page : Page) :
    page.after (first ++ second) = (page.after first).after second := List.foldl_append

/-- What every operation keeps a script keeps. -/
theorem holds_after {holds : Page → Prop} (kept : ∀ operation, Keeps holds (Operation.perform operation))
    {page : Page} (held : holds page) (operations : List Operation) :
    holds (page.after operations) := by
  induction operations generalizing page with
  | nil => exact held
  | cons operation rest inductionHypothesis =>
    rw [after_cons]
    exact inductionHypothesis (kept operation page held)

end Page

end SeriesChart
