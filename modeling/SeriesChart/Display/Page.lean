/-
This file holds many charts and many hosts side by side. Each has a number for good and a
name that may pass to another one; what lost its name lives on as long as something refers
to it. A host tells an event to all charts that listen to it, one after the other, as they
were when the event came; the first chart that cannot follow ends this.
-/

import SeriesChart.Display.Chart

namespace SeriesChart

/-! ### Pages -/

/-- Charts and hosts. -/
structure Page where
  hosts : Array (Host ChartId) := #[]
  charts : Array Chart := #[]
  /-- The numbers of hosts by their names, the latest first. -/
  hostNames : List (String × HostId) := []
  /-- The numbers of charts by their names, the latest first. -/
  chartNames : List (String × ChartId) := []

namespace Page

/-- The host of a name. -/
def hostOf? (page : Page) (name : String) : Option HostId := page.hostNames.lookup name

/-- The chart of a name. -/
def chartOf? (page : Page) (name : String) : Option ChartId := page.chartNames.lookup name

/-- The page with one more host, which has the name from now on. -/
def addHost (page : Page) (name : String) (host : Host ChartId) : Page :=
  { page with
    hosts := page.hosts.push host
    hostNames := (name, page.hosts.size) :: page.hostNames.filter (·.1 ≠ name) }

/-- The page with one more chart, which has the name from now on. -/
def addChart (page : Page) (name : String) (data : Value) (options : OptionsSource)
    (look : Look) : Except Fault Page := do
  let chart ← Chart.create page.charts.size data options look
  return { page with
    charts := page.charts.push chart
    chartNames := (name, chart.id) :: page.chartNames.filter (·.1 ≠ name) }

/-! ### One chart, one host -/

/-- Does something to one chart. -/
def onChart (id : ChartId) (action : EStateM Fault Chart Unit) :
    EStateM Fault Page Unit := fun page =>
  match page.charts[id]? with
  | none => .ok () page
  | some chart =>
    match action chart with
    | .ok _ chart => .ok () { page with charts := page.charts.setIfInBounds id chart }
    | .error fault chart =>
      .error fault { page with charts := page.charts.setIfInBounds id chart }

/-- The page with a chart and a host put back. -/
def putBack (page : Page) (id : ChartId) (host : HostId) (seat : Seat) : Page :=
  { page with
    charts := page.charts.setIfInBounds id seat.chart
    hosts := page.hosts.setIfInBounds host seat.host }

/-- Does something to one chart and one host. -/
def onSeat (id : ChartId) (host : HostId) (action : EStateM Fault Seat Unit) :
    EStateM Fault Page Unit := fun page =>
  match page.charts[id]?, page.hosts[host]? with
  | some chart, some place =>
    match action ⟨chart, place⟩ with
    | .ok _ seat => .ok () (page.putBack id host seat)
    | .error fault seat => .error fault (page.putBack id host seat)
  | _, _ => .ok () page

/-- Does something to one chart that does not concern its host, as it has none. -/
def onDetached (id : ChartId) (action : EStateM Fault Seat Unit) :
    EStateM Fault Page Unit :=
  onChart id fun chart =>
    match action ⟨chart, { width := .float 0.0, ratio := .float 1.0 }⟩ with
    | .ok _ seat => .ok () seat.chart
    | .error fault seat => .error fault seat.chart

/-- Does something to one chart and to its host if it has one. -/
def act (id : ChartId) (action : EStateM Fault Seat Unit) : EStateM Fault Page Unit := do
  match ((← get).charts[id]?).bind Chart.host with
  | some host => onSeat id host action
  | none => onDetached id action

/-! ### The life of a chart -/

/-- Attaches a chart to a host. -/
def attach (id : ChartId) (host : HostId) : EStateM Fault Page Unit :=
  onSeat id host (Seat.attach host)

/-- Gives a chart new data and options. -/
def update (id : ChartId) (data : Value) (options : OptionsSource) :
    EStateM Fault Page Unit :=
  act id (Seat.update data options)

/-- Fits a chart to the size of its host. -/
def resize (id : ChartId) : EStateM Fault Page Unit := act id Seat.resize

/-- Detaches a chart from its host. -/
def detach (id : ChartId) : EStateM Fault Page Unit := act id (modify Seat.detach)

/-- Does something while a chart is attached to a host. Whatever comes of it, the chart is detached
at the end. -/
def mounted {Result : Type} (id : ChartId) (host : HostId)
    (body : EStateM Fault Page Result) : EStateM Fault Page Result := do
  attach id host
  let result ← try
      let result ← body
      pure (.ok result)
    catch fault => pure (.error fault)
  detach id
  Fault.lift result

/-! ### Hosts -/

/-- Does something to one host. -/
def changeHost (page : Page) (host : HostId) (change : Host ChartId → Host ChartId) : Page :=
  { page with hosts := page.hosts.modify host change }

/-- Tells an event to all who listen to a host. -/
def dispatch (host : HostId) (event : PointerEvent) : EStateM Fault Page Unit := do
  let listeners := ((← get).hosts[host]?.map (·.listenersOf event.kind)).getD []
  listeners.forM fun id => onChart id (Chart.followPointer event)

end Page

end SeriesChart
