/-
This file holds what a chart is shown in: a host with a width and a pixel ratio, which
tells those who listen where the pointer is. A host keeps what was assigned to its width
and its ratio as it came; only who reads them finds out whether they are numbers. Those
who listen are told in the order in which they came, and one may listen more than once.
-/

import SeriesChart.Value.Number

namespace SeriesChart

/-! ### Pointer events -/

/-- What a host tells about the pointer. -/
inductive PointerKind where
  | move
  | leave
  deriving DecidableEq, Repr

namespace PointerKind

/-- The kinds in the order in which a chart listens to them. -/
def all : List PointerKind := [.move, .leave]

/-- The name of a kind. -/
def name : PointerKind → String
  | .move => "pointer_move"
  | .leave => "pointer_leave"

/-- The kind of a name. -/
def ofName? (name : String) : Option PointerKind := all.find? (·.name = name)

theorem ofName?_name (kind : PointerKind) : ofName? kind.name = some kind := by
  cases kind <;> decide

end PointerKind

/-- An event, by the name of its kind, with the position of the pointer if there is one. -/
structure PointerEvent where
  kind : String
  x : Value := .absent
  y : Value := .absent

/-- The pointer is at a position. -/
def PointerEvent.moveTo (x y : Value) : PointerEvent := ⟨PointerKind.move.name, x, y⟩

/-- The pointer has left. -/
def PointerEvent.leave : PointerEvent := ⟨PointerKind.leave.name, .absent, .absent⟩

/-! ### Hosts -/

/-- A host and those who listen to it. -/
structure Host (Listener : Type) where
  width : Value
  ratio : Value
  /-- Who listens to moves. -/
  moves : List Listener := []
  /-- Who listens to the pointer leaving. -/
  leaves : List Listener := []

namespace Host

variable {Listener : Type}

/-- A host to which nobody listens. Both numbers may be any values that read as floats. -/
def create (width ratio : Value) : Except Fault (Host Listener) := do
  if ← width.isNegative then throw (.invalid .hostWidth)
  let width ← width.toFloat
  return { width := .float width, ratio := .float (← ratio.toFloat) }

/-- Who listens to events of a kind. -/
def listeners (host : Host Listener) : PointerKind → List Listener
  | .move => host.moves
  | .leave => host.leaves

/-- The host with other listeners to events of a kind. -/
def setListeners (host : Host Listener) (kind : PointerKind) (listeners : List Listener) :
    Host Listener :=
  match kind with
  | .move => { host with moves := listeners }
  | .leave => { host with leaves := listeners }

@[simp] theorem listeners_setListeners_self (host : Host Listener) (kind : PointerKind)
    (listeners : List Listener) :
    (host.setListeners kind listeners).listeners kind = listeners := by
  cases kind <;> rfl

theorem listeners_setListeners_other (host : Host Listener) {kind other : PointerKind}
    (listeners : List Listener) (distinct : other ≠ kind) :
    (host.setListeners kind listeners).listeners other = host.listeners other := by
  cases kind <;> cases other <;> first | rfl | exact absurd rfl distinct

/-- Adds a listener after those who are there. -/
def addListener (host : Host Listener) (kind : PointerKind) (listener : Listener) : Host Listener :=
  host.setListeners kind (host.listeners kind ++ [listener])

/-- Removes a listener once; the one who came first goes. -/
def removeListener [BEq Listener] (host : Host Listener) (kind : PointerKind)
    (listener : Listener) : Host Listener :=
  host.setListeners kind ((host.listeners kind).erase listener)

/-- The number of listeners of all kinds. -/
def listenerCount (host : Host Listener) : Nat :=
  host.moves.length + host.leaves.length

/-! ### Kinds by their names -/

/-- Who listens to events of a kind that is given by its name. Nobody listens to an unknown kind. -/
def listenersOf (host : Host Listener) (name : String) : List Listener :=
  match PointerKind.ofName? name with
  | some kind => host.listeners kind
  | none => []

/-- Adds a listener to a kind that is given by its name, which must be known. -/
def addListenerTo (host : Host Listener) (name : String) (listener : Listener) :
    Except Fault (Host Listener) :=
  match PointerKind.ofName? name with
  | some kind => .ok (host.addListener kind listener)
  | none => .error (.invalid (.unknownEvent name))

/-- Removes a listener from a kind that is given by its name. -/
def removeListenerFrom [BEq Listener] (host : Host Listener) (name : String)
    (listener : Listener) : Host Listener :=
  match PointerKind.ofName? name with
  | some kind => host.removeListener kind listener
  | none => host

end Host

end SeriesChart
