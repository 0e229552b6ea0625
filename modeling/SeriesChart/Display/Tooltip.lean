/-
This file holds what a chart shows about the point under the pointer. It is hidden or
shows one point. A move near another point shows that one, a move away from all points or
off the chart hides it, and a move near the point already shown changes nothing. The
chart is asked to redraw itself with the new highlight between the two halves of a
change: the point is settled before, and the text is written after.
-/

import SeriesChart.Plot.Scales
import SeriesChart.Labels
import SeriesChart.Scene.Frame

namespace SeriesChart

/-! ### What is shown -/

/-- The point under the pointer and where it is drawn. -/
structure Hover where
  point : Point
  index : Nat
  x : Float
  y : Float
  deriving DecidableEq, Repr

/-- The highlight of a point under the pointer. -/
def Hover.highlight (hover : Hover) : Highlight := ⟨hover.index, hover.x, hover.y⟩

/-- The box of text beside a point. -/
structure Overlay where
  isVisible : Bool := false
  left : Float := 0.0
  top : Float := 0.0
  lines : List String := []
  deriving DecidableEq, Repr

namespace Overlay

/-- No box. -/
def hidden : Overlay := {}

/-- The text of a box. -/
def text (overlay : Overlay) : String := "\n".intercalate overlay.lines

end Overlay

/-- What a chart shows about the point under the pointer. -/
structure Tooltip where
  hover : Option Hover := none
  overlay : Overlay := .hidden
  deriving DecidableEq, Repr

namespace Tooltip

/-- Nothing. -/
def hidden : Tooltip := {}

/-- A point is shown. -/
def isVisible (tooltip : Tooltip) : Bool := tooltip.hover.isSome

/-- The highlight that belongs to what is shown. -/
def highlight (tooltip : Tooltip) : Option Highlight := tooltip.hover.map Hover.highlight

end Tooltip

/-! ### Rules -/

/-- How near the pointer must be to a point, and how its text is written. -/
structure TooltipRules where
  distance : Value
  formats : LabelFormats

namespace TooltipRules

/-- How near the pointer must be unless something else is said. -/
def standardDistance : Float := 30.0

/-- How far above its point a box stands. -/
def overlayOffset : Float := 40.0

/-- The rules of a chart. -/
def standard (formats : LabelFormats) : TooltipRules := ⟨.float standardDistance, formats⟩

/-- The rules for a distance, which must not be zero or below. -/
def create (distance : Value) (formats : LabelFormats) : Except Fault TooltipRules := do
  if ← distance.isAtMostZero then throw (.invalid .hoverDistance)
  return ⟨distance, formats⟩

/-- The box of a point. The date comes first, and then the label of the chart with the amount. -/
def overlayOf (rules : TooltipRules) (hover : Hover) (label : String) : Except Fault Overlay := do
  let date ← rules.formats.date hover.point.timestamp
  let amount ← rules.formats.amount hover.point.value
  return { isVisible := true
           left := hover.x
           top := hover.y - overlayOffset
           lines := [date, label ++ ": " ++ amount] }

end TooltipRules

/-! ### The pointer -/

/-- What the pointer may be over: the points of a series and the plot that shows them. -/
structure HoverField where
  series : Series
  plot : Option (Plot Float)
  label : String

namespace HoverField

/-- The point nearest to a position, if it is near enough. -/
def nearest? (field : HoverField) (x y limit : Value) : Except Fault (Option Hover) :=
  match field.plot with
  | none => .ok none
  | some plot => do
    let index ← plot.nearestIndexAt field.series x y limit
    return index.bind fun index => (field.series.points[index]?).map fun point =>
      { point, index, x := plot.columnOf point.timestamp, y := plot.rowOf point.value }

end HoverField

namespace Tooltip

variable {Target : Type}

/-- What changes a tooltip and the thing that it is shown on. -/
abbrev Showing (Target : Type) := EStateM Fault (Tooltip × Target)

/-- Changes what is shown. -/
def change (update : Tooltip → Tooltip) : Showing Target Unit :=
  modify fun (tooltip, target) => (update tooltip, target)

/-- Does something to what the tooltip is shown on. -/
def onTarget (action : EStateM Fault Target Unit) : Showing Target Unit := fun (tooltip, target) =>
  match action target with
  | .ok _ target => .ok () (tooltip, target)
  | .error fault target => .error fault (tooltip, target)

/-- Hides the tooltip and asks for a redrawing without a highlight if there was one. -/
def leave (redraw : Option Highlight → EStateM Fault Target Unit) : Showing Target Unit := do
  let (tooltip, _) ← get
  change fun _ => .hidden
  if tooltip.isVisible then onTarget (redraw none)

/-- Shows a point: the point is settled, the redrawing asked for, and then the text written. -/
def showPoint (rules : TooltipRules) (redraw : Option Highlight → EStateM Fault Target Unit)
    (label : String) (hover : Hover) : Showing Target Unit := do
  change ({ · with hover := some hover })
  onTarget (redraw (some hover.highlight))
  let overlay ← rules.overlayOf hover label
  change ({ · with overlay })

/-- Follows the pointer to a position. -/
def moveTo (rules : TooltipRules) (redraw : Option Highlight → EStateM Fault Target Unit)
    (field : HoverField) (x y : Value) : Showing Target Unit := do
  match ← field.nearest? x y rules.distance with
  | none => leave redraw
  | some hover =>
    let (tooltip, _) ← get
    if tooltip.hover.map Hover.index ≠ some hover.index then
      showPoint rules redraw field.label hover

/-- Hides the tooltip without asking for anything. -/
def reset : Showing Target Unit := change fun _ => .hidden

end Tooltip

/-! ### Requests on record -/

/-- The requests for redrawing in the order in which they came. -/
abbrev RequestLog := List (Option Highlight)

/-- Puts a request on record. -/
def RequestLog.record (request : Option Highlight) : EStateM Fault RequestLog Unit :=
  modify fun log => log ++ [request]

end SeriesChart
