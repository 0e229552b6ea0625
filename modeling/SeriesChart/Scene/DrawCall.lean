/-
This file says what a chart is drawn with: calls in logical pixels, given as data, so that
a drawing can be looked at before it is painted. The plan of a drawing is a list of calls
in the order in which they are made. A label that cannot be written ends the plan: in its
place stands the fault, and what comes after it is not drawn.
-/

import SeriesChart.Color.Basic
import SeriesChart.Fault

namespace SeriesChart

/-! ### Texts -/

/-- Which part of a text stands at its anchor, along a row. -/
inductive TextAlign where
  | left
  | center
  | right
  deriving DecidableEq, Repr

/-- Which part of a text stands at its anchor, along a column. -/
inductive TextBaseline where
  | top
  | middle
  | bottom
  deriving DecidableEq, Repr

/-- The name of an alignment. -/
def TextAlign.name : TextAlign → String
  | left => "left"
  | center => "center"
  | right => "right"

/-- The name of a baseline. -/
def TextBaseline.name : TextBaseline → String
  | top => "top"
  | middle => "middle"
  | bottom => "bottom"

/-- The alignment of a name; any other name aligns to the left. -/
def TextAlign.ofName (name : String) : TextAlign :=
  ([center, right].find? (·.name = name)).getD left

/-- The baseline of a name; any other name stands for the top. -/
def TextBaseline.ofName (name : String) : TextBaseline :=
  ([middle, bottom].find? (·.name = name)).getD top

/-- How a text is set. -/
structure TextStyle where
  fontSize : Float
  align : TextAlign := .left
  baseline : TextBaseline := .top
  bold : Bool := false
  deriving DecidableEq, Repr

/-! ### Calls -/

/-- One call of a drawing. -/
inductive DrawCall where
  | clear
  | strokeLine (x0 y0 x1 y1 : Float) (color : Color) (width : Float)
  | strokePolyline (places : List (Float × Float)) (color : Color) (width : Float)
  | fillPolygon (corners : List (Float × Float)) (color : Color)
  | fillCircle (x y radius : Float) (color : Color)
  | fillRect (x y width height : Float) (color : Color)
  | fillText (x y : Float) (text : String) (color : Color) (style : TextStyle)
  deriving DecidableEq, Repr

/-- How wide a line is when nothing else is said. -/
def thinLine : Float := 1.0

/-! ### Plans -/

/-- The calls of a drawing in order; a fault stands where the drawing gives up. -/
abbrev Plan := List (Except Fault DrawCall)

namespace Plan

/-- The calls that are made: those before the first fault. -/
def calls : Plan → List DrawCall
  | .ok call :: rest => call :: calls rest
  | _ => []

/-- The fault that a plan gives up with, if it does. -/
def fault? : Plan → Option Fault
  | [] => none
  | .ok _ :: rest => fault? rest
  | .error fault :: _ => some fault

/-- The plan of calls none of which gives up. -/
def ofCalls (calls : List DrawCall) : Plan := calls.map .ok

@[simp] theorem calls_ofCalls (calls : List DrawCall) : (ofCalls calls).calls = calls := by
  induction calls with
  | nil => rfl
  | cons call rest inductionHypothesis =>
    show call :: (ofCalls rest).calls = call :: rest
    rw [inductionHypothesis]

@[simp] theorem fault?_ofCalls (calls : List DrawCall) : (ofCalls calls).fault? = none := by
  induction calls with
  | nil => rfl
  | cons call rest inductionHypothesis => exact inductionHypothesis

/-- Carries out a plan, call by call. -/
def carryOut {State : Type} (draw : DrawCall → EStateM Fault State Unit) :
    Plan → EStateM Fault State Unit
  | [] => pure ()
  | step :: rest => do
    draw (← step)
    carryOut draw rest

end Plan

end SeriesChart
