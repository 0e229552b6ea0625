/-
This file redraws a chart. The stage holds what is to be drawn, the sheet it is drawn on,
and the picture of the last chart without its highlight. When that picture still shows
what is to be drawn it is copied instead of drawing the chart again. A drawing that gives
up leaves the sheet as far as it was painted.
-/

import SeriesChart.Scene.Frame
import SeriesChart.Sheet
import SeriesChart.Display.PictureCache

namespace SeriesChart

/-! ### Stages -/

/-- What a chart keeps for its whole life. -/
structure Look where
  theme : Theme := {}
  formats : LabelFormats := {}
  padding : Padding Float := .standard
  fonts : Fonts := .builtIn
  /-- The picture of the chart without its highlight is kept. -/
  keepsBase : Bool := true

/-- What the picture of a chart without its highlight depends on, apart from its look. -/
structure BaseKey where
  series : Series
  options : Options
  width : Nat
  height : Nat
  ratio : Float
  deriving DecidableEq

/-- What is to be drawn, and what it is drawn on. -/
structure Stage where
  look : Look
  series : Series
  options : Options
  /-- Absent as long as the chart has no host. -/
  sheet : Option Sheet := none
  /-- What the last drawing was made of. -/
  frame : Option Frame := none
  cache : PictureCache BaseKey Canvas := {}

namespace Stage

/-- The frame of a drawing on a device. -/
def frameFor (stage : Stage) (device : Device) : Frame :=
  .ofWidth stage.series stage.options device.width stage.look.padding

/-- The key of the picture that a drawing on a sheet would leave. -/
def baseKey (stage : Stage) (sheet : Sheet) : BaseKey :=
  ⟨stage.series, stage.options, sheet.canvas.width, sheet.canvas.height, sheet.device.ratio⟩

/-- The picture that is kept, if it shows what is to be drawn. -/
def keptBase (stage : Stage) (sheet : Sheet) : Option Canvas :=
  if stage.look.keepsBase then stage.cache.lookup (stage.baseKey sheet) else none

/-- Paints on the sheet, if there is one. -/
def onCanvas (painting : Painting) : EStateM Fault Stage Unit := fun stage =>
  match stage.sheet with
  | none => .ok () stage
  | some sheet =>
    match Sheet.onCanvas painting sheet with
    | .ok _ sheet => .ok () { stage with sheet := some sheet }
    | .error fault sheet => .error fault { stage with sheet := some sheet }

/-- The stage with the picture of its sheet kept. -/
def keepBase (stage : Stage) (key : BaseKey) : Stage :=
  match stage.sheet with
  | some sheet =>
    if stage.look.keepsBase then { stage with cache := stage.cache.store key sheet.canvas }
    else stage
  | none => stage

/-- The stage without a picture kept. -/
def forgetBase (stage : Stage) : Stage := { stage with cache := stage.cache.invalidate }

/-- Draws the chart without its highlight, or copies the picture that is kept. -/
def drawBase (sheet : Sheet) (frame : Frame) : EStateM Fault Stage Unit := do
  let stage ← get
  match stage.keptBase sheet with
  | some picture => onCanvas (Sheet.putPicture picture)
  | none =>
    onCanvas (sheet.device.paintPlan (framePlan frame stage.look.theme stage.look.formats none))
    modify (·.keepBase (stage.baseKey sheet))

/-- Redraws the chart with a highlight or without one. When there is nothing to draw the sheet is
cleared. -/
def render (highlight : Option Highlight) : EStateM Fault Stage Unit := do
  let stage ← get
  match stage.sheet with
  | none => pure ()
  | some sheet =>
    let frame := stage.frameFor sheet.device
    modify ({ · with frame := some frame })
    if frame.isDrawable then
      drawBase sheet frame
      onCanvas (sheet.device.paintPlan (.ofCalls (highlightCalls highlight stage.look.theme)))
    else
      onCanvas (Canvas.clear sheet.device.background)
      modify forgetBase

end Stage

end SeriesChart
