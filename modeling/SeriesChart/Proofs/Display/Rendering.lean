/-
This file says in one equation what a redrawing does to a stage: it paints the chart on
the sheet, then the highlight, or clears the sheet when there is nothing to draw. The
picture that is kept does not show in this equation, as long as it is what painting the
chart would leave. A redrawing keeps this up whether it succeeds or gives up.
-/

import SeriesChart.Display.Stage
import SeriesChart.Proofs.Raster.Copying

namespace SeriesChart

namespace Stage

/-! ### What a redrawing paints -/

/-- The plan of the chart without its highlight. -/
def cleanPlan (stage : Stage) (device : Device) : Plan :=
  framePlan (stage.frameFor device) stage.look.theme stage.look.formats none

/-- What a redrawing paints: the chart and the highlight on top of it, or the background alone. -/
def painting (stage : Stage) (device : Device) (highlight : Option Highlight) : Painting :=
  if (stage.frameFor device).isDrawable then do
    device.paintPlan (stage.cleanPlan device)
    device.paintPlan (.ofCalls (highlightCalls highlight stage.look.theme))
  else Canvas.clear device.background

/-- The stage after a redrawing that left a picture on the sheet. -/
def showing (stage : Stage) (device : Device) (cache : PictureCache BaseKey Canvas)
    (canvas : Canvas) : Stage :=
  { stage with sheet := some ⟨device, canvas⟩, frame := some (stage.frameFor device), cache }

theorem cleanPlan_eq_cons (stage : Stage) (device : Device) :
    ∃ rest, stage.cleanPlan device = .ok .clear :: rest := ⟨_, rfl⟩

theorem keeps_size_painting (stage : Stage) (device : Device) (highlight : Option Highlight)
    (width height : Nat) :
    Keeps (Canvas.HasSize width height) (stage.painting device highlight) := by
  unfold painting
  split
  · exact keeps_bind (keeps_size_paintPlan width height device _) fun _ =>
      keeps_size_paintPlan width height device _
  · exact Canvas.keeps_size_clear width height _

/-- What is painted on pictures of one size is the same, if they can be cleared. -/
theorem cleanPlan_of_hasSize (stage : Stage) {device : Device}
    (valid : device.background.isValid = true) {first second : Canvas}
    (sized : first.HasSize second.width second.height) :
    device.paintPlan (stage.cleanPlan device) first =
      device.paintPlan (stage.cleanPlan device) second := by
  obtain ⟨rest, begins⟩ := stage.cleanPlan_eq_cons device
  rw [begins, device.paintPlan_clear valid, device.paintPlan_clear valid, sized.1, sized.2]

theorem painting_of_hasSize (stage : Stage) {device : Device} (highlight : Option Highlight)
    (valid : device.background.isValid = true) {first second : Canvas}
    (sized : first.HasSize second.width second.height) :
    stage.painting device highlight first = stage.painting device highlight second := by
  unfold painting
  split
  · show EStateM.bind _ _ first = EStateM.bind _ _ second
    unfold EStateM.bind
    rw [stage.cleanPlan_of_hasSize valid sized]
  · rw [Canvas.clear_of_isValid valid, Canvas.clear_of_isValid valid, sized.1, sized.2]

/-! ### The picture that is kept -/

/-- The picture that is found for the sheet, if there is one, is what painting the chart without a
highlight leaves on any picture of the size of the sheet. -/
def Coherent (stage : Stage) : Prop :=
  ∀ sheet picture, stage.sheet = some sheet →
    stage.cache.lookup (stage.baseKey sheet) = some picture →
    ∀ canvas : Canvas, canvas.HasSize sheet.canvas.width sheet.canvas.height →
      sheet.device.paintPlan (stage.cleanPlan sheet.device) canvas = .ok () picture

theorem coherent_of_empty {stage : Stage} (empty : stage.cache.base = none) : stage.Coherent := by
  intro sheet picture _ found
  unfold PictureCache.lookup at found
  rw [empty] at found
  cases found

theorem coherent_of_no_sheet {stage : Stage} (none : stage.sheet = none) : stage.Coherent := by
  intro sheet picture placed
  rw [none] at placed
  cases placed

theorem coherent_forgetBase (stage : Stage) : stage.forgetBase.Coherent := coherent_of_empty rfl

/-- Neither the picture on the sheet nor the frame of the last drawing matters. -/
theorem Coherent.withCanvas {stage : Stage} (coherent : stage.Coherent) {sheet : Sheet}
    (placed : stage.sheet = some sheet) {canvas : Canvas}
    (sized : canvas.HasSize sheet.canvas.width sheet.canvas.height) (frame : Option Frame) :
    Coherent { stage with sheet := some ⟨sheet.device, canvas⟩, frame } := by
  rintro _ picture ⟨⟩ found other otherSized
  refine coherent sheet picture placed ?_ other ⟨otherSized.1.trans sized.1, otherSized.2.trans sized.2⟩
  rw [← found]
  show _ = stage.cache.lookup ⟨stage.series, stage.options, canvas.width, canvas.height, _⟩
  rw [sized.1, sized.2]
  rfl

/-- A picture found for the sheet has the size of the sheet. -/
theorem Coherent.hasSize {stage : Stage} (coherent : stage.Coherent) {sheet : Sheet}
    (placed : stage.sheet = some sheet) {picture : Canvas}
    (found : stage.cache.lookup (stage.baseKey sheet) = some picture) :
    picture.HasSize sheet.canvas.width sheet.canvas.height := by
  have kept := keeps_size_paintPlan _ _ sheet.device (stage.cleanPlan sheet.device) sheet.canvas
    sheet.canvas.hasSize_self
  rw [coherent sheet picture placed found _ sheet.canvas.hasSize_self] at kept
  exact kept

/-! ### A redrawing step by step -/

theorem onCanvas_eq (painting : Painting) {stage : Stage} {sheet : Sheet}
    (placed : stage.sheet = some sheet) :
    onCanvas painting stage =
      (painting sheet.canvas).mapState fun canvas =>
        { stage with sheet := some ⟨sheet.device, canvas⟩ } := by
  unfold onCanvas Sheet.onCanvas EStateM.run
  rw [placed]
  dsimp only
  cases painting sheet.canvas <;> rfl

theorem drawBase_of_kept {stage : Stage} {sheet : Sheet} {picture : Canvas} (frame : Frame)
    (kept : stage.keptBase sheet = some picture) :
    drawBase sheet frame stage = onCanvas (Sheet.putPicture picture) stage := by
  unfold drawBase
  rw [get_bind, kept]

theorem drawBase_of_none {stage : Stage} {sheet : Sheet} (none : stage.keptBase sheet = none) :
    drawBase sheet (stage.frameFor sheet.device) stage =
      (do onCanvas (sheet.device.paintPlan (stage.cleanPlan sheet.device))
          modify (·.keepBase (stage.baseKey sheet)) : EStateM Fault Stage Unit) stage := by
  unfold drawBase
  rw [get_bind, none]
  rfl

theorem lookup_of_keptBase {stage : Stage} {sheet : Sheet} {picture : Canvas}
    (kept : stage.keptBase sheet = some picture) :
    stage.cache.lookup (stage.baseKey sheet) = some picture := by
  unfold keptBase at kept
  split at kept
  · exact kept
  · cases kept

/-- A picture that was just painted may be kept. -/
theorem coherent_keepBase {stage : Stage} {sheet : Sheet} (coherent : stage.Coherent)
    (placed : stage.sheet = some sheet) {before : Canvas}
    (sized : before.HasSize sheet.canvas.width sheet.canvas.height)
    (painted : sheet.device.paintPlan (stage.cleanPlan sheet.device) before =
      .ok () sheet.canvas) (key : BaseKey) : (stage.keepBase key).Coherent := by
  unfold keepBase
  rw [placed]
  show Coherent (if stage.look.keepsBase then _ else stage)
  split
  · intro other picture otherPlaced found canvas otherSized
    obtain rfl : sheet = other := Option.some.inj otherPlaced
    have kept := (PictureCache.lookup_eq_some_iff _ _ _).mp found
    obtain ⟨_, rfl⟩ := Prod.mk.inj (Option.some.inj kept)
    obtain ⟨rest, begins⟩ := stage.cleanPlan_eq_cons sheet.device
    have valid : sheet.device.background.isValid = true := by
      rw [begins] at painted
      exact Device.isValid_of_paintPlan painted
    rw [← painted]
    exact stage.cleanPlan_of_hasSize valid
      ⟨otherSized.1.trans sized.1.symm, otherSized.2.trans sized.2.symm⟩
  · exact coherent

theorem keepBase_eq (stage : Stage) (key : BaseKey) :
    ∃ cache, stage.keepBase key = { stage with cache } := by
  unfold keepBase
  split
  · split
    · exact ⟨_, rfl⟩
    · exact ⟨stage.cache, rfl⟩
  · exact ⟨stage.cache, rfl⟩

/-- Drawing the chart without its highlight leaves what its plan paints, whether the picture that is
kept is copied or not. -/
theorem drawBase_eq {stage : Stage} {sheet : Sheet} (placed : stage.sheet = some sheet)
    (coherent : stage.Coherent) :
    ∃ cache, drawBase sheet (stage.frameFor sheet.device) stage =
        ((sheet.device.paintPlan (stage.cleanPlan sheet.device) sheet.canvas).mapState
          fun canvas => { stage with sheet := some ⟨sheet.device, canvas⟩, cache }) ∧
      (drawBase sheet (stage.frameFor sheet.device) stage).state.Coherent := by
  have sized := keeps_size_paintPlan _ _ sheet.device (stage.cleanPlan sheet.device) sheet.canvas
    sheet.canvas.hasSize_self
  cases kept : stage.keptBase sheet with
  | some picture =>
    have found := lookup_of_keptBase kept
    have pictureSized := coherent.hasSize placed found
    refine ⟨stage.cache, ?_⟩
    rw [drawBase_of_kept _ kept, coherent sheet picture placed found _ sheet.canvas.hasSize_self,
      onCanvas_eq _ placed, Sheet.putPicture_of_hasSize pictureSized]
    exact ⟨rfl, coherent.withCanvas placed pictureSized _⟩
  | none =>
    rw [drawBase_of_none kept]
    have drawn := onCanvas_eq (sheet.device.paintPlan (stage.cleanPlan sheet.device)) placed
    cases ended : sheet.device.paintPlan (stage.cleanPlan sheet.device) sheet.canvas with
    | error fault canvas =>
      rw [ended] at drawn sized
      refine ⟨stage.cache, ?_⟩
      rw [bind_of_error drawn]
      exact ⟨rfl, coherent.withCanvas placed sized _⟩
    | ok _ canvas =>
      rw [ended] at drawn sized
      rw [bind_of_ok drawn]
      obtain ⟨cache, stored⟩ := keepBase_eq { stage with sheet := some ⟨sheet.device, canvas⟩ }
        (stage.baseKey sheet)
      refine ⟨cache, congrArg _ stored, ?_⟩
      exact coherent_keepBase (coherent.withCanvas placed sized _) rfl
        ⟨sized.1.symm, sized.2.symm⟩ ended _

/-! ### A whole redrawing -/

/-- A stage without a sheet is left as it is. -/
theorem render_of_no_sheet {stage : Stage} (highlight : Option Highlight)
    (none : stage.sheet = none) : render highlight stage = .ok () stage := by
  unfold render
  rw [get_bind, none]
  rfl

/-- A redrawing paints what there is to be painted, and only the picture that is kept shows how. -/
theorem render_eq {stage : Stage} {sheet : Sheet} (highlight : Option Highlight)
    (placed : stage.sheet = some sheet) (coherent : stage.Coherent) :
    ∃ cache, render highlight stage =
        ((stage.painting sheet.device highlight sheet.canvas).mapState
          (stage.showing sheet.device cache)) ∧
      (render highlight stage).state.Coherent := by
  -- The frame is settled before anything is painted.
  let framed : Stage := { stage with frame := some (stage.frameFor sheet.device) }
  have framedPlaced : framed.sheet = some sheet := placed
  have framedCoherent : framed.Coherent := coherent
  have started : render highlight stage =
      (if (stage.frameFor sheet.device).isDrawable then do
        drawBase sheet (framed.frameFor sheet.device)
        onCanvas (sheet.device.paintPlan (.ofCalls (highlightCalls highlight stage.look.theme)))
      else do
        onCanvas (Canvas.clear sheet.device.background)
        modify forgetBase : EStateM Fault Stage Unit) framed := by
    unfold render
    rw [get_bind, placed]
    rfl
  rw [started]
  unfold painting
  by_cases drawable : (stage.frameFor sheet.device).isDrawable = true
  · rw [if_pos drawable, if_pos drawable]
    obtain ⟨cache, drawn, kept⟩ := drawBase_eq framedPlaced framedCoherent
    have framedClean : framed.cleanPlan sheet.device = stage.cleanPlan sheet.device := rfl
    cases ended : sheet.device.paintPlan (stage.cleanPlan sheet.device) sheet.canvas with
    | error fault canvas =>
      rw [framedClean, ended] at drawn
      rw [bind_of_error drawn, bind_of_error ended]
      rw [drawn] at kept
      exact ⟨cache, rfl, kept⟩
    | ok _ canvas =>
      rw [framedClean, ended] at drawn
      rw [bind_of_ok drawn, bind_of_ok ended]
      rw [drawn] at kept
      have shownPlaced : (stage.showing sheet.device cache canvas).sheet =
        some ⟨sheet.device, canvas⟩ := rfl
      have marked := onCanvas_eq (sheet.device.paintPlan
        (.ofCalls (highlightCalls highlight stage.look.theme))) shownPlaced
      have markedSized := keeps_size_paintPlan _ _ sheet.device
        (.ofCalls (highlightCalls highlight stage.look.theme)) canvas canvas.hasSize_self
      have markedCoherent := Coherent.withCanvas kept shownPlaced markedSized
        (some (stage.frameFor sheet.device))
      refine ⟨cache, marked, ?_⟩
      show (onCanvas _ (stage.showing sheet.device cache canvas)).state.Coherent
      rw [marked, EStateM.Result.state_mapState]
      exact markedCoherent
  · rw [if_neg drawable, if_neg drawable]
    have cleared := onCanvas_eq (Canvas.clear sheet.device.background) framedPlaced
    have sized := Canvas.keeps_size_clear _ _ sheet.device.background sheet.canvas
      sheet.canvas.hasSize_self
    cases ended : Canvas.clear sheet.device.background sheet.canvas with
    | error fault canvas =>
      rw [ended] at cleared sized
      rw [bind_of_error cleared]
      exact ⟨stage.cache, rfl, coherent.withCanvas placed sized _⟩
    | ok _ canvas =>
      rw [ended] at cleared
      rw [bind_of_ok cleared]
      exact ⟨stage.cache.invalidate, rfl, coherent_forgetBase _⟩

end Stage

end SeriesChart
