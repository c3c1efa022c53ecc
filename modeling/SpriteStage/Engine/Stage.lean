import SpriteStage.Prompt.Overlay
import SpriteStage.Script.Machine
import SpriteStage.Figure.Basic

namespace SpriteStage.Machine
variable {κ σ S : Type} [Surface S]

/-- Take a surface and read its size once. -/
def attachSurface (surface : S) (m : Machine κ σ S) : Machine κ σ S :=
  let size := Surface.size surface
  { m with surface := some surface }.onContext fun c =>
    { c with width := size.1, height := size.2 }

def setNow (now : Nat) (m : Machine κ σ S) : Machine κ σ S :=
  m.onContext fun c => { c with now := now }

def loadRules (m : Machine κ σ S) : LoadRules :=
  ⟨m.context.resolver, m.present, m.context.settings.placeholder⟩

/-- Complete the queued image loads; without a surface they stay queued. -/
def completeLoads (m : Machine κ σ S) : Machine κ σ S :=
  match m.surface with
  | none => m
  | some surface =>
    let loaded := Loading.complete m.loadRules m.context.loads
      ⟨m.context.figures, m.board, surface, [], []⟩
    let m := { m with board := loaded.board, surface := some loaded.surface }.onContext fun c =>
      { c with figures := loaded.figures, loads := [] }
    m.recordAll (loaded.applied.map (fun (figure, image) => .imageApplied figure image) ++
      loaded.notices.map .notice)

def fireTimers (m : Machine κ σ S) : Machine κ σ S :=
  let (timers, board) := Timer.fire m.context.timers m.board m.context.now
  { m with board := board }.onContext fun c => { c with timers := timers }

def beginFrame (now : Nat) (m : Machine κ σ S) : Machine κ σ S :=
  (m.setNow now).completeLoads.fireTimers.onPrompt (·.clearGuard)

def clearStage (m : Machine κ σ S) : Machine κ σ S :=
  m.drawWith .clear (Surface.paint (.clear m.context.settings.background))

def drawFigures (m : Machine κ σ S) : Machine κ σ S :=
  match m.surface with
  | none => m
  | some surface =>
    let (failures, surface) := SpriteStage.drawFigures m.context.figures.figures surface
    { m with surface := some surface }.recordAll
      (failures.map fun (figure, e) => .notice (.figureFailed figure e))

def drawOverlay (m : Machine κ σ S) : Machine κ σ S :=
  match m.surface with
  | none => m
  | some surface =>
    let settings := m.context.settings
    let (result, prompt, surface) :=
      m.context.prompt.draw settings.overlay settings.caretInterval surface
    let m := { m with surface := some surface }.onPrompt fun _ => prompt
    match result with
    | .ok () => m
    | .error e => m.note (.promptFailed e)

def presentStage (m : Machine κ σ S) : Machine κ σ S :=
  { m with surface := m.surface.map Surface.present }

end SpriteStage.Machine
