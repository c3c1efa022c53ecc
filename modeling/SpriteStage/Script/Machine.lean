import SpriteStage.Colour.Basic
import SpriteStage.Script.Basic

namespace SpriteStage

structure Dice where
  state : UInt64
  deriving DecidableEq, Repr, Inhabited

namespace Dice

def start : Dice := ⟨0x9E3779B97F4A7C15⟩

def mix (x : UInt64) : UInt64 :=
  let x := (x ^^^ (x >>> 30)) * 0xBF58476D1CE4E5B9
  let x := (x ^^^ (x >>> 27)) * 0x94D049BB133111EB
  x ^^^ (x >>> 31)

/-- A number between two bounds, which may be given in either order. -/
def roll (dice : Dice) (a b : Int) : Int × Dice :=
  let low := min a b
  let high := max a b
  let next := dice.state + 0x9E3779B97F4A7C15
  (low + (mix next).toNat % (high - low + 1), ⟨next⟩)

end Dice

/-- What is written down about a run: messages, the calls of scripts with their replies, the
handlers that begin to run, and what becomes of startup tasks and images. -/
inductive Happening (κ σ : Type) where
  | notice (notice : Notice)
  | called (c : Call κ σ) (reply : c.Reply)
  | started (ticket : Nat)
  | framed (ticket : Nat) (elapsed : Float32)
  | keyed (ticket : Nat)
  | collided (registration : CollisionId)
  | promised (task : Nat)
  | polled (task : Nat)
  | answered (task : Nat)
  | imageApplied (figure : FigureId) (image : ImageInfo)

/-- The state of a stage under a program. The journal only grows. -/
structure Machine (κ σ S : Type) where
  context : Context κ
  board : Board
  memory : σ
  surface : Option S
  audio : Option AudioPlayer
  /-- Whether something is at a path. -/
  present : String → Bool
  dice : Dice
  journal : List (Happening κ σ)

namespace Machine
variable {κ σ S : Type}

def new (settings : Settings) (present : String → Bool) (memory : σ) : Machine κ σ S where
  context := .new settings
  board := .empty
  memory := memory
  surface := none
  audio := none
  present := present
  dice := .start
  journal := []

def record (happening : Happening κ σ) (m : Machine κ σ S) : Machine κ σ S :=
  { m with journal := m.journal ++ [happening] }

def recordAll (happenings : List (Happening κ σ)) (m : Machine κ σ S) : Machine κ σ S :=
  { m with journal := m.journal ++ happenings }

def note (notice : Notice) (m : Machine κ σ S) : Machine κ σ S := m.record (.notice notice)

def onContext (f : Context κ → Context κ) (m : Machine κ σ S) : Machine κ σ S :=
  { m with context := f m.context }

def onHandlers (f : Handlers κ → Handlers κ) (m : Machine κ σ S) : Machine κ σ S :=
  m.onContext fun c => { c with handlers := f c.handlers }

def onPrompt (f : Prompt → Prompt) (m : Machine κ σ S) : Machine κ σ S :=
  m.onContext fun c => { c with prompt := f c.prompt }

def onInput (f : InputState → InputState) (m : Machine κ σ S) : Machine κ σ S :=
  m.onContext fun c => { c with input := f c.input }

/-- Draw on the surface, if there is one; a failure is noted and goes no further. -/
def drawWith (call : DrawCall) (action : Draw S Unit) (m : Machine κ σ S) : Machine κ σ S :=
  match m.surface with
  | none => m
  | some surface =>
    match action surface with
    | (.ok (), surface) => { m with surface := some surface }
    | (.error e, surface) => { m with surface := some surface }.note (.drawFailed call e)

def lineWidth : Float32 := 2

def drawing [Surface S] : Drawing → Machine κ σ S → Machine κ σ S
  | .rect area colour => drawWith .rect (Surface.paint (.rect area (.parseOrWhite colour)))
  | .circle x y radius colour =>
    drawWith .circle (Surface.paint (.circle x y radius (.parseOrWhite colour)))
  | .line x₁ y₁ x₂ y₂ colour =>
    drawWith .line (Surface.paint (.line x₁ y₁ x₂ y₂ (.parseOrWhite colour) lineWidth))
  | .text text x y colour size =>
    drawWith .text (Surface.paintText text x y (.parseOrWhite colour) size)

/-- Resolve and play a sound. Without a player nothing happens. -/
def playSound (asset : String) (m : Machine κ σ S) : Machine κ σ S :=
  match m.audio with
  | none => m
  | some player =>
    match m.context.resolver.resolve m.present asset with
    | .error e => m.note (.soundFailed asset e)
    | .ok path =>
      match player.play path with
      | (.ok (), player) => { m with audio := some player }
      | (.error e, player) => { m with audio := some player }.note (.soundFailed asset e)

/-- Ask for another image of a figure; the load is done with the next frame. -/
def swapImage (figure : FigureId) (asset : String) (m : Machine κ σ S) :
    DeferredId × Machine κ σ S :=
  if m.context.figures.contains figure then
    let (done, board) := m.board.add .pending
    let request : LoadRequest := ⟨figure, asset, .swap done⟩
    (done, { m with board := board }.onContext fun c => { c with loads := c.loads ++ [request] })
  else
    let (done, board) := m.board.add (.rejected (.asset (.missingFigure figure)))
    (done, { m with board := board }.note (.cannotSwap figure))

def ask (question : String) (m : Machine κ σ S) : DeferredId × Machine κ σ S :=
  let (answer, prompt, board) := m.context.prompt.request question m.board
  (answer, { m with board := board }.onPrompt fun _ => prompt)

def wait (millis : Nat) (m : Machine κ σ S) : DeferredId × Machine κ σ S :=
  let (done, timers, board) :=
    Timer.schedule m.context.timers m.board (m.context.now + nanosOfMillis millis)
  (done, { m with board := board }.onContext fun c => { c with timers := timers })

def withContext {α : Type} (f : Context κ → α × Context κ) (m : Machine κ σ S) :
    α × Machine κ σ S :=
  let (result, context) := f m.context
  (result, { m with context := context })

def register (f : Handlers κ → Nat × Handlers κ) (m : Machine κ σ S) : Nat × Machine κ σ S :=
  m.withContext fun c =>
    let (ticket, handlers) := f c.handlers
    (ticket, { c with handlers := handlers })

def onCollision (first second : FigureId) (handler : κ) (m : Machine κ σ S) :
    CollisionId × Machine κ σ S :=
  m.withContext fun c =>
    let (id, collisions) := c.collisions.register first second handler
    (id, { c with collisions := collisions })

def random (low high : Int) (m : Machine κ σ S) : Int × Machine κ σ S :=
  let (value, dice) := m.dice.roll low high
  (value, { m with dice := dice })

def withBoard {α : Type} (f : Board → α × Board) (m : Machine κ σ S) : α × Machine κ σ S :=
  let (result, board) := f m.board
  (result, { m with board := board })

def effect [Surface S] : (c : Call κ σ) → Machine κ σ S → c.Reply × Machine κ σ S
  | .view, m => (m.context, m)
  | .inspect, m => (m.context.inspect m.surface.isSome, m)
  | .memory, m => (m.memory, m)
  | .remember memory, m => ((), { m with memory := memory })
  | .createFigure asset, m => m.withContext (·.createFigure asset)
  | .editFigure figure change, m => m.withContext (·.editFigure figure change)
  | .removeFigure figure, m => m.withContext (·.removeFigure figure)
  | .swapImage figure asset, m => m.swapImage figure asset
  | .draw drawing, m => ((), m.drawing drawing)
  | .playSound asset, m => ((), m.playSound asset)
  | .setAudio player, m => ((), { m with audio := some player })
  | .ask question, m => m.ask question
  | .wait millis, m => m.wait millis
  | .random low high, m => m.random low high
  | .requestStop, m => ((), m.onContext fun c => { c with stopRequested := true })
  | .onStart handler, m => m.register (·.addStart handler)
  | .onFrame handler, m => m.register (·.addFrame handler)
  | .onKey key handler, m => m.register (·.addKey key handler)
  | .onCollision first second handler, m => m.onCollision first second handler
  | .defer, m => m.withBoard (·.add .pending)
  | .fulfil value result, m => m.withBoard (·.fulfil value result)
  | .reject value error, m => m.withBoard (·.reject value error)
  | .peek value, m => (m.board.state value, m)

def perform [Surface S] (c : Call κ σ) (m : Machine κ σ S) : c.Reply × Machine κ σ S :=
  let (reply, m) := m.effect c
  (reply, m.record (.called c reply))

end Machine

def Script.run {κ σ S ρ : Type} [Surface S] :
    Script κ σ ρ → Machine κ σ S → Except ScriptError ρ × Machine κ σ S
  | .done result, m => (.ok result, m)
  | .fail error, m => (.error error, m)
  | .call c next, m =>
    let (reply, m) := m.perform c
    (next reply).run m

end SpriteStage
