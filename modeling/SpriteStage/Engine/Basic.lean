import SpriteStage.Engine.Pass
import SpriteStage.Engine.Stage

/-! The engine: it starts and stops a program, gives it frames, and brings events to it. The startup
handlers of a program can leave tasks. Until the last of them is ready, the barrier is up: neither
frame nor key nor collision handlers run. While a prompt is shown it takes all keys, and the frame
handlers rest. -/

namespace SpriteStage

inductive FrameStatus where
  | running
  | stopped
  deriving DecidableEq, Repr

/-- A call of the host. A script of the host stands for whatever it does with the stage between
the other calls, registrations included. -/
inductive HostCall (κ σ S : Type) where
  | attach (surface : S)
  | setDisplay (display : Rect)
  | start (now : Nat) (clock : String)
  | stop
  | reset
  | frame (now : Nat)
  | input (event : InputEvent)
  | script (script : Script κ σ Unit)

inductive HostReply where
  | none
  | started (result : Except RuntimeError Unit)
  | framed (result : Except RuntimeError FrameStatus)
  | handled (result : Except RuntimeError InputOutcome)
  | ran (result : Except ScriptError Unit)

structure Engine (κ σ S : Type) where
  machine : Machine κ σ S
  running : Bool
  /-- The tasks that are waited for; absent once the barrier is down. -/
  barrier : Option (List (Waiting κ))
  lastTick : Option Nat
  startedAt : Option String
  tasksMade : Nat

namespace Engine
variable {κ σ S : Type}

def new (settings : Settings) (present : String → Bool) (memory : σ) : Engine κ σ S where
  machine := .new settings present memory
  running := false
  barrier := none
  lastTick := none
  startedAt := none
  tasksMade := 0

def context (e : Engine κ σ S) : Context κ := e.machine.context

def onMachine (f : Machine κ σ S → Machine κ σ S) (e : Engine κ σ S) : Engine κ σ S :=
  { e with machine := f e.machine }

def note (notice : Notice) (e : Engine κ σ S) : Engine κ σ S := e.onMachine (·.note notice)

def promptActive (e : Engine κ σ S) : Bool := e.context.prompt.active

def setDisplay (display : Rect) (e : Engine κ σ S) : Engine κ σ S :=
  e.onMachine (·.onInput (·.setDisplay display))

/-- Stop giving frames to the program and hide any prompt. -/
def stop (e : Engine κ σ S) : Engine κ σ S :=
  let e := if e.running then e.note .stopped else e
  { e with running := false }.onMachine (·.onPrompt (·.stop))

def reset (e : Engine κ σ S) : Engine κ σ S :=
  let e := e.stop.onMachine (·.onContext (·.clearWorld))
  { e with barrier := none, lastTick := none, startedAt := none }.note .reset

def obeyStopRequest (e : Engine κ σ S) : Engine κ σ S :=
  if e.context.stopRequested then
    (e.onMachine (·.onContext fun c => { c with stopRequested := false })).stop
  else e

def halt (error : ScriptError) (e : Engine κ σ S) : Engine κ σ S :=
  (e.note (.scriptFailed error)).stop

/-- Seconds from the last frame to a time, none if the clock went back. -/
def elapsed (e : Engine κ σ S) (now : Nat) : Float32 :=
  match e.lastTick with
  | none => 0
  | some last => Number.secondsOfNanos (now - last)

def inspect (e : Engine κ σ S) : String :=
  let barrier := match e.barrier with
    | none => "None"
    | some tasks => "Some(" ++ toString tasks.length ++ ")"
  "Engine \x7b running: " ++ toString e.running ++ ", barrier: " ++ barrier ++ ", context: " ++
    e.context.inspect e.machine.surface.isSome ++ " \x7d"

variable [Surface S]

/-- Attach a drawing surface and a listener, in the place of any others. -/
def attach (surface : S) (e : Engine κ σ S) : Engine κ σ S :=
  let size := Surface.size surface
  let e := e.onMachine fun m =>
    (m.attachSurface surface).onInput (·.attach (.unscaled size.1 size.2))
  e.note (.surfaceAttached size.1 size.2 e.context.input.listenersMade)

def runStartHandlers (p : Program κ σ) (e : Engine κ σ S) : Engine κ σ S :=
  let (lent, handlers) := e.context.handlers.takeStart
  let (tasks, m) := Machine.startPass p e.tasksMade lent (e.machine.onHandlers fun _ => handlers)
  { e with
    machine := m.onHandlers (·.restoreStart lent)
    barrier := if lent.isEmpty then e.barrier else some tasks
    tasksMade := e.tasksMade + tasks.length }

/-- Start the program at a time; the clock names it for people. An engine that is running goes on
as it is. -/
def start (p : Program κ σ) (now : Nat) (clock : String) (e : Engine κ σ S) :
    Except RuntimeError Unit × Engine κ σ S :=
  if e.running then (.ok (), e)
  else if e.machine.surface.isNone then (.error .surfaceMissing, e.note .surfaceMissing)
  else
    let e := { e with running := true, lastTick := some now, startedAt := some clock }
    let e := (e.onMachine (·.setNow now)).note (.started clock)
    (.ok (), (e.runStartHandlers p).obeyStopRequest)

/-- Poll the tasks that are waited for. The barrier comes down with the last of them. -/
def pollBarrier (p : Program κ σ) (e : Engine κ σ S) : Engine κ σ S :=
  match e.barrier with
  | none => e
  | some tasks =>
    let (waiting, m) := Machine.pollAll p tasks e.machine
    { e with machine := m, barrier := if waiting.isEmpty then none else some waiting }

def status (e : Engine κ σ S) : FrameStatus := if e.running then .running else .stopped

/-- A frame in which the program plays: frame handlers, collision handlers, then the picture. -/
def playFrame (p : Program κ σ) (elapsed : Float32) (e : Engine κ σ S) :
    Except RuntimeError FrameStatus × Engine κ σ S :=
  match e.machine.runFrameHandlers p elapsed with
  | (.error error, m) => (.error (.script error), { e with machine := m }.halt error)
  | (.ok (), m) =>
    match (m.onInput fun s => { s with keys := s.keys.clearJustPressed }).runCollisions p with
    | (.error error, m) => (.error (.script error), { e with machine := m }.halt error)
    | (.ok (), m) =>
      let e := { e with machine := m.drawFigures.presentStage }.obeyStopRequest
      (.ok e.status, e)

/-- One frame. A handler that fails stops the engine and is reported. -/
def frame (p : Program κ σ) (now : Nat) (e : Engine κ σ S) :
    Except RuntimeError FrameStatus × Engine κ σ S :=
  let e := e.onMachine (·.beginFrame now)
  if !e.running then (.ok .stopped, e)
  else
    let elapsed := e.elapsed now
    let e := ({ e with lastTick := some now }.pollBarrier p).onMachine (·.clearStage)
    if e.barrier.isSome then
      (.ok .running, e.onMachine fun m =>
        (if m.context.prompt.active then m.drawOverlay else m).presentStage)
    else if e.promptActive then
      (.ok .running, e.onMachine fun m => m.drawFigures.drawOverlay.presentStage)
    else e.playFrame p elapsed

def pressKey (key : String) (e : Engine κ σ S) : Engine κ σ S :=
  e.onMachine (·.onInput fun s => { s with keys := s.keys.press key })

def promptKey (key : String) (e : Engine κ σ S) : InputOutcome × Engine κ σ S :=
  let (outcome, prompt, board) := e.context.prompt.handleKey key e.machine.board
  (outcome, e.onMachine fun m => { m with board := board }.onPrompt fun _ => prompt)

/-- Bring a key that went down to the prompt or to the program. The Enter that answered the last
prompt of this frame goes no further. -/
def keyDown (p : Program κ σ) (key : String) (repeated : Bool) (e : Engine κ σ S) :
    Except RuntimeError InputOutcome × Engine κ σ S :=
  let name := Key.canonical key
  if e.promptActive then
    let (outcome, e) := (if repeated then e else e.pressKey name).promptKey key
    (.ok outcome, e)
  else if key = "Enter" && e.context.prompt.justEnded then
    (.ok .consumed, e.onMachine (·.onPrompt (·.clearGuard)))
  else
    let outcome : InputOutcome := ⟨e.running && Key.isGameplay name, false⟩
    if repeated then (.ok outcome, e)
    else
      let e := e.pressKey name
      if e.barrier.isSome then (.ok outcome, e)
      else match e.machine.dispatchKey p name with
        | (.error error, m) => (.error (.script error), { e with machine := m }.halt error)
        | (.ok (), m) => (.ok outcome, { e with machine := m }.obeyStopRequest)

/-- Bring an event to the program. Without a listener it is ignored. -/
def handleInput (p : Program κ σ) (event : InputEvent) (e : Engine κ σ S) :
    Except RuntimeError InputOutcome × Engine κ σ S :=
  if !e.context.input.isAttached then (.ok .pass, e)
  else match event with
    | .keyDown key repeated => e.keyDown p key repeated
    | .keyUp key =>
      (.ok .pass, e.onMachine (·.onInput fun s =>
        { s with keys := s.keys.release (Key.canonical key) }))
    | mouse => (.ok .pass, e.onMachine (·.onInput (·.applyMouse mouse)))

def runScript {ρ : Type} (script : Script κ σ ρ) (e : Engine κ σ S) :
    Except ScriptError ρ × Engine κ σ S :=
  let (result, m) := script.run e.machine
  (result, { e with machine := m })

def step (p : Program κ σ) (e : Engine κ σ S) : HostCall κ σ S → HostReply × Engine κ σ S
  | .attach surface => (.none, e.attach surface)
  | .setDisplay display => (.none, e.setDisplay display)
  | .start now clock =>
    let (result, e) := e.start p now clock
    (.started result, e)
  | .stop => (.none, e.stop)
  | .reset => (.none, e.reset)
  | .frame now =>
    let (result, e) := e.frame p now
    (.framed result, e)
  | .input event =>
    let (result, e) := e.handleInput p event
    (.handled result, e)
  | .script script =>
    let (result, e) := e.runScript script
    (.ran result, e)

def after (p : Program κ σ) (e : Engine κ σ S) (calls : List (HostCall κ σ S)) : Engine κ σ S :=
  calls.foldl (fun e call => (e.step p call).2) e

/-- The states that calls of a host lead to from a new engine. -/
inductive Reachable (p : Program κ σ) : Engine κ σ S → Prop where
  | new (settings : Settings) (present : String → Bool) (memory : σ) :
    Reachable p (.new settings present memory)
  | step {e : Engine κ σ S} (reached : Reachable p e) (call : HostCall κ σ S) :
    Reachable p (e.step p call).2

end Engine
end SpriteStage
