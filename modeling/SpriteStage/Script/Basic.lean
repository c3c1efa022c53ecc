import SpriteStage.Context.Basic
import SpriteStage.Error

/-! Scripts: what the handlers of a program do. Handlers are known by labels of a type `κ`, which the
program gives a meaning. What a program keeps between its handlers is one value of a type `σ`. -/

namespace SpriteStage

structure AudioPlayer where
  heard : List String
  answer : List String → String → Except AssetError Unit

namespace AudioPlayer

def silent : AudioPlayer := ⟨[], fun _ _ => .ok ()⟩

def failing (error : String → AssetError) : AudioPlayer := ⟨[], fun _ path => .error (error path)⟩

def play (player : AudioPlayer) (path : String) : Except AssetError Unit × AudioPlayer :=
  (player.answer player.heard path, { player with heard := player.heard ++ [path] })

end AudioPlayer

/-- What a startup handler leaves to wait for: a deferred value, a deferred value whose result goes
to another handler once, or a handler that is polled until it says that it is done. -/
inductive StartTask (κ : Type) where
  | waitFor (value : DeferredId)
  | after (value : DeferredId) (next : Option κ)
  | custom (handler : κ)
  deriving DecidableEq

/-- A task as diagnostics print it: what it waits for does not show. -/
def StartTask.inspect {κ : Type} : StartTask κ → String := fun _ => "Task"

/-- What a startup handler handed back, as diagnostics print it. -/
def StartTask.inspectStartup {κ : Type} : Option (StartTask κ) → String
  | none => "Done"
  | some task => "Pending(" ++ task.inspect ++ ")"

inductive Progress where
  | waiting
  | done
  deriving DecidableEq, Repr

/-- A drawing in stage pixels. Its colour is written in any notation. -/
inductive Drawing where
  | rect (area : Rect) (colour : String)
  | circle (x y radius : Float32) (colour : String)
  | line (x₁ y₁ x₂ y₂ : Float32) (colour : String)
  | text (text : String) (x y : Float32) (colour : String) (size : Float32)
  deriving DecidableEq

inductive Call (κ σ : Type) where
  | view
  | inspect
  | memory
  | remember (memory : σ)
  | createFigure (asset : String)
  | editFigure (figure : FigureId) (change : FigureEdit)
  | removeFigure (figure : FigureId)
  | swapImage (figure : FigureId) (asset : String)
  | draw (drawing : Drawing)
  | playSound (asset : String)
  | setAudio (player : AudioPlayer)
  | ask (question : String)
  | wait (millis : Nat)
  | random (low high : Int)
  | requestStop
  | onStart (handler : κ)
  | onFrame (handler : κ)
  | onKey (key : String) (handler : κ)
  | onCollision (first second : FigureId) (handler : κ)
  /-- Make a deferred value that the script settles itself. -/
  | defer
  | fulfil (value : DeferredId) (result : Value)
  | reject (value : DeferredId) (error : RuntimeError)
  | peek (value : DeferredId)

def Call.Reply {κ σ : Type} : Call κ σ → Type
  | .view => Context κ
  | .inspect => String
  | .memory => σ
  | .createFigure _ => FigureId
  | .editFigure .. | .removeFigure _ | .fulfil .. | .reject .. => Bool
  | .swapImage .. | .ask _ | .wait _ | .defer => DeferredId
  | .random .. => Int
  | .onStart _ | .onFrame _ | .onKey .. => Nat
  | .onCollision .. => CollisionId
  | .peek _ => Settled
  | .remember _ | .draw _ | .playSound _ | .setAudio _ | .requestStop => Unit

/-- A script that ends with a result, fails, or makes a call and goes on. -/
inductive Script (κ σ ρ : Type) where
  | done (result : ρ)
  | fail (error : ScriptError)
  | call (c : Call κ σ) (next : c.Reply → Script κ σ ρ)

namespace Script
variable {κ σ ρ ρ' : Type}

instance : Inhabited (Script κ σ ρ) := ⟨.fail default⟩

/-- Go on with the result; a failure skips what follows. -/
def andThen : Script κ σ ρ → (ρ → Script κ σ ρ') → Script κ σ ρ'
  | .done result, next => next result
  | .fail error, _ => .fail error
  | .call c rest, next => .call c fun reply => (rest reply).andThen next

instance : Monad (Script κ σ) where
  pure := .done
  bind := andThen

def perform (c : Call κ σ) : Script κ σ c.Reply := .call c .done

def view : Script κ σ (Context κ) := perform .view
def inspect : Script κ σ String := perform .inspect
def memory : Script κ σ σ := perform .memory
def remember (memory : σ) : Script κ σ Unit := perform (.remember memory)
def createFigure (asset : String) : Script κ σ FigureId := perform (.createFigure asset)
def editFigure (figure : FigureId) (change : FigureEdit) : Script κ σ Bool :=
  perform (.editFigure figure change)
def removeFigure (figure : FigureId) : Script κ σ Bool := perform (.removeFigure figure)
def swapImage (figure : FigureId) (asset : String) : Script κ σ DeferredId :=
  perform (.swapImage figure asset)
def draw (drawing : Drawing) : Script κ σ Unit := perform (.draw drawing)
def playSound (asset : String) : Script κ σ Unit := perform (.playSound asset)
def setAudio (player : AudioPlayer) : Script κ σ Unit := perform (.setAudio player)
def ask (question : String) : Script κ σ DeferredId := perform (.ask question)
def wait (millis : Nat) : Script κ σ DeferredId := perform (.wait millis)
def random (low high : Int) : Script κ σ Int := perform (.random low high)
def requestStop : Script κ σ Unit := perform .requestStop
def onStart (handler : κ) : Script κ σ Nat := perform (.onStart handler)
def onFrame (handler : κ) : Script κ σ Nat := perform (.onFrame handler)
def onKey (key : String) (handler : κ) : Script κ σ Nat := perform (.onKey key handler)
def onCollision (first second : FigureId) (handler : κ) : Script κ σ CollisionId :=
  perform (.onCollision first second handler)
def defer : Script κ σ DeferredId := perform .defer
def fulfil (value : DeferredId) (result : Value) : Script κ σ Bool :=
  perform (.fulfil value result)
def reject (value : DeferredId) (error : RuntimeError) : Script κ σ Bool :=
  perform (.reject value error)
def peek (value : DeferredId) : Script κ σ Settled := perform (.peek value)

def discard {ρ : Type} (script : Script κ σ ρ) : Script κ σ Unit := do
  let _ ← script

def update (change : σ → σ) : Script κ σ Unit := do
  remember (change (← memory))

end Script

/-- The meaning of a program's labels in each place where a handler can stand. -/
structure Program (κ σ : Type) where
  onStart : κ → Script κ σ (Option (StartTask κ))
  onFrame : κ → Float32 → Script κ σ Unit
  onKey : κ → Script κ σ Unit
  onCollision : κ → Script κ σ Unit
  /-- Goes on with the result that a task was waiting for. -/
  onSettled : κ → Value → Script κ σ Unit
  onPoll : κ → Script κ σ Progress

end SpriteStage
