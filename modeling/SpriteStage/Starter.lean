import SpriteStage.Script.Basic

/-! The starter program: it asks for the player's name, steers a figure with the arrow keys, counts
a point for every space, and ten for the star, which then jumps elsewhere. -/

namespace SpriteStage.Starter

structure State where
  name : String
  score : Int
  x : Float32
  y : Float32
  deriving Inhabited

def State.start : State := ⟨"", 0, 400, 300⟩

inductive Handler where
  | askName
  | greet
  | play (player : FigureId)
  | score
  | leave
  | catchStar (star : FigureId)
  deriving DecidableEq, Repr

/-- How the program sits in a larger one: its handlers have labels there, and its state is a part
of what the larger one keeps. -/
structure Seat (κ σ : Type) where
  label : Handler → κ
  get : σ → State
  set : State → σ → σ

def Seat.alone : Seat Handler State := ⟨id, id, fun state _ => state⟩

variable {κ σ : Type}

def Seat.read (seat : Seat κ σ) : Script κ σ State := do
  return seat.get (← Script.memory)

def Seat.write (seat : Seat κ σ) (state : State) : Script κ σ Unit :=
  Script.update (seat.set state)

/-- Pixels per frame. -/
def speed : Float32 := 5

def install (seat : Seat κ σ) : Script κ σ Unit := do
  let player ← .createFigure "player.png"
  let star ← .createFigure "star.png"
  (Script.editFigure player (.moveTo 375 275)).discard
  (Script.editFigure star (.moveTo 120 420)).discard
  (Script.onStart (seat.label .askName)).discard
  (Script.onFrame (seat.label (.play player))).discard
  (Script.onKey "space" (seat.label .score)).discard
  (Script.onKey "escape" (seat.label .leave)).discard
  (Script.onCollision player star (seat.label (.catchStar star))).discard

/-- Nothing else runs until the player has a name. -/
def askName (seat : Seat κ σ) : Script κ σ (Option (StartTask κ)) := do
  let name ← .ask "What's your name?"
  return some (.after name (some (seat.label .greet)))

def greet (seat : Seat κ σ) : Value → Script κ σ Unit
  | .text name => do seat.write { ← seat.read with name := name }
  | .unit => return ()

/-- One frame's way along an axis. -/
def steer (back forth : Bool) (at₀ : Float32) : Float32 :=
  let at₁ := if back then at₀ - speed else at₀
  if forth then at₁ + speed else at₁

def play (seat : Seat κ σ) (player : FigureId) : Script κ σ Unit := do
  let stage ← .view
  let state ← seat.read
  .draw (.rect ⟨0, 0, stage.width.toFloat32, stage.height.toFloat32⟩ "#1a1a2e")
  let x := steer (stage.keyHeld "left") (stage.keyHeld "right") state.x
  let y := steer (stage.keyHeld "up") (stage.keyHeld "down") state.y
  seat.write { state with x := x, y := y }
  .draw (.circle x y 25 "#4ecca3")
  (Script.editFigure player (.moveTo (x - 25) (y - 25))).discard
  .draw (.rect ⟨10, 10, 160, 35⟩ "#16213e")
  .draw (.text ("Score: " ++ toString state.score) 20 35 "#ffffff" 20)
  if !state.name.isEmpty then
    .draw (.text ("Hi " ++ state.name ++ "! Use the arrow keys") 200 35 "#e0e6ed" 14)

def addScore (seat : Seat κ σ) (points : Int) : Script κ σ Unit := do
  let state ← seat.read
  seat.write { state with score := state.score + points }

def score (seat : Seat κ σ) : Script κ σ Unit := do
  addScore seat 1
  .playSound "coin.wav"

def catchStar (seat : Seat κ σ) (star : FigureId) : Script κ σ Unit := do
  addScore seat 10
  let stage ← .view
  let x ← .random 0 (stage.width.toNat - 50)
  let y ← .random 60 (stage.height.toNat - 50)
  (Script.editFigure star (.moveTo (.ofInt x) (.ofInt y))).discard
  .playSound "coin.wav"

/-- What a handler does where it is called without arguments. -/
def act (seat : Seat κ σ) : Handler → Script κ σ Unit
  | .score => score seat
  | .leave => .requestStop
  | .catchStar star => catchStar seat star
  | .askName | .greet | .play _ => return ()

def program : Program Handler State where
  onStart _ := askName .alone
  onFrame
    | .play player, _ => play .alone player
    | _, _ => return ()
  onKey := act .alone
  onCollision := act .alone
  onSettled _ value := greet .alone value
  onPoll _ := return .done

end SpriteStage.Starter
