import SpriteStage.Asset.Loading
import SpriteStage.Collision.Registry
import SpriteStage.Deferred.Board
import SpriteStage.Input.Basic
import SpriteStage.Prompt.Basic
import SpriteStage.Script.Handlers
import SpriteStage.Settings.Basic

namespace SpriteStage

/-- What a program can see of the stage. It does not depend on what the drawing surface does with
the drawings. -/
structure Context (κ : Type) where
  figures : FigureStore
  collisions : CollisionRegistry κ
  handlers : Handlers κ
  input : InputState
  prompt : Prompt
  loads : List LoadRequest
  timers : List Timer
  resolver : AssetResolver
  settings : Settings
  width : UInt32
  height : UInt32
  /-- The time of the current frame in nanoseconds. -/
  now : Nat
  stopRequested : Bool
  deriving DecidableEq

namespace Context
variable {κ : Type}

def new (settings : Settings) : Context κ where
  figures := .empty
  collisions := .empty
  handlers := .empty
  input := .start
  prompt := .new settings.defaultPrompt
  loads := []
  timers := []
  resolver := settings.resolver
  settings := settings
  width := settings.width
  height := settings.height
  now := 0
  stopRequested := false

/-- Create a figure in the standard size; its image comes with the next frame. -/
def createFigure (c : Context κ) (asset : String) : FigureId × Context κ :=
  let (id, figures) := c.figures.create c.settings.figureWidth c.settings.figureHeight
  (id, { c with figures := figures, loads := c.loads ++ [⟨id, asset, .create⟩] })

def editFigure (c : Context κ) (id : FigureId) (change : FigureEdit) : Bool × Context κ :=
  (c.figures.contains id, { c with figures := c.figures.edit id change })

/-- Remove a figure and every collision registration that names it, and tell whether the figure was
there. -/
def removeFigure (c : Context κ) (id : FigureId) : Bool × Context κ :=
  if c.figures.contains id then
    (true, { c with figures := c.figures.remove id, collisions := c.collisions.purge id })
  else (false, c)

def touching (c : Context κ) (a b : FigureId) : Bool := c.figures.touching a b

def keyHeld (c : Context κ) (key : String) : Bool := c.input.keys.isHeld (Key.canonical key)

/-- Whether a key went down since the last frame. -/
def keyTapped (c : Context κ) (key : String) : Bool :=
  c.input.keys.isJustPressed (Key.canonical key)

def clearWorld (c : Context κ) : Context κ :=
  { c with
    figures := c.figures.clear
    collisions := c.collisions.clear
    handlers := c.handlers.clear
    input := c.input.reset
    prompt := c.prompt.reset
    stopRequested := false }

def inspect (c : Context κ) (hasSurface : Bool) : String :=
  "Context \x7b figures: " ++ toString c.figures.size ++ ", collisions: " ++
    toString c.collisions.size ++ ", handlers: " ++ c.handlers.inspect ++ ", pending_loads: " ++
    toString c.loads.length ++ ", timers: " ++ toString c.timers.length ++ ", surface: " ++
    toString hasSurface ++ " \x7d"

end Context
end SpriteStage
