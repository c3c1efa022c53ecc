import SpriteStage.Geometry.Affine
import SpriteStage.Text.Letters

namespace SpriteStage

/-- A key with the host's name for it, or the mouse in window coordinates. -/
inductive InputEvent where
  | keyDown (key : String) (repeated : Bool)
  | keyUp (key : String)
  | mouseMove (x y : Float32)
  | mouseDown (x y : Float32)
  | mouseUp (x y : Float32)
  deriving DecidableEq

/-- Whether the host skips its own use of an event, and whether it takes the keyboard back because
the last prompt was answered. -/
structure InputOutcome where
  suppressDefault : Bool
  releaseFocus : Bool
  deriving DecidableEq, Repr, Inhabited

def InputOutcome.pass : InputOutcome := ⟨false, false⟩
def InputOutcome.consumed : InputOutcome := ⟨true, false⟩

namespace Key

def aliases : List (String × String) := [
  ("ArrowLeft", "left"), ("ArrowRight", "right"), ("ArrowUp", "up"), ("ArrowDown", "down"),
  (" ", "space"), ("Enter", "enter"), ("Escape", "escape")]

def canonical (raw : String) : String := (aliases.lookup raw).getD (Text.lower raw)

/-- Whether the host's own use of a key is suppressed in a game: arrows, space, small letters and
digits. The name is canonical. -/
def isGameplay (key : String) : Bool :=
  ["left", "right", "up", "down", "space"].contains key ||
    match key.toList with
    | [c] => ('a' ≤ c && c ≤ 'z') || ('0' ≤ c && c ≤ '9')
    | _ => false

end Key

/-- Keys by canonical name: those held down, those pressed since the last frame, and the latest. -/
structure KeyState where
  held : List String
  justPressed : List String
  lastPressed : String
  deriving DecidableEq, Repr, Inhabited

namespace KeyState

def empty : KeyState := ⟨[], [], ""⟩

def press (key : String) (keys : KeyState) : KeyState where
  held := keys.held.insert key
  justPressed := keys.justPressed.insert key
  lastPressed := key

def release (key : String) (keys : KeyState) : KeyState :=
  { keys with held := keys.held.filter (· ≠ key) }

def isHeld (keys : KeyState) (key : String) : Bool := keys.held.contains key

def isJustPressed (keys : KeyState) (key : String) : Bool := keys.justPressed.contains key

def clearJustPressed (keys : KeyState) : KeyState := { keys with justPressed := [] }

end KeyState

structure MouseState where
  x : Float32
  y : Float32
  down : Bool
  deriving DecidableEq, Inhabited

def MouseState.start : MouseState := ⟨0, 0, false⟩

/-- Where the stage is shown in the window, and its own size. -/
structure Placement where
  display : Rect
  width : Float32
  height : Float32
  deriving DecidableEq, Inhabited

namespace Placement

def unscaled (width height : UInt32) : Placement :=
  ⟨⟨0, 0, width.toFloat32, height.toFloat32⟩, width.toFloat32, height.toFloat32⟩

def withDisplay (p : Placement) (display : Rect) : Placement := { p with display := display }

/-- The stage pixel shown at a point of the window, if the stage is shown there. -/
def toStage? (p : Placement) (x y : Float32) : Option (Float32 × Float32) :=
  let d := p.display
  if d.width ≤ 0 || d.height ≤ 0 then none
  else if x < d.x || y < d.y || x ≥ d.x + d.width || y ≥ d.y + d.height then none
  else some ((x - d.x) * (p.width / d.width), (y - d.y) * (p.height / d.height))

end Placement

/-- A listener is attached while it has a number; numbers count up from one. -/
structure InputState where
  keys : KeyState
  mouse : MouseState
  placement : Placement
  listener : Option Nat
  listenersMade : Nat
  deriving DecidableEq, Inhabited

namespace InputState

def start : InputState := ⟨.empty, .start, .unscaled 0 0, none, 0⟩

def attach (placement : Placement) (s : InputState) : InputState :=
  { s with
    placement := placement
    listener := some (s.listenersMade + 1)
    listenersMade := s.listenersMade + 1 }

def detach (s : InputState) : InputState := { s with listener := none }

def isAttached (s : InputState) : Bool := s.listener.isSome

def setDisplay (display : Rect) (s : InputState) : InputState :=
  { s with placement := s.placement.withDisplay display }

def atPoint (x y : Float32) (act : Float32 → Float32 → MouseState → MouseState)
    (s : InputState) : InputState :=
  match s.placement.toStage? x y with
  | some (x, y) => { s with mouse := act x y s.mouse }
  | none => s

/-- A mouse event outside of the stage changes nothing, and neither does a key. -/
def applyMouse (event : InputEvent) (s : InputState) : InputState :=
  match event with
  | .mouseMove x y => s.atPoint x y fun x y mouse => { mouse with x := x, y := y }
  | .mouseDown x y => s.atPoint x y fun _ _ mouse => { mouse with down := true }
  | .mouseUp x y => s.atPoint x y fun _ _ mouse => { mouse with down := false }
  | .keyDown .. | .keyUp _ => s

/-- Forget keys and mouse; listener and placement stay. -/
def reset (s : InputState) : InputState := { s with keys := .empty, mouse := .start }

end InputState
end SpriteStage
