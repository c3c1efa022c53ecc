import SpriteStage.Figure.Basic

namespace SpriteStage

inductive Level where
  | info
  | warn
  | error
  deriving DecidableEq, Repr

def Level.name : Level → String
  | .info => "info"
  | .warn => "warn"
  | .error => "error"

/-- The drawing calls of a script, and the clearing of the stage. -/
inductive DrawCall where
  | rect
  | circle
  | line
  | text
  | clear
  deriving DecidableEq, Repr

def DrawCall.name : DrawCall → String
  | .rect => "draw_rect"
  | .circle => "draw_circle"
  | .line => "draw_line"
  | .text => "draw_text"
  | .clear => "clear"

inductive Notice where
  | surfaceAttached (width height : UInt32) (listener : Nat)
  | surfaceMissing
  | started (clock : String)
  | stopped
  | reset
  | startHandlerFailed (error : ScriptError)
  | scriptFailed (error : ScriptError)
  | cannotSwap (figure : FigureId)
  | drawFailed (call : DrawCall) (error : RenderError)
  | figureFailed (figure : FigureId) (error : RenderError)
  | promptFailed (error : RenderError)
  | soundFailed (path : String) (error : AssetError)
  | imageFailed (asset : String) (error : AssetError)
  | standInFailed (asset : String) (error : AssetError)
  deriving DecidableEq

namespace Notice

def level : Notice → Level
  | .surfaceAttached .. | .started _ | .stopped | .reset => .info
  | .surfaceMissing | .startHandlerFailed _ | .scriptFailed _ => .error
  | _ => .warn

def message : Notice → String
  | .surfaceAttached width height listener =>
    "Surface attached (" ++ toString width ++ "x" ++ toString height ++ "), input listener " ++
      toString listener
  | .surfaceMissing => "Cannot start: no drawing surface attached"
  | .started clock => "Game started at " ++ clock
  | .stopped => "Game stopped"
  | .reset => "Game reset"
  | .startHandlerFailed error => "Error in start handler: " ++ error.message
  | .scriptFailed error => "Script error, stopping: " ++ error.message
  | .cannotSwap figure => "Cannot swap image: no figure #" ++ toString figure
  | .drawFailed call error => call.name ++ " failed: " ++ error.message
  | .figureFailed figure error =>
    "drawing figure #" ++ toString figure ++ " failed: " ++ error.message
  | .promptFailed error => "drawing prompt failed: " ++ error.message
  | .soundFailed path error =>
    "Sound could not be played: " ++ path ++ " (" ++ error.message ++ ")"
  | .imageFailed asset error =>
    "Image could not be loaded: " ++ asset ++ " (" ++ error.message ++ ")"
  | .standInFailed asset error => "Placeholder for " ++ asset ++ " failed: " ++ error.message

end Notice
end SpriteStage
