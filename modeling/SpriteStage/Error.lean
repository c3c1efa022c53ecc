import SpriteStage.Text.Basic

namespace SpriteStage

structure ScriptError where
  message : String
  deriving Repr, DecidableEq, Inhabited

inductive AssetError where
  | invalidPath (asset : String)
  | notFound (path : String)
  | load (path : String) (reason : String)
  | missingFigure (figure : Nat)
  | playback (path : String) (reason : String)
  deriving Repr, DecidableEq, Inhabited

def AssetError.message : AssetError → String
  | .invalidPath asset => "asset path not allowed: " ++ asset
  | .notFound path => "asset not found: " ++ path
  | .load path reason => "could not load " ++ path ++ ": " ++ reason
  | .missingFigure figure => "no figure with id " ++ toString figure
  | .playback path reason => "audio playback failed for " ++ path ++ ": " ++ reason

structure RenderError where
  reason : String
  deriving Repr, DecidableEq, Inhabited

def RenderError.message (e : RenderError) : String := "render error: " ++ e.reason

/-- A failure that an engine call returns or a deferred value is rejected with. -/
inductive RuntimeError where
  | script (error : ScriptError)
  | asset (error : AssetError)
  | surfaceMissing
  deriving Repr, DecidableEq, Inhabited

def RuntimeError.message : RuntimeError → String
  | .script error => "script error: " ++ error.message
  | .asset error => error.message
  | .surfaceMissing => "no drawing surface attached"

/-- The structure of an asset error, as diagnostics print it. -/
def AssetError.inspect : AssetError → String
  | .invalidPath asset => "InvalidPath(" ++ Text.quote asset ++ ")"
  | .notFound path => "NotFound(" ++ Text.quote path ++ ")"
  | .load path reason =>
    "Load \x7b path: " ++ Text.quote path ++ ", reason: " ++ Text.quote reason ++ " \x7d"
  | .missingFigure figure => "MissingFigure(" ++ toString figure ++ ")"
  | .playback path reason =>
    "Playback \x7b path: " ++ Text.quote path ++ ", reason: " ++ Text.quote reason ++ " \x7d"

def RuntimeError.inspect : RuntimeError → String
  | .script error => "Script(ScriptError \x7b message: " ++ Text.quote error.message ++ " \x7d)"
  | .asset error => "Asset(" ++ error.inspect ++ ")"
  | .surfaceMissing => "SurfaceMissing"

end SpriteStage
