import SpriteStage.Settings.Basic

namespace SpriteStage

inductive SettingsError where
  | unreadable (path : String) (cause : FileError)
  | invalid (path : String) (problem : Json.Problem)

def SettingsError.message : SettingsError → String
  | .unreadable path cause => "could not read config " ++ path ++ ": " ++ cause.message
  | .invalid path _ => "invalid config " ++ path

namespace Settings

def projectFile : String := "playfield.json"

def userFile (folder : String) : String := Path.join (Path.join folder "playfield") "config.json"

def load (tree : FileTree) (path : String) : Except SettingsError Settings :=
  match tree.readText path with
  | .error cause => .error (.unreadable path cause)
  | .ok text => match parse text with
    | .error problem => .error (.invalid path problem)
    | .ok settings => .ok settings

/-- The file to load, if any: only a file that was named has to exist. -/
def source? (tree : FileTree) (project userFolder : String) (named : Option String) :
    Option String :=
  named <|> [Path.join project projectFile, userFile userFolder].find? tree.isFile

/-- A relative asset root starts at the project. -/
def anchor (project : String) (s : Settings) : Settings :=
  if Path.isAbsolute s.assetRoot then s
  else { s with assetRoot := Path.join project s.assetRoot }

def discover (tree : FileTree) (project userFolder : String) (named : Option String) :
    Except SettingsError Settings := do
  let settings ← match source? tree project userFolder named with
    | some path => load tree path
    | none => pure standard
  return anchor project settings

end Settings
end SpriteStage
