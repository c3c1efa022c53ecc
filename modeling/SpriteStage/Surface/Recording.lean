import SpriteStage.Files.Tree
import SpriteStage.Surface.Basic

namespace SpriteStage

inductive DrawCommand where
  | shape (shape : Shape)
  | text (text : String) (x y : Float32) (colour : Colour) (size : Float32)
  | pose (change : Pose)
  | present
  deriving DecidableEq

structure SolidImage where
  handle : ImageHandle
  width : UInt32
  height : UInt32
  colour : Colour
  deriving DecidableEq

/-- The images that can be loaded are named by the last components of their paths. -/
structure RecordingSurface where
  width : UInt32
  height : UInt32
  images : List (String × UInt32 × UInt32)
  nextHandle : ImageHandle
  /-- How many saved transforms have not been restored. -/
  depth : Nat
  commands : List DrawCommand
  solids : List SolidImage
  loads : List String
  deriving Inhabited

namespace RecordingSurface

def ofSize (width height : UInt32) : RecordingSurface := ⟨width, height, [], 1, 0, [], [], []⟩

/-- Make a path loadable; a second image of the same path takes the place of the first. -/
def withImage (s : RecordingSurface) (path : String) (width height : UInt32) :
    RecordingSurface :=
  let others := s.images.filter fun image => Path.components image.1 ≠ Path.components path
  { s with images := others ++ [(path, width, height)] }

def record (command : DrawCommand) (s : RecordingSurface) : RecordingSurface :=
  { s with commands := s.commands ++ [command] }

def clearLog (s : RecordingSurface) : RecordingSurface := { s with commands := [] }

def texts (s : RecordingSurface) : List String :=
  s.commands.filterMap fun
    | .text text .. => some text
    | _ => none

def imagesDrawn (s : RecordingSurface) : List ImageHandle :=
  s.commands.filterMap fun
    | .shape (.image handle _) => some handle
    | _ => none

def presented (s : RecordingSurface) : Nat := s.commands.count .present

def filledRects (s : RecordingSurface) : Nat :=
  s.commands.countP fun
    | .shape (.rect ..) => true
    | _ => false

def load (path : String) (s : RecordingSurface) : Except AssetError ImageInfo × RecordingSurface :=
  let s := { s with loads := s.loads ++ [path] }
  match s.images.find? fun image => Path.endsWith path image.1 with
  | some (_, width, height) =>
    (.ok ⟨s.nextHandle, width, height⟩, { s with nextHandle := s.nextHandle + 1 })
  | none => (.error (.notFound path), s)

def makeSolid (width height : UInt32) (colour : Colour) (s : RecordingSurface) :
    ImageHandle × RecordingSurface :=
  (s.nextHandle, { s with
    nextHandle := s.nextHandle + 1
    solids := s.solids ++ [⟨s.nextHandle, width, height, colour⟩] })

/-- Restoring more often than saving leaves the depth at zero. -/
def changePose (change : Pose) (s : RecordingSurface) : RecordingSurface :=
  let depth := match change with
    | .save => s.depth + 1
    | .restore => s.depth - 1
    | _ => s.depth
  record (.pose change) { s with depth := depth }

instance : Surface RecordingSurface where
  size s := (s.width, s.height)
  loadImage path := fun s => s.load path
  solidImage width height colour := fun s =>
    let (handle, s) := s.makeSolid width height colour
    (.ok handle, s)
  paint shape := fun s => (.ok (), s.record (.shape shape))
  paintText text x y colour size := fun s => (.ok (), s.record (.text text x y colour size))
  pose change s := s.changePose change
  present s := s.record .present

end RecordingSurface
end SpriteStage
