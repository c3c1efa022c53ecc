import SpriteStage.Deferred.Board
import SpriteStage.Error
import SpriteStage.Figure.Basic
import SpriteStage.Files.Tree
import SpriteStage.Notice
import SpriteStage.Text.Basic

namespace SpriteStage

/-- The asset root, and folders below it that are tried when an asset is not directly there. -/
structure AssetResolver where
  root : String
  fallbacks : List String
  deriving Repr, DecidableEq, Inhabited

namespace AssetResolver

/-- Whether a trimmed path would restart at the top or step out of its folder. -/
def escapes (asset : String) : Bool :=
  asset.isEmpty || (Path.components asset).any fun part => part = "/" || part = ".."

def candidates (r : AssetResolver) (asset : String) : List String :=
  Path.join r.root asset :: r.fallbacks.map fun folder => Path.join (Path.join r.root folder) asset

/-- The first place where something is; an asset that is nowhere belongs directly below the root. -/
def resolve (r : AssetResolver) (present : String → Bool) (asset : String) :
    Except AssetError String :=
  let trimmed := Text.trim asset
  if escapes trimmed then .error (.invalidPath asset)
  else .ok (((r.candidates trimmed).find? present).getD (Path.join r.root trimmed))

end AssetResolver

/-- The first image of a new figure, or another image that a script waits for. -/
inductive LoadKind where
  | create
  | swap (done : DeferredId)
  deriving DecidableEq, Repr

structure LoadRequest where
  figure : FigureId
  asset : String
  kind : LoadKind
  deriving DecidableEq

structure Loading (S : Type) where
  figures : FigureStore
  board : Board
  surface : S
  notices : List Notice
  /-- The images that figures were given, apart from those that stand in. -/
  applied : List (FigureId × ImageInfo)

/-- Where images are looked for, and the colour of one that stands in. -/
structure LoadRules where
  resolver : AssetResolver
  present : String → Bool
  standIn : Colour

namespace Loading
variable {S : Type} [Surface S]

def report (kind : LoadKind) (outcome : Settled) (st : Loading S) : Loading S :=
  match kind with
  | .create => st
  | .swap done => { st with board := (st.board.settle done outcome).2 }

def note (notice : Notice) (st : Loading S) : Loading S :=
  { st with notices := st.notices ++ [notice] }

/-- The size of a stand-in: a figure's size in whole pixels. -/
def wholePixels (length : Float32) : UInt32 := (Number.wholeFromOne length).toUInt32

/-- Give a figure an image of one colour; its size stays. -/
def standIn (rules : LoadRules) (figure : Figure) (asset : String) (st : Loading S) :
    Loading S :=
  match Surface.solidImage (wholePixels figure.width) (wholePixels figure.height) rules.standIn
      st.surface with
  | (.ok handle, surface) =>
    { st with
      surface := surface
      figures := st.figures.edit figure.id (.setImage (some handle)) }
  | (.error e, surface) => note (.standInFailed asset e) { st with surface := surface }

def load (rules : LoadRules) (asset : String) (surface : S) : Except AssetError ImageInfo × S :=
  match rules.resolver.resolve rules.present asset with
  | .error e => (.error e, surface)
  | .ok path => Surface.loadImage path surface

/-- Complete one load. Without its figure nothing is loaded. -/
def completeOne (rules : LoadRules) (st : Loading S) (request : LoadRequest) : Loading S :=
  match st.figures.get? request.figure with
  | none => st.report request.kind (.rejected (.asset (.missingFigure request.figure)))
  | some figure =>
    match load rules request.asset st.surface with
    | (.ok image, surface) =>
      { st with
        surface := surface
        figures := st.figures.edit request.figure (.applyImage image)
        applied := st.applied ++ [(request.figure, image)] }.report
        request.kind (.fulfilled .unit)
    | (.error e, surface) =>
      (standIn rules figure request.asset
        (note (.imageFailed request.asset e) { st with surface := surface })).report
        request.kind (.rejected (.asset e))

def complete (rules : LoadRules) (requests : List LoadRequest) (st : Loading S) : Loading S :=
  requests.foldl (completeOne rules) st

end Loading
end SpriteStage
