import SpriteStage.Surface.Basic

namespace SpriteStage

/-- Identifies a figure; a number is never used twice. -/
abbrev FigureId := Nat

/-- Where an axis of a figure's size came from: still the size at creation, an image, or a
script. -/
inductive SizeSource where
  | unset
  | auto
  | manual
  deriving DecidableEq, Repr, Inhabited

structure Figure where
  id : FigureId
  x : Float32
  y : Float32
  width : Float32
  height : Float32
  widthSource : SizeSource
  heightSource : SizeSource
  /-- Degrees, clockwise on the screen. -/
  rotation : Float32
  scaleX : Float32
  scaleY : Float32
  visible : Bool
  velocityX : Float32
  velocityY : Float32
  image : Option ImageHandle
  deriving DecidableEq, Inhabited

inductive FigureEdit where
  | moveTo (x y : Float32)
  | moveBy (dx dy : Float32)
  | rotateBy (degrees : Float32)
  | scaleTo (factor : Float32)
  | setSize (width height : Float32)
  | setX (x : Float32)
  | setY (y : Float32)
  | setWidth (width : Float32)
  | setHeight (height : Float32)
  | setRotation (degrees : Float32)
  | setScaleX (factor : Float32)
  | setScaleY (factor : Float32)
  | setVisible (visible : Bool)
  | setVelocityX (speed : Float32)
  | setVelocityY (speed : Float32)
  | setImage (image : Option ImageHandle)
  | applyImage (image : ImageInfo)
  deriving DecidableEq

namespace Figure

def new (id : FigureId) (width height : Float32) : Figure where
  id := id
  x := 0
  y := 0
  width := width
  height := height
  widthSource := .unset
  heightSource := .unset
  rotation := 0
  scaleX := 1
  scaleY := 1
  visible := true
  velocityX := 0
  velocityY := 0
  image := none

/-- The rectangle that collides: neither scaled nor turned. -/
def bounds (f : Figure) : Rect := ⟨f.x, f.y, f.width, f.height⟩

/-- A size set by a script is kept from now on. -/
def setWidth (width : Float32) (f : Figure) : Figure :=
  { f with width := width, widthSource := .manual }

def setHeight (height : Float32) (f : Figure) : Figure :=
  { f with height := height, heightSource := .manual }

/-- Take the natural size of an image on the axis, unless a script has set it. -/
def snapWidth (width : UInt32) (f : Figure) : Figure :=
  if f.widthSource = .manual then f else { f with width := width.toFloat32, widthSource := .auto }

def snapHeight (height : UInt32) (f : Figure) : Figure :=
  if f.heightSource = .manual then f
  else { f with height := height.toFloat32, heightSource := .auto }

def applyImage (image : ImageInfo) (f : Figure) : Figure :=
  { f with image := some image.handle }.snapWidth image.width |>.snapHeight image.height

def edit : FigureEdit → Figure → Figure
  | .moveTo x y, f => { f with x := x, y := y }
  | .moveBy dx dy, f => { f with x := f.x + dx, y := f.y + dy }
  | .rotateBy degrees, f => { f with rotation := f.rotation + degrees }
  | .scaleTo factor, f => { f with scaleX := factor, scaleY := factor }
  | .setSize width height, f => (f.setWidth width).setHeight height
  | .setX x, f => { f with x := x }
  | .setY y, f => { f with y := y }
  | .setWidth width, f => f.setWidth width
  | .setHeight height, f => f.setHeight height
  | .setRotation degrees, f => { f with rotation := degrees }
  | .setScaleX factor, f => { f with scaleX := factor }
  | .setScaleY factor, f => { f with scaleY := factor }
  | .setVisible visible, f => { f with visible := visible }
  | .setVelocityX speed, f => { f with velocityX := speed }
  | .setVelocityY speed, f => { f with velocityY := speed }
  | .setImage image, f => { f with image := image }
  | .applyImage image, f => f.applyImage image

end Figure

/-- Figures and the next free id. Ids start at one. -/
structure FigureStore where
  figures : List Figure
  nextId : Nat
  deriving DecidableEq, Inhabited

namespace FigureStore

def empty : FigureStore := ⟨[], 1⟩

/-- An empty store whose counter has not been set up. -/
def blank : FigureStore := ⟨[], 0⟩

def create (store : FigureStore) (width height : Float32) : FigureId × FigureStore :=
  let id := max store.nextId 1
  (id, ⟨store.figures ++ [Figure.new id width height], id + 1⟩)

def get? (store : FigureStore) (id : FigureId) : Option Figure :=
  store.figures.find? (·.id = id)

def contains (store : FigureStore) (id : FigureId) : Bool := (store.get? id).isSome

def modifyFirst (id : FigureId) (change : Figure → Figure) : List Figure → List Figure
  | [] => []
  | figure :: rest =>
    if figure.id = id then change figure :: rest
    else figure :: modifyFirst id change rest

/-- Change a figure; without such a figure nothing happens. -/
def modify (store : FigureStore) (id : FigureId) (change : Figure → Figure) : FigureStore :=
  { store with figures := modifyFirst id change store.figures }

def edit (store : FigureStore) (id : FigureId) (change : FigureEdit) : FigureStore :=
  store.modify id (Figure.edit change)

def remove (store : FigureStore) (id : FigureId) : FigureStore :=
  { store with figures := store.figures.eraseP (·.id = id) }

/-- Take all figures out. The ids go on counting, so that a late image of an old figure never
lands on a new one. -/
def clear (store : FigureStore) : FigureStore := { store with figures := [] }

def size (store : FigureStore) : Nat := store.figures.length

/-- Whether two figures overlap now. A figure that is gone overlaps nothing. -/
def touching (store : FigureStore) (a b : FigureId) : Bool :=
  match store.get? a, store.get? b with
  | some a, some b => a.bounds.overlaps b.bounds
  | _, _ => false

end FigureStore

variable {S : Type} [Surface S]

/-- The transform of a figure: around its centre, turned and scaled. -/
def Figure.poses (f : Figure) : List Pose :=
  let centre := f.bounds.centre
  [.save, .translate centre.1 centre.2, .rotate (f.rotation * Number.radiansPerDegree),
    .scale f.scaleX f.scaleY]

/-- The rectangle of a figure around the origin. -/
def Figure.sprite (f : Figure) : Rect := ⟨-f.width / 2, -f.height / 2, f.width, f.height⟩

def Figure.draw (f : Figure) : Draw S Unit := fun surface =>
  match f.image with
  | none => (.ok (), surface)
  | some image =>
    let posed := f.poses.foldl (fun surface change => Surface.pose change surface) surface
    let (result, drawn) := Surface.paint (.image image f.sprite) posed
    (result, Surface.pose .restore drawn)

/-- Draw the visible figures in turn. A figure that fails does not keep the others from being
drawn; the failures are handed back. -/
def drawFigures : List Figure → S → List (FigureId × RenderError) × S
  | [], surface => ([], surface)
  | figure :: rest, surface =>
    if figure.visible then
      match figure.draw surface with
      | (.ok (), surface) => drawFigures rest surface
      | (.error e, surface) =>
        let (failures, surface) := drawFigures rest surface
        ((figure.id, e) :: failures, surface)
    else drawFigures rest surface

end SpriteStage
