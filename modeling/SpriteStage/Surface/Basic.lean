import SpriteStage.Error
import SpriteStage.Glyph.Text

namespace SpriteStage

/-- The number of an image in the store of the surface that made it. -/
abbrev ImageHandle := Nat

structure ImageInfo where
  handle : ImageHandle
  width : UInt32
  height : UInt32
  deriving DecidableEq, Repr, Inhabited

inductive Shape where
  | clear (colour : Colour)
  | rect (area : Rect) (colour : Colour)
  | stroke (area : Rect) (colour : Colour) (lineWidth : Float32)
  | circle (x y radius : Float32) (colour : Colour)
  | line (x₁ y₁ x₂ y₂ : Float32) (colour : Colour) (lineWidth : Float32)
  | image (handle : ImageHandle) (area : Rect)
  deriving DecidableEq

/-- A change of the transform that images are drawn with. -/
inductive Pose where
  | save
  | restore
  | translate (dx dy : Float32)
  | rotate (radians : Float32)
  | scale (sx sy : Float32)
  deriving DecidableEq

/-- A drawing action: it changes the surface and may fail on the way. -/
abbrev Draw (S α : Type) := ExceptT RenderError (StateM S) α

abbrev MakeImage (S α : Type) := ExceptT AssetError (StateM S) α

/-- Painting and loading may fail; nothing else does. -/
class Surface (S : Type) where
  size : S → UInt32 × UInt32
  loadImage (path : String) : MakeImage S ImageInfo
  solidImage (width height : UInt32) (colour : Colour) : MakeImage S ImageHandle
  paint (shape : Shape) : Draw S Unit
  /-- Text above a baseline; unless the surface has its own, in the bitmap font. -/
  paintText (text : String) (x y : Float32) (colour : Colour) (size : Float32) : Draw S Unit :=
    Glyph.drawLine (fun area colour => paint (.rect area colour)) text x y colour size
  textWidth (surface : S) (text : String) (size : Float32) : Float32 := Glyph.textWidth text size
  pose (change : Pose) (surface : S) : S
  present (surface : S) : S := surface

end SpriteStage
