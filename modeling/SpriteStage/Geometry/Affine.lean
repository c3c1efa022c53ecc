namespace SpriteStage

structure Rect where
  x : Float32
  y : Float32
  width : Float32
  height : Float32
  deriving DecidableEq, Inhabited

namespace Rect

def centre (r : Rect) : Float32 × Float32 := (r.x + r.width / 2, r.y + r.height / 2)

/-- Whether two rectangles share an area; a common edge is not enough. -/
def overlaps (a b : Rect) : Bool :=
  a.x < b.x + b.width && a.x + a.width > b.x && a.y < b.y + b.height && a.y + a.height > b.y

end Rect

/-- The map `(x, y) ↦ (a x + c y + e, b x + d y + f)`. -/
structure Affine where
  a : Float32
  b : Float32
  c : Float32
  d : Float32
  e : Float32
  f : Float32
  deriving DecidableEq

namespace Affine

def identity : Affine := ⟨1, 0, 0, 1, 0, 0⟩

/-- Apply the second map first, so that it acts in the frame of the first one. -/
def after (m n : Affine) : Affine where
  a := m.a * n.a + m.c * n.b
  b := m.b * n.a + m.d * n.b
  c := m.a * n.c + m.c * n.d
  d := m.b * n.c + m.d * n.d
  e := m.a * n.e + m.c * n.f + m.e
  f := m.b * n.e + m.d * n.f + m.f

def translate (m : Affine) (dx dy : Float32) : Affine := m.after { identity with e := dx, f := dy }

def rotate (m : Affine) (radians : Float32) : Affine :=
  let sine := radians.sin
  let cosine := radians.cos
  m.after ⟨cosine, sine, -sine, cosine, 0, 0⟩

def scale (m : Affine) (sx sy : Float32) : Affine := m.after { identity with a := sx, d := sy }

def apply (m : Affine) (x y : Float32) : Float32 × Float32 :=
  (m.a * x + m.c * y + m.e, m.b * x + m.d * y + m.f)

/-- The length of a vector, rounded once; an infinite side makes it infinite. -/
def hypotenuse (x y : Float32) : Float32 :=
  if x.isInf || y.isInf then Float32.ofBits 0x7F800000
  else (x.toFloat * x.toFloat + y.toFloat * y.toFloat).sqrt.toFloat32

def decompose (m : Affine) : Float32 × Float32 × Float32 :=
  let scaleX := hypotenuse m.a m.b
  let determinant := m.a * m.d - m.b * m.c
  let scaleY := if scaleX == 0 then 0 else determinant / scaleX
  (m.b.atan2 m.a, scaleX, scaleY)

end Affine
end SpriteStage
