import SpriteStage.Surface.Basic

namespace SpriteStage.Surface
variable {S T ε α : Type}

def onLeft (action : S → Except ε α × S) (surface : S) : Except ε α × (S ⊕ T) :=
  let (result, surface) := action surface
  (result, .inl surface)

def onRight (action : T → Except ε α × T) (surface : T) : Except ε α × (S ⊕ T) :=
  let (result, surface) := action surface
  (result, .inr surface)

instance [Surface S] [Surface T] : Surface (S ⊕ T) where
  size
    | .inl s => size s
    | .inr t => size t
  loadImage path := fun
    | .inl s => onLeft (loadImage path) s
    | .inr t => onRight (loadImage path) t
  solidImage width height colour := fun
    | .inl s => onLeft (solidImage width height colour) s
    | .inr t => onRight (solidImage width height colour) t
  paint shape := fun
    | .inl s => onLeft (paint shape) s
    | .inr t => onRight (paint shape) t
  paintText text x y colour textSize := fun
    | .inl s => onLeft (paintText text x y colour textSize) s
    | .inr t => onRight (paintText text x y colour textSize) t
  textWidth
    | .inl s, text, textSize => textWidth s text textSize
    | .inr t, text, textSize => textWidth t text textSize
  pose change
    | .inl s => .inl (pose change s)
    | .inr t => .inr (pose change t)
  present
    | .inl s => .inl (present s)
    | .inr t => .inr (present t)

end SpriteStage.Surface
