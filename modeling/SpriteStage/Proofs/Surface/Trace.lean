import SpriteStage.Geometry.Affine
import SpriteStage.Proofs.Surface.Alike

namespace SpriteStage

/-- A call to a surface, with its failure if it failed. -/
inductive Attempt where
  | loaded (path : String) (failure : Option AssetError)
  | made (width height : UInt32) (colour : Colour) (failure : Option AssetError)
  | painted (shape : Shape) (failure : Option RenderError)
  | posed (change : Pose)
  | presented
  deriving DecidableEq

def failure? {ε α : Type} : Except ε α → Option ε
  | .ok _ => none
  | .error e => some e

def Attempt.image? : Attempt → Option (ImageHandle × Rect)
  | .painted (.image image area) _ => some (image, area)
  | _ => none

/-- A call that saves the transform or brings the saved one back. -/
def Attempt.bracket? : Attempt → Option Pose
  | .posed .save => some .save
  | .posed .restore => some .restore
  | _ => none

def Attempt.unfailing : Attempt → Attempt
  | .loaded path _ => .loaded path none
  | .made width height colour _ => .made width height colour none
  | .painted shape _ => .painted shape none
  | other => other

/-- A surface with a trace of the calls that it gets. It has no text of its own. -/
structure Traced (S : Type) where
  surface : S
  trace : List Attempt

namespace Traced
variable {S : Type} [Surface S]

instance : Surface (Traced S) where
  size s := Surface.size s.surface
  loadImage path := fun s =>
    let (result, surface) := Surface.loadImage path s.surface
    (result, ⟨surface, s.trace ++ [.loaded path (failure? result)]⟩)
  solidImage width height colour := fun s =>
    let (result, surface) := Surface.solidImage width height colour s.surface
    (result, ⟨surface, s.trace ++ [.made width height colour (failure? result)]⟩)
  paint shape := fun s =>
    let (result, surface) := Surface.paint shape s.surface
    (result, ⟨surface, s.trace ++ [.painted shape (failure? result)]⟩)
  textWidth s := Surface.textWidth s.surface
  pose change s := ⟨Surface.pose change s.surface, s.trace ++ [.posed change]⟩
  present s := ⟨Surface.present s.surface, s.trace ++ [.presented]⟩

theorem paint_traced (shape : Shape) (s : Traced S) : Surface.paint shape s =
    ((Surface.paint shape s.surface).1, ⟨(Surface.paint shape s.surface).2,
      s.trace ++ [.painted shape (failure? (Surface.paint shape s.surface).1)]⟩) := rfl

end Traced

/-- The transform that images are drawn with, on top of those that are saved. -/
structure PoseStack where
  current : Affine
  saved : List Affine

namespace PoseStack

def change (p : PoseStack) : Pose → PoseStack
  | .save => { p with saved := p.current :: p.saved }
  | .restore =>
    match p.saved with
    | [] => p
    | last :: rest => ⟨last, rest⟩
  | .translate dx dy => { p with current := p.current.translate dx dy }
  | .rotate radians => { p with current := p.current.rotate radians }
  | .scale sx sy => { p with current := p.current.scale sx sy }

def follow (p : PoseStack) : Attempt → PoseStack
  | .posed change => p.change change
  | _ => p

def after (p : PoseStack) (calls : List Attempt) : PoseStack := calls.foldl follow p

/-- The images that are drawn, each with the transforms it is drawn with. -/
def sights (p : PoseStack) : List Attempt → List ((ImageHandle × Rect) × PoseStack)
  | [] => []
  | call :: rest => call.image?.toList.map (·, p) ++ (p.follow call).sights rest

theorem after_append (p : PoseStack) (first second : List Attempt) :
    p.after (first ++ second) = (p.after first).after second :=
  List.foldl_append ..

theorem sights_append (p : PoseStack) (first second : List Attempt) :
    p.sights (first ++ second) = p.sights first ++ (p.after first).sights second := by
  induction first generalizing p with
  | nil => rfl
  | cons call rest ih => simp only [List.cons_append, sights, ih, List.append_assoc, after,
      List.foldl_cons]

end PoseStack
end SpriteStage
