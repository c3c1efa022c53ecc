import SpriteStage.Surface.Recording

namespace SpriteStage

inductive CallKind where
  | clear
  | fillRect
  | strokeRect
  | fillCircle
  | line
  | drawImage
  | loadImage
  | solidImage
  deriving DecidableEq, Repr

def CallKind.name : CallKind → String
  | .clear => "clear"
  | .fillRect => "fill_rect"
  | .strokeRect => "stroke_rect"
  | .fillCircle => "fill_circle"
  | .line => "line"
  | .drawImage => "draw_image"
  | .loadImage => "load_image"
  | .solidImage => "placeholder_image"

def CallKind.all : List CallKind :=
  [.clear, .fillRect, .strokeRect, .fillCircle, .line, .drawImage, .loadImage, .solidImage]

def CallKind.named? (name : String) : Option CallKind := all.find? (·.name = name)

def Shape.kind : Shape → CallKind
  | .clear _ => .clear
  | .rect .. => .fillRect
  | .stroke .. => .strokeRect
  | .circle .. => .fillCircle
  | .line .. => .line
  | .image .. => .drawImage

/-- A kind of call that is not listed never runs out. -/
structure QuotaSurface where
  record : RecordingSurface
  quotas : List (CallKind × Nat)

namespace QuotaSurface

def reason (kind : CallKind) : String := "forced " ++ kind.name

/-- Use up one call; nothing is left of a kind whose quota is spent. -/
def spend? (kind : CallKind) (s : QuotaSurface) : Option QuotaSurface :=
  match s.quotas.lookup kind with
  | none => some s
  | some 0 => none
  | some (left + 1) =>
    some { s with quotas := (kind, left) :: s.quotas.filter (·.1 ≠ kind) }

def onRecord (f : RecordingSurface → RecordingSurface) (s : QuotaSurface) : QuotaSurface :=
  { s with record := f s.record }

instance : Surface QuotaSurface where
  size s := (s.record.width, s.record.height)
  loadImage path := fun s =>
    match s.spend? .loadImage with
    | none => (.error (.load path (reason .loadImage)), s)
    | some s =>
      let (result, record) := s.record.load path
      (result, { s with record := record })
  solidImage width height colour := fun s =>
    match s.spend? .solidImage with
    | none => (.error (.load "<placeholder>" (reason .solidImage)), s)
    | some s =>
      let (handle, record) := s.record.makeSolid width height colour
      (.ok handle, { s with record := record })
  paint shape := fun s =>
    match s.spend? shape.kind with
    | none => (.error ⟨reason shape.kind⟩, s)
    | some s => (.ok (), s.onRecord (.record (.shape shape)))
  pose change s := s.onRecord (.changePose change)

end QuotaSurface
end SpriteStage
