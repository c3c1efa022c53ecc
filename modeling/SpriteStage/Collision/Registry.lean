import SpriteStage.Figure.Basic

namespace SpriteStage

/-- Identifies a registration; a number is never used twice. -/
abbrev CollisionId := Nat

/-- A pair of figures with its handler, which is absent while it is lent out. -/
structure Registration (κ : Type) where
  id : CollisionId
  first : FigureId
  second : FigureId
  handler : Option κ
  deriving DecidableEq

def Registration.names {κ : Type} (r : Registration κ) (figure : FigureId) : Bool :=
  r.first = figure || r.second = figure

/-- Registrations in the order they were made, and the number of the latest. -/
structure CollisionRegistry (κ : Type) where
  entries : List (Registration κ)
  latest : CollisionId
  deriving DecidableEq

namespace CollisionRegistry
variable {κ : Type}

def empty : CollisionRegistry κ := ⟨[], 0⟩

def register (registry : CollisionRegistry κ) (first second : FigureId) (handler : κ) :
    CollisionId × CollisionRegistry κ :=
  let id := registry.latest + 1
  (id, ⟨registry.entries ++ [⟨id, first, second, some handler⟩], id⟩)

/-- Drop every registration that names a figure. -/
def purge (registry : CollisionRegistry κ) (figure : FigureId) : CollisionRegistry κ :=
  { registry with entries := registry.entries.filter (!·.names figure) }

def ids (registry : CollisionRegistry κ) : List CollisionId := registry.entries.map (·.id)

def find? (registry : CollisionRegistry κ) (id : CollisionId) : Option (Registration κ) :=
  registry.entries.find? (·.id = id)

def pair? (registry : CollisionRegistry κ) (id : CollisionId) : Option (FigureId × FigureId) :=
  (registry.find? id).map fun entry => (entry.first, entry.second)

def setHandler (id : CollisionId) (handler : Option κ) :
    List (Registration κ) → List (Registration κ)
  | [] => []
  | entry :: rest =>
    if entry.id = id then { entry with handler := handler } :: rest
    else entry :: setHandler id handler rest

def take (registry : CollisionRegistry κ) (id : CollisionId) : Option κ × CollisionRegistry κ :=
  ((registry.find? id).bind (·.handler),
    { registry with entries := setHandler id none registry.entries })

/-- Give a handler back; it is dropped when its registration is gone. -/
def restore (registry : CollisionRegistry κ) (id : CollisionId) (handler : κ) :
    CollisionRegistry κ :=
  { registry with entries := setHandler id (some handler) registry.entries }

def names (registry : CollisionRegistry κ) (figure : FigureId) : Bool :=
  registry.entries.any (·.names figure)

def clear (registry : CollisionRegistry κ) : CollisionRegistry κ := { registry with entries := [] }

def size (registry : CollisionRegistry κ) : Nat := registry.entries.length

def inspect (registry : CollisionRegistry κ) : String :=
  let entry (r : Registration κ) := "(CollisionId(" ++ toString r.id ++ "), FigureId(" ++
    toString r.first ++ "), FigureId(" ++ toString r.second ++ "))"
  "[" ++ ", ".intercalate (registry.entries.map entry) ++ "]"

end CollisionRegistry
end SpriteStage
