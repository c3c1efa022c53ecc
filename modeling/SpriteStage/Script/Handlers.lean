import SpriteStage.Input.Basic
import SpriteStage.Text.Basic

/-! Tables of registered handlers. A table is lent out while its handlers run and put back in front
of whatever they registered meanwhile. -/

namespace SpriteStage

/-- A handler with the number of its registration; a number is never used twice. -/
structure Registered (κ : Type) where
  ticket : Nat
  handler : κ
  deriving DecidableEq

/-- Handlers of the start, of every frame, and of each key by its canonical name, in the order of
registration. -/
structure Handlers (κ : Type) where
  issued : Nat
  start : List (Registered κ)
  frame : List (Registered κ)
  keys : List (String × List (Registered κ))
  deriving DecidableEq

namespace Handlers
variable {κ : Type}

def empty : Handlers κ := ⟨0, [], [], []⟩

def addStart (h : Handlers κ) (handler : κ) : Nat × Handlers κ :=
  (h.issued, { h with issued := h.issued + 1, start := h.start ++ [⟨h.issued, handler⟩] })

def addFrame (h : Handlers κ) (handler : κ) : Nat × Handlers κ :=
  (h.issued, { h with issued := h.issued + 1, frame := h.frame ++ [⟨h.issued, handler⟩] })

def ofKey (h : Handlers κ) (key : String) : List (Registered κ) := (h.keys.lookup key).getD []

def setKey (key : String) (table : List (Registered κ)) :
    List (String × List (Registered κ)) → List (String × List (Registered κ))
  | [] => [(key, table)]
  | entry :: rest => if entry.1 = key then (key, table) :: rest else entry :: setKey key table rest

/-- Register under the canonical name, so that all names of a key share one table. -/
def addKey (h : Handlers κ) (key : String) (handler : κ) : Nat × Handlers κ :=
  let name := Key.canonical key
  (h.issued, { h with
    issued := h.issued + 1
    keys := setKey name (h.ofKey name ++ [⟨h.issued, handler⟩]) h.keys })

def startCount (h : Handlers κ) : Nat := h.start.length
def frameCount (h : Handlers κ) : Nat := h.frame.length
def keyCount (h : Handlers κ) (key : String) : Nat := (h.ofKey (Key.canonical key)).length

def takeStart (h : Handlers κ) : List (Registered κ) × Handlers κ :=
  (h.start, { h with start := [] })

def takeFrame (h : Handlers κ) : List (Registered κ) × Handlers κ :=
  (h.frame, { h with frame := [] })

/-- Lend out the table of a key, named as it is stored. -/
def takeKey (h : Handlers κ) (key : String) : List (Registered κ) × Handlers κ :=
  (h.ofKey key, { h with keys := h.keys.filter (·.1 ≠ key) })

def restoreStart (h : Handlers κ) (lent : List (Registered κ)) : Handlers κ :=
  { h with start := lent ++ h.start }

def restoreFrame (h : Handlers κ) (lent : List (Registered κ)) : Handlers κ :=
  { h with frame := lent ++ h.frame }

/-- An empty table is not put back. -/
def restoreKey (h : Handlers κ) (key : String) (lent : List (Registered κ)) : Handlers κ :=
  let table := lent ++ h.ofKey key
  if table.isEmpty then h else { h with keys := setKey key table h.keys }

/-- Forget all handlers. The registrations go on counting. -/
def clear (h : Handlers κ) : Handlers κ := { h with start := [], frame := [], keys := [] }

def inspect (h : Handlers κ) : String :=
  "Handlers \x7b start: " ++ toString h.startCount ++ ", frame: " ++ toString h.frameCount ++
    ", keys: [" ++ ", ".intercalate (h.keys.map fun entry => Text.quote entry.1) ++ "] \x7d"

end Handlers
end SpriteStage
