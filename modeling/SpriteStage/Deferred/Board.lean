import SpriteStage.Error

namespace SpriteStage

inductive Value where
  | unit
  | text (s : String)
  deriving DecidableEq, Repr, Inhabited

inductive Settled where
  | pending
  | fulfilled (value : Value)
  | rejected (error : RuntimeError)
  deriving DecidableEq, Repr, Inhabited

/-- The number of a place on the board. -/
abbrev DeferredId := Nat

/-- Every deferred value has one place on a board, and only its first settlement counts. -/
structure Board where
  slots : List Settled
  deriving DecidableEq, Inhabited

namespace Board

def empty : Board := ⟨[]⟩

def add (board : Board) (state : Settled) : DeferredId × Board :=
  (board.slots.length, ⟨board.slots ++ [state]⟩)

def state (board : Board) (id : DeferredId) : Settled := board.slots.getD id .pending

def isPending (board : Board) (id : DeferredId) : Bool := board.state id = .pending

/-- Settle a value, and tell whether it was still pending. -/
def settle (board : Board) (id : DeferredId) (outcome : Settled) : Bool × Board :=
  if board.slots[id]? = some .pending then (true, ⟨board.slots.set id outcome⟩)
  else (false, board)

def fulfil (board : Board) (id : DeferredId) (value : Value) : Bool × Board :=
  board.settle id (.fulfilled value)

def reject (board : Board) (id : DeferredId) (error : RuntimeError) : Bool × Board :=
  board.settle id (.rejected error)

end Board

def Settled.value? : Settled → Option Value
  | .fulfilled value => some value
  | _ => none

def Value.inspect : Value → String
  | .unit => "()"
  | .text s => Text.quote s

def Settled.inspect : Settled → String
  | .pending => "Deferred(Pending)"
  | .fulfilled value => "Deferred(Fulfilled(" ++ value.inspect ++ "))"
  | .rejected error => "Deferred(Rejected(" ++ error.inspect ++ "))"

structure Timer where
  deadline : Nat
  done : DeferredId
  deriving DecidableEq, Inhabited

namespace Timer

def isDue (now : Nat) (t : Timer) : Bool := t.deadline ≤ now

def schedule (timers : List Timer) (board : Board) (deadline : Nat) :
    DeferredId × List Timer × Board :=
  let (done, board) := board.add .pending
  (done, timers ++ [⟨deadline, done⟩], board)

/-- Fulfil the timers that are due and keep the others in order. -/
def fire (timers : List Timer) (board : Board) (now : Nat) : List Timer × Board :=
  (timers.filter (!·.isDue now),
    (timers.filter (·.isDue now)).foldl (fun board t => (board.fulfil t.done .unit).2) board)

end Timer

def nanosOfMillis (millis : Nat) : Nat := millis * 1000000

end SpriteStage
