import SpriteStage.Deferred.Board
import SpriteStage.Input.Basic

namespace SpriteStage

structure PromptRequest where
  question : String
  answer : DeferredId
  deriving DecidableEq, Repr

/-- One prompt is shown at a time and takes all keys; further requests wait in line. -/
structure Prompt where
  active : Bool
  buffer : String
  question : String
  answer : Option DeferredId
  caretVisible : Bool
  caretTimer : UInt32
  /-- A prompt was answered in this frame: another Enter is taken for the same key stroke. -/
  justEnded : Bool
  queue : List PromptRequest
  defaultQuestion : String
  deriving DecidableEq, Inhabited

namespace Prompt

def new (defaultQuestion : String) : Prompt :=
  ⟨false, "", "", none, true, 0, false, [], defaultQuestion⟩

def activate (request : PromptRequest) (p : Prompt) : Prompt :=
  { p with
    active := true
    buffer := ""
    question := request.question
    answer := some request.answer
    caretVisible := true
    caretTimer := 0 }

/-- Show a request, or put it at the end of the line while another one is shown. -/
def accept (request : PromptRequest) (p : Prompt) : Prompt :=
  if p.active then { p with queue := p.queue ++ [request] } else p.activate request

/-- Ask a question; an empty one is replaced by the default. -/
def request (question : String) (p : Prompt) (board : Board) : DeferredId × Prompt × Board :=
  let (answer, board) := board.add .pending
  let question := if question.isEmpty then p.defaultQuestion else question
  (answer, p.accept ⟨question, answer⟩, board)

def isControl (c : Char) : Bool := c.toNat < 32 || (127 ≤ c.toNat && c.toNat < 160)

/-- The effect of a key on the text typed so far. Backspace takes the last character away, a key
named by one printable character adds it, and other keys do nothing. -/
def typeKey (key : String) (buffer : String) : String :=
  if key = "Backspace" then String.ofList buffer.toList.dropLast
  else match key.toList with
    | [c] => if isControl c then buffer else buffer.push c
    | _ => buffer

def commit (p : Prompt) (board : Board) : InputOutcome × Prompt × Board :=
  let board := match p.answer with
    | some answer => (board.fulfil answer (.text p.buffer)).2
    | none => board
  let idle := { p with active := false, justEnded := true, buffer := "", answer := none }
  match p.queue with
  | next :: rest => (.consumed, { idle with queue := rest }.activate next, board)
  | [] => (⟨true, true⟩, idle, board)

def handleKey (key : String) (p : Prompt) (board : Board) : InputOutcome × Prompt × Board :=
  if !p.active then (.pass, p, board)
  else if key = "Enter" then p.commit board
  else (.consumed, { p with buffer := typeKey key p.buffer }, board)

/-- No longer expect an Enter that belongs to an answered prompt. -/
def clearGuard (p : Prompt) : Prompt := { p with justEnded := false }

def tickCaret (interval : UInt32) (p : Prompt) : Prompt :=
  if interval < p.caretTimer + 1 then { p with caretVisible := !p.caretVisible, caretTimer := 0 }
  else { p with caretTimer := p.caretTimer + 1 }

/-- Hide the prompt; its answer stays open. -/
def stop (p : Prompt) : Prompt := { p with active := false }

/-- Forget all requests; their answers stay open. -/
def reset (p : Prompt) : Prompt := .new p.defaultQuestion

end Prompt
end SpriteStage
