import SpriteStage.Prompt.Overlay
import SpriteStage.Proofs.Deferred.Board

namespace SpriteStage

/-- A call to a prompt. Taking the guard and clearing it leave the same prompt behind. -/
inductive PromptCall (S : Type) where
  | request (question : String)
  | key (name : String)
  | takeGuard
  | clearGuard
  | tickCaret (interval : UInt32)
  | draw (style : PromptStyle) (interval : UInt32) (surface : S)
  | stop
  | reset

namespace PromptCall
variable {S : Type}

def isCosmetic : PromptCall S → Bool
  | .takeGuard | .clearGuard | .tickCaret _ | .draw .. => true
  | _ => false

def staysOn : PromptCall S → Bool
  | .key name => name ≠ "Enter"
  | .stop | .reset => false
  | _ => true

def keepsLine : PromptCall S → Bool
  | .stop | .reset => false
  | _ => true

def question? : PromptCall S → Option String
  | .request question => some question
  | _ => none

end PromptCall

namespace Prompt

def retouch (caretVisible : Bool) (caretTimer : UInt32) (justEnded : Bool) (p : Prompt) : Prompt :=
  { p with caretVisible := caretVisible, caretTimer := caretTimer, justEnded := justEnded }

theorem tickCaret_retouch (p : Prompt) (interval : UInt32) :
    ∃ caretVisible caretTimer justEnded,
      p.tickCaret interval = p.retouch caretVisible caretTimer justEnded := by
  unfold tickCaret
  split <;> exact ⟨_, _, _, rfl⟩

theorem draw_prompt {S : Type} [Surface S] (p : Prompt) (style : PromptStyle) (interval : UInt32)
    (surface : S) : (p.draw style interval surface).2.1 =
      if p.active then p.tickCaret interval else p := by
  unfold draw
  cases p.active <;> rfl

/-- The request of the latest answer to come, then those that wait behind it. -/
def requests (p : Prompt) : List PromptRequest :=
  (p.answer.toList.map fun answer => ⟨p.question, answer⟩) ++ p.queue

/-- A prompt is shown as long as some request is not answered. -/
structure Attended (p : Prompt) : Prop where
  shown : p.active = p.answer.isSome
  line : p.answer = none → p.queue = []

end Prompt

/-- A prompt, the board of its answers, and the answers in the order of their requests. -/
structure PromptDesk where
  prompt : Prompt
  board : Board
  handed : List DeferredId

namespace PromptDesk

def new (defaultQuestion : String) (board : Board) : PromptDesk :=
  ⟨.new defaultQuestion, board, []⟩

def request (question : String) (desk : PromptDesk) : PromptDesk :=
  let (answer, prompt, board) := desk.prompt.request question desk.board
  ⟨prompt, board, desk.handed ++ [answer]⟩

def key (name : String) (desk : PromptDesk) : InputOutcome × PromptDesk :=
  let (outcome, prompt, board) := desk.prompt.handleKey name desk.board
  (outcome, { desk with prompt := prompt, board := board })

variable {S : Type} [Surface S]

def serve (desk : PromptDesk) : PromptCall S → PromptDesk
  | .request question => desk.request question
  | .key name => (desk.key name).2
  | .takeGuard | .clearGuard => { desk with prompt := desk.prompt.clearGuard }
  | .tickCaret interval => { desk with prompt := desk.prompt.tickCaret interval }
  | .draw style interval surface =>
    { desk with prompt := (desk.prompt.draw style interval surface).2.1 }
  | .stop => { desk with prompt := desk.prompt.stop }
  | .reset => { desk with prompt := desk.prompt.reset }

def after (desk : PromptDesk) (calls : List (PromptCall S)) : PromptDesk := calls.foldl serve desk

@[simp] theorem after_nil (desk : PromptDesk) : desk.after ([] : List (PromptCall S)) = desk := rfl

@[simp] theorem after_concat (desk : PromptDesk) (calls : List (PromptCall S))
    (call : PromptCall S) : desk.after (calls ++ [call]) = (desk.after calls).serve call := by
  simp [after]

def nextId (desk : PromptDesk) : DeferredId := desk.board.slots.length

def worded (desk : PromptDesk) (question : String) : String :=
  if question.isEmpty then desk.prompt.defaultQuestion else question

theorem request_hidden {desk : PromptDesk} (hidden : desk.prompt.active = false)
    (question : String) : desk.request question =
      ⟨desk.prompt.activate ⟨desk.worded question, desk.nextId⟩, (desk.board.add .pending).2,
        desk.handed ++ [desk.nextId]⟩ := by
  simp [request, Prompt.request, Prompt.accept, hidden, worded, nextId]

theorem request_shown {desk : PromptDesk} (shown : desk.prompt.active = true) (question : String) :
    desk.request question =
      ⟨{ desk.prompt with
          queue := desk.prompt.queue ++ [⟨desk.worded question, desk.nextId⟩] },
        (desk.board.add .pending).2, desk.handed ++ [desk.nextId]⟩ := by
  simp [request, Prompt.request, Prompt.accept, shown, worded, nextId]

@[simp] theorem request_handed (desk : PromptDesk) (question : String) :
    (desk.request question).handed = desk.handed ++ [desk.nextId] := rfl

@[simp] theorem request_board (desk : PromptDesk) (question : String) :
    (desk.request question).board = (desk.board.add .pending).2 := rfl

theorem key_hidden {desk : PromptDesk} (hidden : desk.prompt.active = false) (name : String) :
    desk.key name = (.pass, desk) := by
  simp [key, Prompt.handleKey, hidden]

theorem key_typed {desk : PromptDesk} (shown : desk.prompt.active = true) {name : String}
    (other : name ≠ "Enter") : desk.key name = (.consumed,
      { desk with prompt.buffer := Prompt.typeKey name desk.prompt.buffer }) := by
  simp [key, Prompt.handleKey, shown, other]

def answerShown (desk : PromptDesk) : Board :=
  match desk.prompt.answer with
  | some answer => (desk.board.fulfil answer (.text desk.prompt.buffer)).2
  | none => desk.board

theorem key_enter_last {desk : PromptDesk} (shown : desk.prompt.active = true)
    (last : desk.prompt.queue = []) : desk.key "Enter" = (⟨true, true⟩,
      ⟨{ desk.prompt with active := false, justEnded := true, buffer := "", answer := none },
        desk.answerShown, desk.handed⟩) := by
  simp only [key, Prompt.handleKey, Prompt.commit, shown, last, answerShown]
  rfl

theorem key_enter_next {desk : PromptDesk} (shown : desk.prompt.active = true)
    {next : PromptRequest} {rest : List PromptRequest} (line : desk.prompt.queue = next :: rest) :
    desk.key "Enter" = (.consumed,
      ⟨({ desk.prompt with justEnded := true, queue := rest }).activate next, desk.answerShown,
        desk.handed⟩) := by
  simp only [key, Prompt.handleKey, Prompt.commit, shown, line, answerShown]
  rfl

structure Entered (before after : PromptDesk) : Prop where
  board : after.board = before.answerShown
  handed : after.handed = before.handed
  requests : after.prompt.requests = before.prompt.queue
  buffer : after.prompt.buffer = ""
  attended : after.prompt.Attended
  defaultQuestion : after.prompt.defaultQuestion = before.prompt.defaultQuestion

theorem key_enter {desk : PromptDesk} (shown : desk.prompt.active = true) :
    desk.Entered (desk.key "Enter").2 := by
  cases line : desk.prompt.queue with
  | nil =>
    rw [key_enter_last shown line]
    exact ⟨rfl, rfl, by simp [Prompt.requests, line], rfl, ⟨rfl, fun _ => line⟩, rfl⟩
  | cons next rest =>
    rw [key_enter_next shown line]
    exact ⟨rfl, rfl, by simp [Prompt.requests, Prompt.activate, line], rfl,
      ⟨rfl, by simp [Prompt.activate]⟩, rfl⟩

/-- A prompt that is shown takes a new request to the end of its requests, and so does one that has
none. -/
theorem request_requests {desk : PromptDesk} (attended : desk.prompt.Attended) (question : String) :
    (desk.request question).prompt.requests =
      desk.prompt.requests ++ [⟨desk.worded question, desk.nextId⟩] := by
  cases answer : desk.prompt.answer with
  | none =>
    have hidden : desk.prompt.active = false := by simp [attended.shown, answer]
    rw [request_hidden hidden]
    simp [Prompt.requests, Prompt.activate, answer, attended.line answer]
  | some id =>
    have shown : desk.prompt.active = true := by simp [attended.shown, answer]
    rw [request_shown shown]
    simp [Prompt.requests, answer]

theorem request_attended {desk : PromptDesk} (attended : desk.prompt.Attended) (question : String) :
    (desk.request question).prompt.Attended := by
  cases answer : desk.prompt.answer with
  | none =>
    have hidden : desk.prompt.active = false := by simp [attended.shown, answer]
    rw [request_hidden hidden]
    exact ⟨rfl, by simp [Prompt.activate]⟩
  | some id =>
    have shown : desk.prompt.active = true := by simp [attended.shown, answer]
    rw [request_shown shown]
    exact ⟨attended.shown, by simp [answer]⟩

theorem serve_cosmetic (desk : PromptDesk) {call : PromptCall S} (cosmetic : call.isCosmetic) :
    ∃ caretVisible caretTimer justEnded, desk.serve call =
      { desk with prompt := desk.prompt.retouch caretVisible caretTimer justEnded } := by
  cases call with
  | takeGuard | clearGuard => exact ⟨_, _, _, rfl⟩
  | tickCaret interval =>
    obtain ⟨visible, timer, ended, same⟩ := desk.prompt.tickCaret_retouch interval
    exact ⟨visible, timer, ended, by rw [serve, same]⟩
  | draw style interval surface =>
    rw [serve, Prompt.draw_prompt]
    split
    · obtain ⟨visible, timer, ended, same⟩ := desk.prompt.tickCaret_retouch interval
      exact ⟨visible, timer, ended, by rw [same]⟩
    · exact ⟨_, _, _, rfl⟩
  | request | key | stop | reset => simp [PromptCall.isCosmetic] at cosmetic

/-- All that a call can do to a desk. -/
inductive Reaction (desk : PromptDesk) : PromptCall S → PromptDesk → Prop where
  | request (question : String) : Reaction desk (.request question) (desk.request question)
  | lost (hidden : desk.prompt.active = false) (name : String) : Reaction desk (.key name) desk
  | typed (shown : desk.prompt.active = true) {name : String} (other : name ≠ "Enter") :
    Reaction desk (.key name)
      { desk with prompt.buffer := Prompt.typeKey name desk.prompt.buffer }
  | entered (shown : desk.prompt.active = true) {after : PromptDesk}
    (entered : desk.Entered after) : Reaction desk (.key "Enter") after
  | cosmetic {call : PromptCall S} (cosmetic : call.isCosmetic) (caretVisible : Bool)
    (caretTimer : UInt32) (justEnded : Bool) :
    Reaction desk call { desk with prompt := desk.prompt.retouch caretVisible caretTimer justEnded }
  | stop : Reaction desk .stop { desk with prompt := desk.prompt.stop }
  | reset : Reaction desk .reset { desk with prompt := desk.prompt.reset }

theorem serve_reaction (desk : PromptDesk) (call : PromptCall S) :
    desk.Reaction call (desk.serve call) := by
  have cosmetic {call : PromptCall S} (cosmetic : call.isCosmetic) :
      desk.Reaction call (desk.serve call) := by
    obtain ⟨visible, timer, ended, same⟩ := desk.serve_cosmetic cosmetic
    exact same ▸ .cosmetic cosmetic visible timer ended
  cases call with
  | request question => exact .request question
  | key name =>
    cases shown : desk.prompt.active with
    | false =>
      rw [serve, key_hidden shown]
      exact .lost shown name
    | true =>
      by_cases enter : name = "Enter"
      · subst name
        exact .entered shown (key_enter shown)
      · rw [serve, key_typed shown enter]
        exact .typed shown enter
  | takeGuard | clearGuard | tickCaret | draw => exact cosmetic rfl
  | stop => exact .stop
  | reset => exact .reset

/-- The answers handed out are on the board, in the order of their numbers. -/
structure Numbered (desk : PromptDesk) : Prop where
  made : ∀ id ∈ desk.handed, id < desk.nextId
  increasing : desk.handed.Pairwise (· < ·)

theorem Numbered.request {desk : PromptDesk} (numbered : desk.Numbered) (question : String) :
    (desk.request question).Numbered := by
  refine ⟨?_, ?_⟩
  · intro id member
    simp only [request_handed, List.mem_append, List.mem_singleton] at member
    simp only [nextId, request_board, Board.add_length]
    rcases member with old | new
    · exact Nat.lt_succ_of_lt (numbered.made id old)
    · exact new ▸ Nat.lt_succ_self _
  · simp only [request_handed, List.pairwise_append, List.pairwise_singleton, List.mem_singleton]
    exact ⟨numbered.increasing, trivial, fun id old _ new => new ▸ numbered.made id old⟩

theorem Numbered.of_board {desk later : PromptDesk} (numbered : desk.Numbered)
    (board : later.board.slots.length = desk.board.slots.length)
    (handed : later.handed = desk.handed) : later.Numbered := by
  refine ⟨?_, by simpa [handed] using numbered.increasing⟩
  simpa [handed, nextId, board] using numbered.made

end PromptDesk
end SpriteStage
