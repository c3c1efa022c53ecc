import Mathlib.Data.List.Induction
import SpriteStage.Proofs.Prompt.Session
import SpriteStage.Surface.Recording

/-! A prompt answers its requests in the order they were made, each with the keys typed for it. The
reference is a line of questions that knows nothing of buffers, answers and what is shown. -/

namespace SpriteStage

/-- The keys typed for each question that is answered, those typed so far for the first one that
waits, and the questions that wait. -/
structure PromptLine where
  answered : List (List String)
  typed : List String
  waiting : List String
  deriving DecidableEq

namespace PromptLine

def empty : PromptLine := ⟨[], [], []⟩

/-- Enter answers the first question that waits; another key is typed for it. Without a question a
key is lost. -/
def press (key : String) (line : PromptLine) : PromptLine :=
  match line.waiting with
  | [] => line
  | _ :: rest =>
    if key = "Enter" then ⟨line.answered ++ [line.typed], [], rest⟩
    else { line with typed := line.typed ++ [key] }

/-- Backspace drops the last character, a key of one printable character adds it, and any other key
does nothing. -/
def edit (text : List Char) (key : String) : List Char :=
  match key.toList with
  | [c] => if Prompt.isControl c then text else text ++ [c]
  | _ => if key = "Backspace" then text.dropLast else text

def written (keys : List String) : List Char := keys.foldl edit []

def answer (keys : List String) : Settled := .fulfilled (.text (String.ofList (written keys)))

variable {S : Type}

def step (line : PromptLine) : PromptCall S → PromptLine
  | .request question => { line with waiting := line.waiting ++ [question] }
  | .key name => line.press name
  | _ => line

def of (calls : List (PromptCall S)) : PromptLine := calls.foldl step empty

def asked (calls : List (PromptCall S)) : List String := calls.filterMap PromptCall.question?

theorem of_concat (calls : List (PromptCall S)) (call : PromptCall S) :
    of (calls ++ [call]) = (of calls).step call := by
  simp [of]

theorem edit_printable {text : List Char} (printable : ∀ c ∈ text, Prompt.isControl c = false)
    (key : String) : ∀ c ∈ edit text key, Prompt.isControl c = false := by
  intro c member
  unfold edit at member
  split at member
  · split at member
    · exact printable c member
    · rename_i typed _ visible
      rcases List.mem_append.mp member with old | new
      · exact printable c old
      · rw [List.mem_singleton.mp new]
        simpa using visible
  · split at member
    · exact printable c (List.dropLast_subset _ member)
    · exact printable c member

theorem written_printable (keys : List String) :
    ∀ c ∈ written keys, Prompt.isControl c = false := by
  have general (keys : List String) (text : List Char)
      (printable : ∀ c ∈ text, Prompt.isControl c = false) :
      ∀ c ∈ keys.foldl edit text, Prompt.isControl c = false := by
    induction keys generalizing text with
    | nil => exact printable
    | cons key rest ih => exact ih (edit text key) (edit_printable printable key)
  exact general keys [] (by simp)

theorem typeKey_toList (key buffer : String) :
    (Prompt.typeKey key buffer).toList = edit buffer.toList key := by
  unfold Prompt.typeKey
  split
  · rename_i backspace
    subst key
    simp [edit]
  · rename_i other
    unfold edit
    rw [if_neg other]
    cases key.toList with
    | nil => rfl
    | cons c rest =>
      cases rest with
      | nil => by_cases control : Prompt.isControl c <;> simp [control]
      | cons _ _ => rfl

theorem asked_concat (calls : List (PromptCall S)) (call : PromptCall S) :
    asked (calls ++ [call]) = asked calls ++ call.question?.toList := by
  cases call <;> simp [asked, PromptCall.question?]

theorem press_lost {line : PromptLine} (empty : line.waiting = []) (key : String) :
    line.press key = line := by
  simp [press, empty]

theorem press_enter {line : PromptLine} {question : String} {rest : List String}
    (waiting : line.waiting = question :: rest) :
    line.press "Enter" = ⟨line.answered ++ [line.typed], [], rest⟩ := by
  simp [press, waiting]

theorem press_typed {line : PromptLine} (waiting : line.waiting ≠ []) {key : String}
    (other : key ≠ "Enter") : line.press key = { line with typed := line.typed ++ [key] } := by
  unfold press
  split
  · contradiction
  · rw [if_neg other]

theorem step_cosmetic {line : PromptLine} {call : PromptCall S} (cosmetic : call.isCosmetic) :
    line.step call = line := by
  cases call with
  | takeGuard | clearGuard | tickCaret | draw => rfl
  | request | key | stop | reset => simp [PromptCall.isCosmetic] at cosmetic

/-- The line loses no request: those that wait are those asked and not yet answered. -/
theorem waiting_of (calls : List (PromptCall S)) :
    (of calls).answered.length ≤ (asked calls).length ∧
      (of calls).waiting = (asked calls).drop (of calls).answered.length := by
  induction calls using List.reverseRecOn with
  | nil => simp [of, empty, asked]
  | append_singleton calls call ih =>
    obtain ⟨within, waiting⟩ := ih
    rw [of_concat, asked_concat]
    cases call with
    | request question =>
      refine ⟨Nat.le_trans within (by simp), ?_⟩
      simp [step, PromptCall.question?, List.drop_append_of_le_length within, waiting]
    | key name =>
      simp only [step, PromptCall.question?, Option.toList_none, List.append_nil]
      cases first : (of calls).waiting with
      | nil =>
        rw [press_lost first]
        exact ⟨within, waiting⟩
      | cons question rest =>
        by_cases enter : name = "Enter"
        · subst name
          rw [press_enter first]
          rw [first] at waiting
          have shorter := congrArg List.length waiting
          have next := congrArg List.tail waiting
          simp only [List.length_cons, List.length_drop, List.tail_cons, List.tail_drop]
            at shorter next
          refine ⟨?_, by simpa using next⟩
          simp only [List.length_append, List.length_singleton]
          omega
        · rw [press_typed (by simp [first]) enter]
          exact ⟨within, waiting⟩
    | takeGuard | clearGuard | tickCaret | draw | stop | reset =>
      simpa only [step, PromptCall.question?, Option.toList_none, List.append_nil] using
        And.intro within waiting

end PromptLine

namespace PromptDesk

/-- The simulation: what a desk holds of a line of questions. Its answers are those of the answered
questions, followed by those of the requests that its prompt holds. -/
structure Serves (defaultQuestion : String) (line : PromptLine) (desk : PromptDesk) : Prop where
  numbered : desk.Numbered
  attended : desk.prompt.Attended
  answers : ∃ served, desk.handed = served ++ desk.prompt.requests.map (·.answer) ∧
    served.map desk.board.state = line.answered.map PromptLine.answer
  unsettled : ∀ request ∈ desk.prompt.requests, desk.board.state request.answer = .pending
  questions : desk.prompt.requests.map (·.question) =
    line.waiting.map fun question => if question.isEmpty then defaultQuestion else question
  buffer : desk.prompt.buffer.toList = PromptLine.written line.typed
  idle : line.waiting = [] → line.typed = []
  standard : desk.prompt.defaultQuestion = defaultQuestion

variable {defaultQuestion : String} {line : PromptLine} {desk : PromptDesk}

theorem Serves.new (defaultQuestion : String) (board : Board) :
    (PromptDesk.new defaultQuestion board).Serves defaultQuestion .empty := by
  refine ⟨⟨by simp [PromptDesk.new], by simp [PromptDesk.new]⟩, ⟨rfl, fun _ => rfl⟩,
    ⟨[], rfl, rfl⟩, ?_, rfl, rfl, fun _ => rfl, rfl⟩
  simp [PromptDesk.new, Prompt.new, Prompt.requests]

theorem Serves.requests_nil (serves : desk.Serves defaultQuestion line) :
    desk.prompt.requests = [] ↔ line.waiting = [] := by
  rw [← List.map_eq_nil_iff (f := (·.question)), serves.questions, List.map_eq_nil_iff]

theorem Serves.active_iff (serves : desk.Serves defaultQuestion line) :
    desk.prompt.active = true ↔ line.waiting ≠ [] := by
  rw [ne_eq, ← serves.requests_nil, serves.attended.shown]
  cases answer : desk.prompt.answer with
  | none => simp [Prompt.requests, answer, serves.attended.line answer]
  | some id => simp [Prompt.requests, answer]

theorem Serves.request (serves : desk.Serves defaultQuestion line) (question : String) :
    (desk.request question).Serves defaultQuestion
      { line with waiting := line.waiting ++ [question] } := by
  obtain ⟨served, handed, states⟩ := serves.answers
  have requests := request_requests serves.attended question
  have wording : desk.worded question =
      if question.isEmpty then defaultQuestion else question := by
    rw [worded, serves.standard]
  refine ⟨serves.numbered.request question, request_attended serves.attended question,
    ⟨served, ?_, ?_⟩, ?_, ?_, ?_, by simp, ?_⟩
  · simp [requests, handed]
  · simpa using states
  · intro request member
    rw [request_board, Board.add_pending_state]
    rw [requests, List.mem_append, List.mem_singleton] at member
    rcases member with old | new
    · exact serves.unsettled request old
    · rw [new]
      exact Board.state_beyond (Nat.le_refl _)
  · simp [requests, serves.questions, wording]
  · by_cases shown : desk.prompt.active = true
    · rw [request_shown shown]
      exact serves.buffer
    · have empty : line.waiting = [] := by simpa [serves.active_iff] using shown
      rw [request_hidden (by simpa using shown), serves.idle empty]
      rfl
  · by_cases shown : desk.prompt.active = true
    · rw [request_shown shown]
      exact serves.standard
    · rw [request_hidden (by simpa using shown)]
      exact serves.standard

/-- Enter settles the first of the unsettled answers and moves the requests up by one. -/
theorem Serves.entered (serves : desk.Serves defaultQuestion line)
    (shown : desk.prompt.active = true) {question : String} {rest : List String}
    (waiting : line.waiting = question :: rest) {after : PromptDesk}
    (entered : desk.Entered after) :
    after.Serves defaultQuestion ⟨line.answered ++ [line.typed], [], rest⟩ := by
  obtain ⟨id, answer⟩ := Option.isSome_iff_exists.mp (serves.attended.shown ▸ shown)
  have requests : desk.prompt.requests = ⟨desk.prompt.question, id⟩ :: desk.prompt.queue := by
    simp [Prompt.requests, answer]
  obtain ⟨served, handed, states⟩ := serves.answers
  have increasing := serves.numbered.increasing
  rw [handed, requests, List.map_cons, List.pairwise_append, List.pairwise_cons] at increasing
  have made : id < desk.board.slots.length := serves.numbered.made id (by simp [handed, requests])
  have settled : desk.answerShown.state id = PromptLine.answer line.typed := by
    rw [answerShown, answer]
    have text : desk.prompt.buffer = String.ofList (PromptLine.written line.typed) := by
      rw [← serves.buffer, String.ofList_toList]
    have waiting := serves.unsettled ⟨desk.prompt.question, id⟩ (by simp [requests])
    rw [text]
    exact Board.settle_pending _ made waiting
  have untouched (other : DeferredId) (different : other ≠ id) :
      desk.answerShown.state other = desk.board.state other := by
    rw [answerShown, answer]
    exact Board.settle_other _ different
  refine ⟨serves.numbered.of_board ?_ entered.handed, entered.attended,
    ⟨served ++ [id], ?_, ?_⟩, ?_, ?_, ?_, fun _ => rfl, ?_⟩
  · rw [entered.board, answerShown, answer]
    exact Board.settle_length ..
  · simp [entered.handed, handed, requests, entered.requests]
  · have earlier : served.map desk.answerShown.state = served.map desk.board.state :=
      List.map_congr_left fun other member =>
        untouched other (Nat.ne_of_lt (increasing.2.2 other member id List.mem_cons_self))
    simp [entered.board, settled, earlier, states]
  · intro request member
    rw [entered.requests] at member
    have later := increasing.2.1.1 request.answer (List.mem_map_of_mem member)
    rw [entered.board, untouched _ (Nat.ne_of_gt later)]
    exact serves.unsettled request (by rw [requests]; exact List.mem_cons_of_mem _ member)
  · have questions := serves.questions
    rw [requests, waiting] at questions
    rw [entered.requests]
    exact (List.cons.inj questions).2
  · simp [entered.buffer, PromptLine.written]
  · rw [entered.defaultQuestion, serves.standard]

variable {S : Type} [Surface S]

theorem Serves.serve (serves : desk.Serves defaultQuestion line) {call : PromptCall S}
    (keeps : call.keepsLine) : (desk.serve call).Serves defaultQuestion (line.step call) := by
  have reaction := desk.serve_reaction call
  generalize desk.serve call = after at reaction ⊢
  cases reaction with
  | request question => exact serves.request question
  | lost hidden name =>
    have none : line.waiting = [] := by simpa [hidden] using serves.active_iff
    rw [PromptLine.step, PromptLine.press_lost none]
    exact serves
  | typed shown other =>
    have some := serves.active_iff.mp shown
    rw [PromptLine.step, PromptLine.press_typed some other]
    exact ⟨⟨serves.numbered.made, serves.numbered.increasing⟩,
      ⟨serves.attended.shown, serves.attended.line⟩, serves.answers, serves.unsettled,
      serves.questions, by simp [PromptLine.typeKey_toList, serves.buffer, PromptLine.written],
      fun empty => absurd empty some, serves.standard⟩
  | entered shown entered =>
    obtain ⟨question, rest, waiting⟩ := List.exists_cons_of_ne_nil (serves.active_iff.mp shown)
    rw [PromptLine.step, PromptLine.press_enter waiting]
    exact serves.entered shown waiting entered
  | cosmetic cosmetic =>
    rw [PromptLine.step_cosmetic cosmetic]
    exact ⟨⟨serves.numbered.made, serves.numbered.increasing⟩,
      ⟨serves.attended.shown, serves.attended.line⟩, serves.answers, serves.unsettled,
      serves.questions, serves.buffer, serves.idle, serves.standard⟩
  | stop | reset => simp [PromptCall.keepsLine] at keeps

theorem Serves.after (defaultQuestion : String) (board : Board) (calls : List (PromptCall S))
    (keep : ∀ call ∈ calls, call.keepsLine) :
    ((PromptDesk.new defaultQuestion board).after calls).Serves defaultQuestion (.of calls) := by
  induction calls using List.reverseRecOn with
  | nil => exact Serves.new defaultQuestion board
  | append_singleton calls call ih =>
    rw [after_concat, PromptLine.of_concat]
    exact (ih fun earlier member => keep earlier (List.mem_append_left _ member)).serve
      (keep call (by simp))

/-- A session in which questions were asked, as a player and a script see it: as many of the first
questions are answered as `line` has answers. -/
structure Orderly (defaultQuestion : String) (asked : List String) (line : PromptLine)
    (desk : PromptDesk) : Prop where
  within : line.answered.length ≤ asked.length
  answers : desk.handed.map desk.board.state = line.answered.map PromptLine.answer ++
    List.replicate (asked.length - line.answered.length) .pending
  active_iff : desk.prompt.active = true ↔ line.answered.length < asked.length
  question : ∀ question, asked[line.answered.length]? = some question →
    desk.prompt.question = if question = "" then defaultQuestion else question
  queued : desk.prompt.queue.length = asked.length - line.answered.length - 1
  buffer : desk.prompt.buffer.toList = PromptLine.written line.typed
  printable : ∀ keys ∈ line.answered, ∀ c ∈ PromptLine.written keys, Prompt.isControl c = false
  consumed : desk.prompt.active = true → ∀ name, (desk.key name).1.suppressDefault = true ∧
    ((desk.key name).1.releaseFocus = true ↔
      name = "Enter" ∧ line.answered.length + 1 = asked.length)
  lost : desk.prompt.active = false → ∀ name, desk.key name = (.pass, desk)

/-- The host gets the keyboard back with the answer of the last request. -/
theorem key_outcome {desk : PromptDesk} (shown : desk.prompt.active = true) (name : String) :
    (desk.key name).1 = ⟨true, name = "Enter" && desk.prompt.queue.isEmpty⟩ := by
  by_cases enter : name = "Enter"
  · subst name
    cases line : desk.prompt.queue with
    | nil =>
      rw [key_enter_last shown line]
      rfl
    | cons next rest =>
      rw [key_enter_next shown line]
      rfl
  · rw [key_typed shown enter]
    simp [enter, InputOutcome.consumed]

theorem Serves.orderly (serves : desk.Serves defaultQuestion line) {asked : List String}
    (within : line.answered.length ≤ asked.length)
    (waiting : line.waiting = asked.drop line.answered.length) :
    desk.Orderly defaultQuestion asked line := by
  have active_iff : desk.prompt.active = true ↔ line.answered.length < asked.length := by
    rw [serves.active_iff, waiting, ne_eq, List.drop_eq_nil_iff, Nat.not_le]
  have count : desk.prompt.requests.length = asked.length - line.answered.length := by
    simpa [waiting] using congrArg List.length serves.questions
  have queued : desk.prompt.queue.length = asked.length - line.answered.length - 1 := by
    cases answer : desk.prompt.answer with
    | none =>
      rw [Prompt.requests, answer, serves.attended.line answer] at count
      simp only [Option.toList_none, List.map_nil, List.append_nil, List.length_nil] at count
      rw [serves.attended.line answer, List.length_nil]
      omega
    | some id =>
      rw [Prompt.requests, answer] at count
      simp only [Option.toList_some, List.map_cons, List.map_nil, List.length_append,
        List.length_singleton] at count
      omega
  refine ⟨within, ?_, active_iff, ?_, queued, serves.buffer,
    fun keys _ => PromptLine.written_printable keys, ?_, fun hidden => key_hidden hidden⟩
  · obtain ⟨served, handed, states⟩ := serves.answers
    have open_states : (desk.prompt.requests.map (·.answer)).map desk.board.state =
        List.replicate (asked.length - line.answered.length) .pending := by
      rw [List.map_map, List.eq_replicate_iff, List.length_map]
      refine ⟨count, fun state member => ?_⟩
      obtain ⟨request, present, same⟩ := List.mem_map.mp member
      exact same ▸ serves.unsettled request present
    rw [handed, List.map_append, states, open_states]
  · intro question found
    have shown : desk.prompt.active = true :=
      active_iff.mpr (List.getElem?_eq_some_iff.mp found).1
    obtain ⟨id, answer⟩ := Option.isSome_iff_exists.mp (serves.attended.shown ▸ shown)
    have first := congrArg List.head? serves.questions
    rw [Prompt.requests, answer, waiting, List.head?_map, List.head?_map, List.head?_drop,
      found] at first
    simpa using first
  · intro shown name
    have running := active_iff.mp shown
    rw [key_outcome shown]
    refine ⟨rfl, ?_⟩
    simp only [Bool.and_eq_true, decide_eq_true_eq, List.isEmpty_iff]
    rw [← List.length_eq_zero_iff, queued]
    refine and_congr_right fun _ => ?_
    omega

/-- Requests are answered in the order they were made, one at a time, each with what was typed while
it was shown. -/
theorem requests_answered_in_line (defaultQuestion : String) (board : Board)
    (calls : List (PromptCall S)) (keep : ∀ call ∈ calls, call.keepsLine) :
    ((PromptDesk.new defaultQuestion board).after calls).Orderly defaultQuestion
      (PromptLine.asked calls) (PromptLine.of calls) :=
  (Serves.after defaultQuestion board calls keep).orderly (PromptLine.waiting_of calls).1
    (PromptLine.waiting_of calls).2

/-- One key comes too early, one request waits behind another, and one question is left empty. -/
theorem name_and_age_in_line :
    let calls : List (PromptCall RecordingSurface) :=
      [.key "a", .request "Name?", .key "B", .key "x", .key "Backspace", .request "", .key "Shift",
        .key "Enter", .takeGuard, .key "9"]
    (∀ call ∈ calls, call.keepsLine) ∧
      ((PromptDesk.new "Input:" .empty).after calls).Orderly "Input:" ["Name?", ""]
        ⟨[["B", "x", "Backspace", "Shift"]], ["9"], [""]⟩ := by
  intro calls
  have keep : ∀ call ∈ calls, call.keepsLine := by decide
  have line : PromptLine.of calls = ⟨[["B", "x", "Backspace", "Shift"]], ["9"], [""]⟩ := by
    decide +kernel
  exact ⟨keep, line ▸ requests_answered_in_line "Input:" .empty calls keep⟩

end PromptDesk
end SpriteStage
