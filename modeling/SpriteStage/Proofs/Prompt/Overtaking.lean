import Mathlib.Data.List.Induction
import SpriteStage.Proofs.Prompt.Session
import SpriteStage.Surface.Recording

/-! When a request is answered before an earlier one. A prompt that was hidden keeps the requests
behind it, but shows the next request that is made. -/

namespace SpriteStage

/-- The requests that can still be answered: the one that is shown and those in line. -/
def Prompt.live (p : Prompt) : List DeferredId :=
  (if p.active then p.answer.toList else []) ++ p.queue.map (·.answer)

namespace PromptDesk

/-- Enter would answer a request while one made earlier waits in line. -/
def Overtakes (desk : PromptDesk) : Prop :=
  ∃ id, desk.board.state id = .pending ∧ (desk.key "Enter").2.board.state id ≠ .pending ∧
    ∃ waiting ∈ desk.prompt.queue, waiting.answer < id

/-- Requests wait in line behind a prompt that is hidden. -/
def Stranded (desk : PromptDesk) : Prop :=
  desk.prompt.active = false ∧ desk.prompt.queue ≠ []

def Ahead (desk : PromptDesk) : Prop :=
  desk.prompt.active = true ∧ ∃ shown, desk.prompt.answer = some shown ∧
    ∃ waiting ∈ desk.prompt.queue, waiting.answer < shown

/-- What holds of requests in any session: those that can still be answered are pending, and the
line is in the order of the requests. -/
structure Lined (desk : PromptDesk) : Prop where
  numbered : desk.Numbered
  made : ∀ id ∈ desk.prompt.live, id < desk.nextId
  isOpen : ∀ id ∈ desk.prompt.live, desk.board.state id = .pending
  line : (desk.prompt.queue.map (·.answer)).Pairwise (· < ·)
  shown : desk.prompt.active = true → ∃ shown, desk.prompt.answer = some shown ∧
    shown ∉ desk.prompt.queue.map (·.answer)

theorem live_hidden {desk : PromptDesk} (hidden : desk.prompt.active = false) :
    desk.prompt.live = desk.prompt.queue.map (·.answer) := by
  simp [Prompt.live, hidden]

theorem live_shown {desk : PromptDesk} {id : DeferredId} (shown : desk.prompt.active = true)
    (answer : desk.prompt.answer = some id) :
    desk.prompt.live = id :: desk.prompt.queue.map (·.answer) := by
  simp [Prompt.live, shown, answer]

theorem Entered.line {before after : PromptDesk} (entered : before.Entered after) :
    before.prompt.queue.map (·.answer) =
      after.prompt.answer.toList ++ after.prompt.queue.map (·.answer) := by
  rw [← entered.requests, Prompt.requests]
  cases after.prompt.answer <;> simp

theorem Entered.live {before after : PromptDesk} (entered : before.Entered after) :
    after.prompt.live = before.prompt.queue.map (·.answer) := by
  rw [entered.line, Prompt.live, entered.attended.shown]
  cases after.prompt.answer <;> simp

variable {desk : PromptDesk}

theorem request_live_shown (shown : desk.prompt.active = true) (question : String) :
    (desk.request question).prompt.live = desk.prompt.live ++ [desk.nextId] := by
  rw [request_shown shown]
  simp [Prompt.live]

theorem request_live_hidden (hidden : desk.prompt.active = false) (question : String) :
    (desk.request question).prompt.live = desk.nextId :: desk.prompt.live := by
  rw [request_hidden hidden]
  simp [Prompt.live, Prompt.activate, hidden]

theorem mem_request_live (question : String) {id : DeferredId} :
    id ∈ (desk.request question).prompt.live ↔ id = desk.nextId ∨ id ∈ desk.prompt.live := by
  cases shown : desk.prompt.active with
  | true => rw [request_live_shown shown, List.mem_append, List.mem_singleton, or_comm]
  | false => rw [request_live_hidden shown, List.mem_cons]

theorem Lined.new (defaultQuestion : String) (board : Board) :
    (PromptDesk.new defaultQuestion board).Lined := by
  refine ⟨⟨?_, ?_⟩, ?_, ?_, ?_, ?_⟩ <;> simp [PromptDesk.new, Prompt.new, Prompt.live]

theorem Lined.request (lined : desk.Lined) (question : String) : (desk.request question).Lined := by
  have grown : (desk.request question).nextId = desk.nextId + 1 := by
    simp [nextId]
  refine ⟨lined.numbered.request question, ?_, ?_, ?_, ?_⟩
  · intro id member
    rw [grown]
    rcases (mem_request_live question).mp member with new | old
    · exact new ▸ Nat.lt_succ_self _
    · exact Nat.lt_succ_of_lt (lined.made id old)
  · intro id member
    rw [request_board, Board.add_pending_state]
    rcases (mem_request_live question).mp member with new | old
    · exact new ▸ Board.state_beyond (Nat.le_refl _)
    · exact lined.isOpen id old
  · cases shown : desk.prompt.active with
    | true =>
      obtain ⟨current, answer, _⟩ := lined.shown shown
      rw [request_shown shown]
      simp only [List.map_append, List.map_cons, List.map_nil, List.pairwise_append,
        List.pairwise_singleton, List.mem_singleton]
      refine ⟨lined.line, trivial, fun id member _ new => new ▸ lined.made id ?_⟩
      rw [live_shown shown answer]
      exact List.mem_cons_of_mem _ member
    | false =>
      rw [request_hidden shown]
      exact lined.line
  · intro _
    cases shown : desk.prompt.active with
    | true =>
      obtain ⟨current, answer, apart⟩ := lined.shown shown
      have made := lined.made current (by simp [live_shown shown answer])
      rw [request_shown shown]
      exact ⟨current, answer, by simpa using And.intro (by simpa using apart) (Nat.ne_of_lt made)⟩
    | false =>
      rw [request_hidden shown]
      refine ⟨desk.nextId, rfl, fun member => ?_⟩
      exact Nat.lt_irrefl _ (lined.made desk.nextId (by rwa [live_hidden shown]))

theorem answerShown_length (desk : PromptDesk) :
    desk.answerShown.slots.length = desk.board.slots.length := by
  unfold answerShown
  split
  · exact Board.settle_length ..
  · rfl

theorem answerShown_other {shown id : DeferredId} (answer : desk.prompt.answer = some shown)
    (different : id ≠ shown) : desk.answerShown.state id = desk.board.state id := by
  rw [answerShown, answer]
  exact Board.settle_other _ different

theorem Lined.entered (lined : desk.Lined) (shown : desk.prompt.active = true)
    {after : PromptDesk} (entered : desk.Entered after) : after.Lined := by
  obtain ⟨current, answer, apart⟩ := lined.shown shown
  have length : after.board.slots.length = desk.board.slots.length := by
    rw [entered.board, answerShown_length]
  have mem_live {id : DeferredId} (member : id ∈ desk.prompt.queue.map (·.answer)) :
      id ∈ desk.prompt.live := by
    rw [live_shown shown answer]
    exact List.mem_cons_of_mem _ member
  have live := entered.live
  refine ⟨lined.numbered.of_board length entered.handed, ?_, ?_, ?_, ?_⟩
  · intro id member
    rw [nextId, length]
    exact lined.made id (mem_live (live ▸ member))
  · intro id member
    rw [live] at member
    rw [entered.board, answerShown_other answer fun same => apart (same ▸ member)]
    exact lined.isOpen id (mem_live member)
  · have line := lined.line
    rw [entered.line, List.pairwise_append] at line
    exact line.2.1
  · intro again
    obtain ⟨next, next_answer⟩ := Option.isSome_iff_exists.mp (entered.attended.shown ▸ again)
    have line := lined.line
    rw [entered.line, next_answer, Option.toList_some, List.singleton_append,
      List.pairwise_cons] at line
    exact ⟨next, next_answer, fun member => Nat.lt_irrefl _ (line.1 next member)⟩

theorem Lined.of_same (lined : desk.Lined) {later : PromptDesk}
    (board : later.board = desk.board) (handed : later.handed = desk.handed)
    (live : later.prompt.live ⊆ desk.prompt.live)
    (line : (later.prompt.queue.map (·.answer)).Sublist (desk.prompt.queue.map (·.answer)))
    (shown : later.prompt.active = true → ∃ shown, later.prompt.answer = some shown ∧
      shown ∉ later.prompt.queue.map (·.answer)) : later.Lined := by
  refine ⟨lined.numbered.of_board (by rw [board]) handed, ?_, ?_, lined.line.sublist line, shown⟩
  · intro id member
    rw [nextId, board]
    exact lined.made id (live member)
  · intro id member
    rw [board]
    exact lined.isOpen id (live member)

variable {S : Type} [Surface S]

theorem Lined.serve (lined : desk.Lined) (call : PromptCall S) : (desk.serve call).Lined := by
  have reaction := desk.serve_reaction call
  generalize desk.serve call = after at reaction ⊢
  cases reaction with
  | request question => exact lined.request question
  | lost => exact lined
  | typed | cosmetic =>
    exact lined.of_same rfl rfl (List.Subset.refl _) (List.Sublist.refl _) lined.shown
  | entered shown entered => exact lined.entered shown entered
  | stop =>
    refine lined.of_same rfl rfl ?_ (List.Sublist.refl _) (fun shown => by cases shown)
    simp [Prompt.live, Prompt.stop]
  | reset =>
    refine lined.of_same rfl rfl ?_ (List.nil_sublist _) (fun shown => by cases shown)
    simp [Prompt.live, Prompt.reset, Prompt.new]

theorem Lined.after (defaultQuestion : String) (board : Board) (calls : List (PromptCall S)) :
    ((PromptDesk.new defaultQuestion board).after calls).Lined := by
  induction calls using List.reverseRecOn with
  | nil => exact Lined.new defaultQuestion board
  | append_singleton calls call ih =>
    rw [after_concat]
    exact ih.serve call

theorem Lined.answered (lined : desk.Lined) {shown : DeferredId}
    (active : desk.prompt.active = true) (answer : desk.prompt.answer = some shown) :
    desk.answerShown.state shown = .fulfilled (.text desk.prompt.buffer) := by
  have live : shown ∈ desk.prompt.live := by
    rw [live_shown active answer]
    exact List.mem_cons_self
  rw [answerShown, answer]
  exact Board.settle_pending _ (lined.made shown live) (lined.isOpen shown live)

theorem Lined.settled_by_enter (lined : desk.Lined) {id : DeferredId} :
    desk.board.state id = .pending ∧ (desk.key "Enter").2.board.state id ≠ .pending ↔
      desk.prompt.active = true ∧ desk.prompt.answer = some id := by
  cases active : desk.prompt.active with
  | false =>
    rw [key_hidden active]
    exact ⟨fun ⟨pending, settled⟩ => absurd pending settled, fun ⟨shown, _⟩ => by cases shown⟩
  | true =>
    obtain ⟨shown, answer, _⟩ := lined.shown active
    rw [(key_enter active).board, answer, Option.some.injEq]
    constructor
    · rintro ⟨pending, settled⟩
      refine ⟨rfl, ?_⟩
      by_contra different
      exact settled (by rw [answerShown_other answer (Ne.symm different), pending])
    · rintro ⟨_, same⟩
      subst id
      refine ⟨lined.isOpen shown (by simp [live_shown active answer]), ?_⟩
      rw [lined.answered active answer]
      simp

theorem Lined.overtakes_iff (lined : desk.Lined) : desk.Overtakes ↔ desk.Ahead := by
  constructor
  · rintro ⟨id, pending, settled, earlier⟩
    obtain ⟨active, answer⟩ := lined.settled_by_enter.mp ⟨pending, settled⟩
    exact ⟨active, id, answer, earlier⟩
  · rintro ⟨active, id, answer, earlier⟩
    obtain ⟨pending, settled⟩ := lined.settled_by_enter.mpr ⟨active, answer⟩
    exact ⟨id, pending, settled, earlier⟩

theorem Lined.ahead_request (lined : desk.Lined) (question : String) :
    (desk.request question).Ahead ↔ desk.Ahead ∨ desk.Stranded := by
  cases active : desk.prompt.active with
  | true =>
    obtain ⟨shown, answer, _⟩ := lined.shown active
    have made := lined.made shown (by simp [live_shown active answer])
    rw [request_shown active]
    simp only [Ahead, Stranded, active, answer, true_and, Option.some.injEq, exists_eq_left',
      List.mem_append, List.mem_singleton, Bool.true_eq_false, false_and, or_false]
    constructor
    · rintro ⟨waiting, old | new, earlier⟩
      · exact ⟨waiting, old, earlier⟩
      · subst new
        exact absurd earlier (Nat.not_lt_of_gt made)
    · rintro ⟨waiting, member, earlier⟩
      exact ⟨waiting, .inl member, earlier⟩
  | false =>
    rw [request_hidden active]
    simp only [Ahead, Stranded, active, Prompt.activate, Bool.false_eq_true, false_and, false_or,
      true_and, Option.some.injEq, exists_eq_left']
    constructor
    · rintro ⟨waiting, member, _⟩
      exact List.ne_nil_of_mem member
    · intro line
      obtain ⟨waiting, member⟩ := List.exists_mem_of_ne_nil _ line
      refine ⟨waiting, member, lined.made _ ?_⟩
      rw [live_hidden active]
      exact List.mem_map_of_mem member

theorem Lined.not_ahead_entered (lined : desk.Lined) {after : PromptDesk}
    (entered : desk.Entered after) : ¬ after.Ahead := by
  rintro ⟨_, shown, answer, waiting, member, earlier⟩
  have line := lined.line
  rw [entered.line, answer, Option.toList_some, List.singleton_append, List.pairwise_cons] at line
  exact Nat.lt_asymm earlier (line.1 _ (List.mem_map_of_mem member))

/-- A request is ahead of its line because it was shown while others were stranded, and it stays so
until it is answered or hidden. -/
theorem Lined.ahead_serve (lined : desk.Lined) (call : PromptCall S) :
    (desk.serve call).Ahead ↔
      call.staysOn ∧ desk.Ahead ∨ call.question?.isSome ∧ desk.Stranded := by
  have reaction := desk.serve_reaction call
  generalize desk.serve call = after at reaction ⊢
  cases reaction with
  | request question => simp [lined.ahead_request, PromptCall.staysOn, PromptCall.question?]
  | lost hidden name => simp [Ahead, hidden, PromptCall.question?]
  | typed shown other => simp [Ahead, PromptCall.staysOn, PromptCall.question?, other]
  | entered shown entered =>
    simp [lined.not_ahead_entered entered, PromptCall.staysOn, PromptCall.question?]
  | cosmetic cosmetic =>
    have stays : call.staysOn = true ∧ call.question? = none := by
      cases call <;> simp_all [PromptCall.isCosmetic, PromptCall.staysOn, PromptCall.question?]
    simp [stays, Ahead, Prompt.retouch]
  | stop | reset => simp [Ahead, Prompt.stop, Prompt.reset, Prompt.new, PromptCall.staysOn,
      PromptCall.question?]

/-- The request that is shown was made while others were stranded. -/
def Jumped (start : PromptDesk) (calls : List (PromptCall S)) : Prop :=
  ∃ before question rest, calls = before ++ .request question :: rest ∧
    (start.after before).Stranded ∧ ∀ call ∈ rest, call.staysOn

theorem jumped_concat (start : PromptDesk) (calls : List (PromptCall S)) (call : PromptCall S) :
    start.Jumped (calls ++ [call]) ↔
      call.staysOn ∧ start.Jumped calls ∨ call.question?.isSome ∧ (start.after calls).Stranded := by
  constructor
  · rintro ⟨before, question, rest, same, stranded, stay⟩
    rcases List.eq_nil_or_concat rest with rfl | ⟨rest, last, rfl⟩
    · obtain ⟨rfl, request⟩ := List.append_inj' same rfl
      rw [List.singleton_inj.mp request]
      exact .inr ⟨rfl, stranded⟩
    · rw [List.concat_eq_append] at same stay
      rw [← List.cons_append, ← List.append_assoc] at same
      obtain ⟨rfl, last_same⟩ := List.append_inj' same rfl
      rw [List.singleton_inj.mp last_same]
      exact .inl ⟨stay last (by simp),
        before, question, rest, rfl, stranded, fun call member => stay call (by simp [member])⟩
  · rintro (⟨stays, before, question, rest, rfl, stranded, stay⟩ | ⟨request, stranded⟩)
    · refine ⟨before, question, rest ++ [call], by simp, stranded, fun other member => ?_⟩
      rcases List.mem_append.mp member with old | new
      · exact stay other old
      · exact List.mem_singleton.mp new ▸ stays
    · cases call with
      | request question => exact ⟨calls, question, [], rfl, stranded, by simp⟩
      | _ => simp [PromptCall.question?] at request

theorem ahead_iff_jumped (defaultQuestion : String) (board : Board) (calls : List (PromptCall S)) :
    ((PromptDesk.new defaultQuestion board).after calls).Ahead ↔
      (PromptDesk.new defaultQuestion board).Jumped calls := by
  induction calls using List.reverseRecOn with
  | nil => simp [Ahead, Jumped, PromptDesk.new, Prompt.new]
  | append_singleton calls call ih =>
    rw [after_concat, (Lined.after defaultQuestion board calls).ahead_serve, jumped_concat, ih]

/-- Nothing that can still be answered is earlier than a settled answer or out of line. -/
structure InOrder (desk : PromptDesk) : Prop where
  live : desk.prompt.live.Pairwise (· < ·)
  settled : ∀ id ∈ desk.handed, desk.board.state id ≠ .pending → ∀ later ∈ desk.prompt.live,
    id < later

theorem InOrder.of_same (inOrder : desk.InOrder) {later : PromptDesk}
    (board : later.board = desk.board) (handed : later.handed = desk.handed)
    (live : later.prompt.live.Sublist desk.prompt.live) : later.InOrder := by
  refine ⟨inOrder.live.sublist live, fun id member => ?_⟩
  rw [board]
  exact fun settled later present =>
    inOrder.settled id (handed ▸ member) settled later (live.subset present)

theorem InOrder.request (inOrder : desk.InOrder) (lined : desk.Lined) (free : ¬ desk.Stranded)
    (question : String) : (desk.request question).InOrder := by
  have live : (desk.request question).prompt.live = desk.prompt.live ++ [desk.nextId] := by
    cases active : desk.prompt.active with
    | true => exact request_live_shown active question
    | false =>
      have empty : desk.prompt.queue = [] := by simpa [Stranded, active] using free
      rw [request_live_hidden active, live_hidden active, empty]
      rfl
  refine ⟨?_, fun id member settled later present => ?_⟩
  · rw [live, List.pairwise_append]
    refine ⟨inOrder.live, List.pairwise_singleton .., fun id member next same => ?_⟩
    rw [List.mem_singleton.mp same]
    exact lined.made id member
  · rw [request_board, Board.add_pending_state] at settled
    have old : id ∈ desk.handed := by
      rw [request_handed, List.mem_append, List.mem_singleton] at member
      refine member.resolve_right fun new => settled ?_
      rw [new]
      exact Board.state_beyond (Nat.le_refl _)
    rw [live, List.mem_append, List.mem_singleton] at present
    rcases present with present | new
    · exact inOrder.settled id old settled later present
    · exact new ▸ lined.numbered.made id old

theorem InOrder.entered (inOrder : desk.InOrder) (lined : desk.Lined)
    (shown : desk.prompt.active = true) {after : PromptDesk} (entered : desk.Entered after) :
    after.InOrder := by
  obtain ⟨current, answer, _⟩ := lined.shown shown
  have ordered := inOrder.live
  rw [live_shown shown answer, List.pairwise_cons] at ordered
  refine ⟨entered.live ▸ ordered.2, fun id member settled later present => ?_⟩
  rw [entered.live] at present
  by_cases same : id = current
  · exact same ▸ ordered.1 later present
  · rw [entered.board, answerShown_other answer same] at settled
    refine inOrder.settled id (entered.handed ▸ member) settled later ?_
    rw [live_shown shown answer]
    exact List.mem_cons_of_mem _ present

theorem InOrder.serve (inOrder : desk.InOrder) (lined : desk.Lined) {call : PromptCall S}
    (free : call.question?.isSome → ¬ desk.Stranded) : (desk.serve call).InOrder := by
  have reaction := desk.serve_reaction call
  generalize desk.serve call = after at reaction ⊢
  cases reaction with
  | request question => exact inOrder.request lined (free rfl) question
  | lost => exact inOrder
  | typed | cosmetic => exact inOrder.of_same rfl rfl (List.Sublist.refl _)
  | entered shown entered => exact inOrder.entered lined shown entered
  | stop => exact inOrder.of_same rfl rfl (by simp [Prompt.live, Prompt.stop])
  | reset => exact inOrder.of_same rfl rfl (by simp [Prompt.live, Prompt.reset, Prompt.new])

def NeverStranded (start : PromptDesk) (calls : List (PromptCall S)) : Prop :=
  ∀ before question rest, calls = before ++ .request question :: rest →
    ¬ (start.after before).Stranded

theorem NeverStranded.prefix {start : PromptDesk} {before rest : List (PromptCall S)}
    (never : start.NeverStranded (before ++ rest)) : start.NeverStranded before := by
  rintro earlier question later rfl
  exact never earlier question (later ++ rest) (by simp)

theorem InOrder.after (defaultQuestion : String) (board : Board) {calls : List (PromptCall S)}
    (never : (PromptDesk.new defaultQuestion board).NeverStranded calls) :
    ((PromptDesk.new defaultQuestion board).after calls).InOrder := by
  induction calls using List.reverseRecOn with
  | nil => exact ⟨by simp [PromptDesk.new, Prompt.new, Prompt.live], by simp [PromptDesk.new]⟩
  | append_singleton calls call ih =>
    rw [after_concat]
    refine (ih never.prefix).serve (Lined.after defaultQuestion board calls) fun request => ?_
    cases call with
    | request question => exact never calls question [] rfl
    | _ => simp [PromptCall.question?] at request

theorem Lined.serve_state (lined : desk.Lined) (call : PromptCall S) (id : DeferredId) :
    (desk.serve call).board.state id = desk.board.state id ∨
      desk.board.state id = .pending ∧ id ∈ desk.prompt.live := by
  have reaction := desk.serve_reaction call
  generalize desk.serve call = after at reaction ⊢
  cases reaction with
  | request question => simp
  | lost | typed | cosmetic | stop | reset => exact .inl rfl
  | entered shown entered =>
    obtain ⟨current, answer, _⟩ := lined.shown shown
    by_cases same : id = current
    · have live : id ∈ desk.prompt.live := by simp [live_shown shown answer, same]
      exact .inr ⟨lined.isOpen id live, live⟩
    · rw [entered.board, answerShown_other answer same]
      exact .inl rfl

theorem serve_handed (desk : PromptDesk) (call : PromptCall S) :
    desk.handed ⊆ (desk.serve call).handed := by
  have reaction := desk.serve_reaction call
  generalize desk.serve call = after at reaction ⊢
  cases reaction with
  | request question => simp
  | lost | typed | cosmetic | stop | reset => exact List.Subset.refl _
  | entered shown entered => exact entered.handed ▸ List.Subset.refl _

theorem settled_stays (defaultQuestion : String) (board : Board)
    (before rest : List (PromptCall S)) {id : DeferredId} :
    let start := PromptDesk.new defaultQuestion board
    id ∈ (start.after before).handed → (start.after before).board.state id ≠ .pending →
      id ∈ (start.after (before ++ rest)).handed ∧
        (start.after (before ++ rest)).board.state id ≠ .pending := by
  intro start member settled
  induction rest using List.reverseRecOn with
  | nil => simpa using And.intro member settled
  | append_singleton rest call ih =>
    rw [← List.append_assoc, after_concat]
    refine ⟨serve_handed _ call ih.1, ?_⟩
    rcases (Lined.after defaultQuestion board (before ++ rest)).serve_state call id with
      same | ⟨pending, _⟩
    · exact same ▸ ih.2
    · exact absurd pending ih.2

/-- Of two requests that are answered, the first to be answered is the first to be made. -/
def AnswersInOrder (start : PromptDesk) (calls : List (PromptCall S)) : Prop :=
  ∀ before rest, calls = before ++ rest → ∀ first ∈ (start.after before).handed, ∀ second,
    (start.after before).board.state first ≠ .pending →
    (start.after before).board.state second = .pending →
    (start.after calls).board.state second ≠ .pending → first < second

theorem NeverStranded.answersInOrder {defaultQuestion : String} {board : Board}
    {calls : List (PromptCall S)}
    (never : (PromptDesk.new defaultQuestion board).NeverStranded calls) :
    (PromptDesk.new defaultQuestion board).AnswersInOrder calls := by
  rintro before rest rfl first member second settled pending
  induction rest using List.reverseRecOn with
  | nil =>
    intro answered
    rw [List.append_nil] at answered
    exact absurd pending answered
  | append_singleton rest call ih =>
    rw [← List.append_assoc] at never ⊢
    rw [after_concat]
    intro answered
    rcases (Lined.after defaultQuestion board (before ++ rest)).serve_state call second with
      same | ⟨_, live⟩
    · exact ih never.prefix (same ▸ answered)
    · obtain ⟨still, kept⟩ := settled_stays defaultQuestion board before rest member settled
      exact (InOrder.after defaultQuestion board never.prefix).settled first still kept second live

theorem stranded_serve {call : PromptCall S} (stranded : (desk.serve call).Stranded) :
    desk.Stranded ∨ call = .stop ∧ desk.prompt.queue ≠ [] := by
  have reaction := desk.serve_reaction call
  generalize desk.serve call = after at reaction stranded
  cases reaction with
  | request question =>
    cases active : desk.prompt.active with
    | true =>
      rw [request_shown active] at stranded
      exact absurd stranded.1 (by simp [active])
    | false =>
      rw [request_hidden active] at stranded
      exact absurd stranded.1 (by simp [Prompt.activate])
  | lost | typed | cosmetic => exact .inl stranded
  | entered shown entered =>
    have unanswered : after.prompt.answer = none := by
      simpa [stranded.1] using entered.attended.shown
    exact absurd (entered.attended.line unanswered) stranded.2
  | stop => exact .inr ⟨rfl, stranded.2⟩
  | reset => exact absurd rfl stranded.2

def StopsFindNoLine (start : PromptDesk) (calls : List (PromptCall S)) : Prop :=
  ∀ before rest, calls = before ++ .stop :: rest → (start.after before).prompt.queue = []

theorem StopsFindNoLine.not_stranded {defaultQuestion : String} {board : Board}
    {calls : List (PromptCall S)}
    (empty : (PromptDesk.new defaultQuestion board).StopsFindNoLine calls) :
    ¬ ((PromptDesk.new defaultQuestion board).after calls).Stranded := by
  induction calls using List.reverseRecOn with
  | nil => exact fun stranded => stranded.2 rfl
  | append_singleton calls call ih =>
    rw [after_concat]
    intro stranded
    rcases stranded_serve stranded with before | ⟨rfl, line⟩
    · refine ih ?_ before
      rintro earlier later rfl
      exact empty earlier (later ++ [call]) (by simp)
    · exact line (empty calls [] rfl)

theorem StopsFindNoLine.neverStranded {defaultQuestion : String} {board : Board}
    {calls : List (PromptCall S)}
    (empty : (PromptDesk.new defaultQuestion board).StopsFindNoLine calls) :
    (PromptDesk.new defaultQuestion board).NeverStranded calls := by
  rintro before question rest rfl
  refine StopsFindNoLine.not_stranded ?_
  rintro earlier later rfl
  exact empty earlier (later ++ .request question :: rest) (by simp)

/-- A request is answered before an earlier one that waits exactly if it was made while requests
were stranded behind a hidden prompt, and neither answered nor hidden since. Where this never
happens, and so where every stop finds the line empty, requests are answered in the order they were
made. -/
theorem overtaking_exact (defaultQuestion : String) (board : Board) (calls : List (PromptCall S)) :
    let start := PromptDesk.new defaultQuestion board
    ((start.after calls).Overtakes ↔ start.Jumped calls) ∧
      (start.NeverStranded calls → start.AnswersInOrder calls) ∧
      (start.StopsFindNoLine calls → start.NeverStranded calls) := by
  intro start
  have lined := Lined.after defaultQuestion board calls
  exact ⟨lined.overtakes_iff.trans (ahead_iff_jumped defaultQuestion board calls),
    NeverStranded.answersInOrder, StopsFindNoLine.neverStranded⟩

/-- After a stop with two open requests, the answer goes to a third one while the second waits. -/
theorem third_request_overtakes :
    let desk := (PromptDesk.new "Input:" .empty).after (S := RecordingSurface)
      [.request "First?", .request "Second?", .stop, .request "Third?", .key "x"]
    desk.Overtakes ∧ desk.prompt.queue = [⟨"Second?", 1⟩] ∧
      (desk.key "Enter").2.board.slots = [.pending, .pending, .fulfilled (.text "x")] := by
  refine ⟨⟨2, ?_, ?_, ⟨"Second?", 1⟩, ?_, ?_⟩, ?_, ?_⟩
  all_goals decide

end PromptDesk
end SpriteStage
