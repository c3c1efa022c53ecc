import SpriteStage.Proofs.Engine.KeyHistory
import SpriteStage.Proofs.Engine.Lending
import SpriteStage.Script.Basic

/-! Where a key goes that comes down. A prompt takes every key while it is shown. Then an Enter is
swallowed that may belong to the prompt which was answered last, and all other keys are brought to
the handlers of the program. -/

namespace SpriteStage

/-- What becomes of the guard against an Enter that belongs to an answered prompt. -/
inductive GuardEvent where
  | answered
  | framed
  | forgotten
  | swallowed
  deriving DecidableEq

namespace GuardEvent

def ends : GuardEvent → Bool
  | .answered => false
  | _ => true

/-- Whether the guard is up after events. -/
def guard (before : Bool) (events : List GuardEvent) : Bool :=
  events.foldl (fun _ event => !event.ends) before

theorem guard_append (before : Bool) (first second : List GuardEvent) :
    guard before (first ++ second) = guard (guard before first) second := List.foldl_append

/-- A guard that was down is up if a prompt was answered and nothing has ended that. -/
theorem guard_iff_standing (events : List GuardEvent) :
    guard false events ↔ Standing .answered ends events := by
  induction events using List.reverseRecOn with
  | nil => exact iff_of_false Bool.false_ne_true not_standing_nil
  | append_singleton events event ih =>
    rw [guard_append, standing_concat, ← ih]
    cases event with
    | answered => exact iff_of_true rfl (.inl rfl)
    | _ => simp [guard, ends]

end GuardEvent

theorem Prompt.tickCaret_justEnded (p : Prompt) (interval : UInt32) :
    (p.tickCaret interval).justEnded = p.justEnded := by
  unfold tickCaret
  split
  · rfl
  · rfl

theorem Prompt.handleKey_justEnded (key : String) (p : Prompt) (board : Board) :
    (p.handleKey key board).2.1.justEnded = ((p.active && key = "Enter") || p.justEnded) := by
  unfold handleKey
  cases shown : p.active with
  | false => rfl
  | true =>
    by_cases enter : key = "Enter"
    · cases line : p.queue with
      | nil => simp [enter, commit, line]
      | cons next rest => simp [enter, commit, line, activate]
    · simp [enter]

/-- The host gives every key to a prompt that is shown, and takes the keyboard back with an Enter
behind which no other prompt waits. -/
theorem Prompt.handleKey_outcome {p : Prompt} (shown : p.active) (key : String) (board : Board) :
    (p.handleKey key board).1 = ⟨true, key = "Enter" && p.queue.isEmpty⟩ := by
  unfold handleKey
  rw [if_neg (by simp [shown])]
  by_cases enter : key = "Enter"
  · cases line : p.queue with
    | nil => simp [enter, commit, line]
    | cons next rest => simp [enter, commit, line, InputOutcome.consumed]
  · simp [enter, InputOutcome.consumed]

theorem Prompt.handleKey_hides {p : Prompt} (shown : p.active) (board : Board) :
    (p.handleKey "Enter" board).2.1.active = false ↔ p.queue = [] := by
  unfold handleKey
  rw [if_neg (by simp [shown])]
  cases line : p.queue with
  | nil => simp [commit, line]
  | cons next rest => simp [commit, line, activate]

namespace Machine
variable {κ σ S : Type}

def Guards (call : HostCall κ σ S) (before after : Machine κ σ S) : Prop :=
  after.context.prompt.justEnded = before.context.prompt.justEnded ∨
    call.endsGuard ∧ after.context.prompt.justEnded = false

theorem Guards.trans {call : HostCall κ σ S} {before middle after : Machine κ σ S}
    (first : Guards call before middle) (second : Guards call middle after) :
    Guards call before after := by
  rcases second with same | ended
  · rcases first with earlier | ⟨ends, down⟩
    · exact .inl (same.trans earlier)
    · exact .inr ⟨ends, same.trans down⟩
  · exact .inr ended

theorem Guards.kept {call : HostCall κ σ S} {before after : Machine κ σ S}
    (guards : Guards call before after) (stays : call.endsGuard = false) :
    after.context.prompt.justEnded = before.context.prompt.justEnded := by
  rcases guards with same | ⟨ends, _⟩
  · exact same
  · simp [stays] at ends

end Machine

namespace Engine
open Machine
variable {κ σ S : Type} [Surface S] {p : Program κ σ} {e : Engine κ σ S}

theorem routine_guards (p : Program κ σ) (call : HostCall κ σ S) : Routine p (Guards call) :=
  .of_kept ⟨fun _ => .inl rfl, .trans, fun c m => .inl (effect_spares c m).promptGuard⟩
    (fun _ _ _ => .inl rfl) (fun _ _ _ => .inl rfl) (fun _ _ => .inl rfl) (fun _ _ _ => .inl rfl)

theorem Touch.guards {call : HostCall κ σ S} {before after : Machine κ σ S}
    (touch : Touch call before after) (other : ∀ event, call ≠ .input event) :
    Guards call before after := by
  cases touch with
  | pressed | typed | released | moused => exact absurd rfl (other _)
  | unguarded ends => exact .inr ⟨ends, rfl⟩
  | forgotten => exact .inr ⟨rfl, rfl⟩
  | loaded =>
    obtain ⟨_, _, _, _, _, same⟩ := before.completeLoads_frame
    exact .inl (by rw [same])
  | drawn now draws =>
    obtain ⟨_, prompt, same, rfl | rfl⟩ := draws.context
    · exact .inl (by rw [same])
    · exact .inl (by rw [same]; exact Prompt.tickCaret_justEnded ..)
  | _ => exact .inl rfl

theorem guards_stop (before after : Machine κ σ S) (touch : Touch .stop before after) :
    Guards (.stop : HostCall κ σ S) before after := touch.guards nofun

theorem dispatch_justEnded (p : Program κ σ) (e : Engine κ σ S) (key : String) :
    (e.dispatch p key).2.context.prompt.justEnded = e.context.prompt.justEnded :=
  ((routine_guards p .stop).dispatches guards_stop key e).kept rfl

section Events

/-- What a prompt makes of a key, whether the key was down before or not. -/
structure Prompted (key : String) (e : Engine κ σ S) (result : InputOutcome × Engine κ σ S) :
    Prop where
  taken : (result.1, result.2.context.prompt, result.2.machine.board) =
    e.context.prompt.handleKey key e.machine.board
  journal : result.2.machine.journal = e.machine.journal

omit [Surface S] in
theorem prompted_pressing (key : String) (repeated : Bool) (e : Engine κ σ S) :
    Prompted key e ((e.pressing key repeated).promptKey key) := by
  unfold pressing
  split
  · exact ⟨rfl, rfl⟩
  · exact ⟨rfl, rfl⟩

def guardEvents (e : Engine κ σ S) : HostCall κ σ S → List GuardEvent
  | .frame _ => [.framed]
  | .reset => [.forgotten]
  | .input (.keyDown key _) =>
    if !e.context.input.isAttached then []
    else if e.promptActive && key = "Enter" then [.answered]
    else if e.swallows key then [.swallowed]
    else []
  | _ => []

theorem keyDown_guard (p : Program κ σ) (key : String) (repeated : Bool)
    (attached : e.context.input.isAttached) :
    (e.keyDown p key repeated).2.context.prompt.justEnded =
      GuardEvent.guard e.context.prompt.justEnded
        (e.guardEvents (.input (.keyDown key repeated))) := by
  have course := keyDown_course p key repeated attached
  generalize e.keyDown p key repeated = result at course
  rw [guardEvents, if_neg (by simp [attached])]
  cases course with
  | asks shown =>
    have taken := congrArg (·.2.1.justEnded) (prompted_pressing key repeated e).taken
    have active : e.context.prompt.active = true := shown
    refine taken.trans ((Prompt.handleKey_justEnded key _ _).trans ?_)
    by_cases enter : key = "Enter"
    · simp [active, shown, enter, GuardEvent.guard, GuardEvent.ends]
    · simp [enter, swallows, GuardEvent.guard]
  | stops swallows =>
    have hidden : e.promptActive = false := by simp_all [Engine.swallows]
    rw [if_neg (by simp [hidden]), if_pos swallows]
    rfl
  | rests hidden passes idle =>
    rw [if_neg (by simp [hidden]), if_neg (by simp [passes])]
    unfold pressing
    split
    · rfl
    · rfl
  | plays hidden passes fresh down =>
    rw [if_neg (by simp [hidden]), if_neg (by simp [passes])]
    exact dispatch_justEnded p e key

theorem step_guard (p : Program κ σ) (e : Engine κ σ S) (call : HostCall κ σ S) :
    (e.step p call).2.context.prompt.justEnded =
      GuardEvent.guard e.context.prompt.justEnded (e.guardEvents call) := by
  have others (other : ∀ event, call ≠ .input event) (stays : call.endsGuard = false) :
      (e.step p call).2.context.prompt.justEnded = e.context.prompt.justEnded :=
    ((routine_guards p call).step (fun _ _ touch => touch.guards other) e).kept stays
  cases call with
  | frame now =>
    have other : ∀ event, (.frame now : HostCall κ σ S) ≠ .input event := by simp
    have framed := (routine_guards p (.frame now)).frame (fun _ _ touch => touch.guards other) e
    rcases framed with same | ⟨_, down⟩
    · exact same
    · exact down
  | reset => rfl
  | input event =>
    change (e.handleInput p event).2.context.prompt.justEnded = _
    by_cases attached : e.context.input.isAttached
    · cases event with
      | keyDown key repeated =>
        rw [handleInput_keyDown p key repeated attached]
        exact keyDown_guard p key repeated attached
      | _ =>
        unfold handleInput
        rw [if_neg (by simp [attached])]
        rfl
    · have nothing : e.guardEvents (.input event) = [] := by
        cases event with
        | keyDown => simp [guardEvents, attached]
        | _ => rfl
      rw [nothing, handleInput_ignored p event (by simpa using attached)]
      rfl
  | _ => exact others (by simp) rfl

end Events

/-- A prompt was answered, and since the latest answer there was no frame, no reset, and no other
Enter that was swallowed. -/
def Guarded (p : Program κ σ) (start : Engine κ σ S) (run : List (HostCall κ σ S)) : Prop :=
  Standing .answered GuardEvent.ends (start.history p guardEvents run)

theorem guarded_iff (p : Program κ σ) (settings : Settings) (present : String → Bool) (memory : σ)
    (run : List (HostCall κ σ S)) :
    ((new settings present memory).after p run).context.prompt.justEnded ↔
      Guarded p (new settings present memory) run := by
  have run_guard (e : Engine κ σ S) : (e.after p run).context.prompt.justEnded =
      GuardEvent.guard e.context.prompt.justEnded (e.history p guardEvents run) := by
    induction run generalizing e with
    | nil => rfl
    | cons call rest ih =>
      rw [history, GuardEvent.guard_append, ← step_guard p e call]
      exact ih (e.step p call).2
  rw [run_guard]
  exact GuardEvent.guard_iff_standing _

section Ends

omit [Surface S] in
theorem stop_notices (e : Engine κ σ S) : ∃ notices : List Notice,
    e.stop.machine.journal = e.machine.journal ++ notices.map .notice := by
  unfold stop
  cases e.running with
  | true => exact ⟨[.stopped], rfl⟩
  | false => exact ⟨[], (List.append_nil _).symm⟩

omit [Surface S] in
theorem obeyStopRequest_notices (e : Engine κ σ S) : ∃ notices : List Notice,
    e.obeyStopRequest.machine.journal = e.machine.journal ++ notices.map .notice := by
  unfold obeyStopRequest
  split
  · exact stop_notices e.heard
  · exact ⟨[], (List.append_nil _).symm⟩

omit [Surface S] in
theorem halt_notices (error : ScriptError) (e : Engine κ σ S) : ∃ notices : List Notice,
    (e.halt error).machine.journal = e.machine.journal ++ notices.map .notice := by
  obtain ⟨notices, journal⟩ := stop_notices (e.note (.scriptFailed error))
  refine ⟨.scriptFailed error :: notices, journal.trans ?_⟩
  exact List.append_assoc ..

end Ends

/-- The handlers of a key have their turns until one fails, and nothing else does. The reply is an
error just if one fails. -/
structure KeyPlayed (p : Program κ σ) (key : String) (e : Engine κ σ S)
    (result : Except RuntimeError InputOutcome × Engine κ σ S)
    (ended : Except ScriptError Unit × Machine κ σ S) : Prop where
  lends : LendsUntilFailure (.key (Key.canonical key)) (fun h => .keyed h.ticket) p.onKey
    (e.pressKey (Key.canonical key)).machine ended
  journal : ∃ notices : List Notice,
    result.2.machine.journal = ended.2.journal ++ notices.map .notice
  reply : match ended.1 with
    | .ok () => result.1.isOk
    | .error error => result.1 = .error (.script error)

theorem dispatch_played (p : Program κ σ) (key : String) (e : Engine κ σ S) :
    ∃ ended, KeyPlayed p key e (e.dispatch p key) ended := by
  have lends := dispatchKey_lends p (Key.canonical key) (e.pressKey (Key.canonical key)).machine
  refine ⟨_, lends, ?_, ?_⟩
  · unfold dispatch
    dsimp only
    split
    · rename_i error m ran
      rw [ran]
      exact halt_notices error { e with machine := m }
    · rename_i m ran
      rw [ran]
      exact obeyStopRequest_notices { e with machine := m }
  · cases ran : (e.pressKey (Key.canonical key)).machine.dispatchKey p (Key.canonical key) with
    | mk result m =>
      cases result with
      | ok done => simp [dispatch, ran, Except.isOk, Except.toBool]
      | error error => simp [dispatch, ran]

/-- Where a key goes that comes down. -/
inductive KeyRoute (p : Program κ σ) (key : String) (repeated : Bool) (guarded : Prop)
    (e : Engine κ σ S) (result : Except RuntimeError InputOutcome × Engine κ σ S) : Prop
  | prompt (shown : e.promptActive) (outcome : InputOutcome) (reply : result.1 = .ok outcome)
      (taken : Prompted key e (outcome, result.2))
  | swallowed (hidden : e.promptActive = false) (enter : key = "Enter") (up : guarded)
      (same : result = (.ok .consumed, e.onMachine (·.onPrompt (·.clearGuard))))
  /-- All other keys go to the program. While it is running, the handlers of a key have their turns
  if the key comes down anew and the barrier is down; if not, nothing runs. -/
  | program (hidden : e.promptActive = false) (other : ¬ (key = "Enter" ∧ guarded))
      (plays : e.running → repeated = false → e.barrier = none →
        ∃ ended, KeyPlayed p key e result ended)
      (rests : repeated ∨ e.barrier.isSome →
        result = (.ok (e.keyOutcome key), e.pressing key repeated))

/-- Where a key goes that comes down, and what the host hears of it. -/
structure KeyRouted (p : Program κ σ) (key : String) (repeated : Bool) (guarded : Prop)
    (e : Engine κ σ S) (result : Except RuntimeError InputOutcome × Engine κ σ S) : Prop where
  route : KeyRoute p key repeated guarded e result
  suppressed : ∀ outcome, result.1 = .ok outcome → (outcome.suppressDefault ↔
    e.promptActive ∨ (key = "Enter" ∧ guarded) ∨
      (e.running ∧ Key.isGameplay (Key.canonical key)))
  released : ∀ outcome, result.1 = .ok outcome → (outcome.releaseFocus ↔
    (e.promptActive ∧ key = "Enter") ∧ e.context.prompt.queue = [])
  drained : e.promptActive → key = "Enter" →
    (result.2.promptActive = false ↔ e.context.prompt.queue = [])

section Routes
variable {key : String} {repeated : Bool} {guarded : Prop}

theorem routed_prompt (p : Program κ σ) (shown : e.promptActive) :
    KeyRouted p key repeated guarded e (.ok ((e.pressing key repeated).promptKey key).1,
      ((e.pressing key repeated).promptKey key).2) := by
  have taken := prompted_pressing key repeated e
  have reply (outcome : InputOutcome)
      (same : .ok ((e.pressing key repeated).promptKey key).1 =
        (.ok outcome : Except RuntimeError InputOutcome)) :
      outcome = ⟨true, key = "Enter" && e.context.prompt.queue.isEmpty⟩ := by
    obtain rfl := Except.ok.inj same
    exact (congrArg Prod.fst taken.taken).trans (Prompt.handleKey_outcome shown key _)
  constructor
  · exact .prompt shown _ rfl taken
  · intro outcome same
    rw [reply outcome same]
    exact iff_of_true rfl (.inl shown)
  · intro outcome same
    rw [reply outcome same]
    simp [shown]
  · rintro - rfl
    have hides := e.context.prompt.handleKey_hides shown e.machine.board
    rw [← taken.taken] at hides
    exact hides

theorem KeyRoute.heard {result : Except RuntimeError InputOutcome × Engine κ σ S}
    (route : KeyRoute p key repeated guarded e result) (hidden : e.promptActive = false)
    (other : ¬ (key = "Enter" ∧ guarded))
    (reply : ∀ outcome, result.1 = .ok outcome → outcome = e.keyOutcome key) :
    KeyRouted p key repeated guarded e result := by
  have absent : ¬ e.promptActive = true := by simp [hidden]
  constructor
  · exact route
  · intro outcome same
    rw [reply outcome same, or_iff_right absent, or_iff_right other]
    exact Bool.and_eq_true_iff
  · intro outcome same
    rw [reply outcome same]
    exact iff_of_false Bool.false_ne_true fun answered => absent answered.1.1
  · exact fun shown => absurd shown absent

theorem keyDown_routed (p : Program κ σ) (up : e.context.prompt.justEnded ↔ guarded)
    (attached : e.context.input.isAttached) :
    KeyRouted p key repeated guarded e (e.keyDown p key repeated) := by
  have passing (hidden : e.promptActive = false) (passes : e.swallows key = false) :
      ¬ (key = "Enter" ∧ guarded) := by
    simpa [swallows, hidden, ← up] using passes
  have course := keyDown_course p key repeated attached
  generalize e.keyDown p key repeated = result at course
  cases course with
  | asks shown => exact routed_prompt p shown
  | stops swallows =>
    obtain ⟨hidden, enter, risen⟩ : e.promptActive = false ∧ key = "Enter" ∧
        e.context.prompt.justEnded = true := by
      simpa [Engine.swallows] using swallows
    have absent : ¬ e.promptActive = true := by simp [hidden]
    constructor
    · exact .swallowed hidden enter (up.mp risen) rfl
    · intro outcome same
      rw [← Except.ok.inj same]
      exact iff_of_true rfl (.inr (.inl ⟨enter, up.mp risen⟩))
    · intro outcome same
      rw [← Except.ok.inj same]
      exact iff_of_false Bool.false_ne_true fun answered => absent answered.1.1
    · exact fun shown => absurd shown absent
  | rests hidden passes idle =>
    have other := passing hidden passes
    have route : KeyRoute p key repeated guarded e
        (.ok (e.keyOutcome key), e.pressing key repeated) := by
      refine .program hidden other (fun _ fresh down => ?_) fun _ => rfl
      simp [fresh, down] at idle
    exact route.heard hidden other fun outcome same => (Except.ok.inj same).symm
  | plays hidden passes fresh down =>
    have other := passing hidden passes
    have route : KeyRoute p key repeated guarded e (e.dispatch p key) := by
      refine .program hidden other (fun _ _ _ => dispatch_played p key e) fun idle => ?_
      simp [fresh, down] at idle
    refine route.heard hidden other fun outcome same => ?_
    unfold dispatch at same
    dsimp only at same
    split at same
    · cases same
    · exact (Except.ok.inj same).symm

end Routes

/-- In every run, a key that comes down with a listener attached has one place to go, and the guard
swallows one Enter after an answer, unless a frame or a reset comes first. -/
theorem key_routed (p : Program κ σ) (settings : Settings) (present : String → Bool) (memory : σ)
    (run : List (HostCall κ σ S)) (key : String) (repeated : Bool)
    (attached : ((new settings present memory).after p run).context.input.isAttached) :
    KeyRouted p key repeated (Guarded p (new settings present memory) run)
      ((new settings present memory).after p run)
      (((new settings present memory).after p run).handleInput p (.keyDown key repeated)) := by
  rw [handleInput_keyDown p key repeated attached]
  exact keyDown_routed p (guarded_iff p settings present memory run) attached

def keyboardStage : Engine Unit Unit RecordingSurface := new .standard (fun _ => false) ()

def answering : List (HostCall Unit Unit RecordingSurface) :=
  let prepare : Script Unit Unit Unit := do
    let _ ← Script.onKey "enter" ()
    let _ ← Script.ask "Name?"
  [.attach (.ofSize 640 480), .script prepare, .input (.keyDown "x" false),
    .input (.keyDown "Enter" false)]

theorem second_enter_is_swallowed :
    let stage := keyboardStage.after blank answering
    let result := stage.handleInput blank (.keyDown "Enter" false)
    stage.context.input.isAttached ∧ Guarded blank keyboardStage answering ∧
      KeyRouted blank "Enter" false (Guarded blank keyboardStage answering) stage result ∧
      result.1 = .ok .consumed ∧ result.2.machine.journal = stage.machine.journal := by
  have attached : (keyboardStage.after blank answering).context.input.isAttached := by rfl
  have up : (keyboardStage.after blank answering).context.prompt.justEnded := by rfl
  have guarded := (guarded_iff blank .standard (fun _ => false) () answering).mp up
  exact ⟨attached, guarded, key_routed blank .standard (fun _ => false) () answering _ _ attached,
    by rfl, by rfl⟩

def asking : List (HostCall Unit Unit RecordingSurface) :=
  let ask : Script Unit Unit Unit := do
    let _ ← Script.ask "First?"
    let _ ← Script.ask "Second?"
  [.attach (.ofSize 640 480), .script ask]

/-- The prompt that is answered leaves no other one waiting, but one is shown: the host does not
take the keyboard back. -/
theorem last_in_line_keeps_keyboard :
    let stage := keyboardStage.after blank asking
    let result := stage.handleInput blank (.keyDown "Enter" false)
    stage.context.input.isAttached ∧ stage.promptActive ∧
      result.2.machine.board.state 0 = .fulfilled (.text "") ∧
      result.2.context.prompt.queue = [] ∧ result.1 = .ok ⟨true, false⟩ :=
  ⟨by rfl, by rfl, by rfl, by rfl, by rfl⟩

end Engine
end SpriteStage
