import SpriteStage.Proofs.Engine.Failure
import SpriteStage.Proofs.Engine.Invariant
import SpriteStage.Proofs.Engine.StopRequest
import SpriteStage.Proofs.Surface.Recording

namespace SpriteStage

theorem Loading.complete_asks {S : Type} [Surface S] (rules : LoadRules)
    (requests : List LoadRequest) (st : Loading S) :
    Asked st.surface (complete rules requests st).surface :=
  complete_surface .refl .trans (fun path s => asked_serve (.load path) rfl s)
    (fun width height colour s => asked_serve (.solid width height colour) rfl s) rules requests st

namespace Machine
variable {κ σ S : Type} [Surface S]

/-- The surface, if there is one, is asked for images at most, and nothing is drawn on it. -/
def Asks (before after : Machine κ σ S) : Prop :=
  ∃ calls : List SurfaceCall, (∀ call ∈ calls, call.draws = false) ∧
    after.surface = before.surface.map (SurfaceCall.after calls)

theorem beginFrame_asks (now : Nat) (m : Machine κ σ S) : m.Asks (m.beginFrame now) := by
  cases here : (m.setNow now).surface with
  | none =>
    refine ⟨[], by simp, ?_⟩
    rw [beginFrame, completeLoads_none here]
    rw [show m.surface = none from here]
    exact here
  | some s =>
    obtain ⟨calls, asks, loaded⟩ := Loading.complete_asks (m.setNow now).loadRules
      (m.setNow now).context.loads ⟨m.context.figures, m.board, s, [], []⟩
    refine ⟨calls, asks, ?_⟩
    rw [beginFrame, completeLoads_some here, show m.surface = some s from here]
    exact congrArg some loaded

theorem beginFrame_input (now : Nat) (m : Machine κ σ S) :
    (m.beginFrame now).context.input = m.context.input := by
  obtain ⟨board, surface, figures, loads, journal, same⟩ := (m.setNow now).completeLoads_frame
  rw [beginFrame, same]
  rfl

end Machine

/-- A call that starts the program, if it is not running. -/
def HostCall.isStart {κ σ S : Type} : HostCall κ σ S → Bool
  | .start .. => true
  | _ => false

namespace Engine
open Journal
variable {κ σ S : Type}

theorem halt_eq (error : ScriptError) (e : Engine κ σ S) : e.halt error = { e with
    running := false
    machine := { e.machine with
      context := { e.context with prompt := e.context.prompt.stop }
      journal := e.machine.journal ++
        .notice (.scriptFailed error) :: if e.running then [.notice .stopped] else [] } } := by
  unfold halt stop
  cases running : e.running with
  | true =>
    have noted : (e.note (.scriptFailed error)).running = true := running
    rw [if_pos noted]
    simp [note, onMachine, Machine.note, Machine.record, Machine.onPrompt, Machine.onContext,
      context]
  | false =>
    have noted : (e.note (.scriptFailed error)).running = false := running
    rw [if_neg (by simp [noted])]
    rfl

variable [Surface S] {p : Program κ σ} {e : Engine κ σ S}

theorem routine_input (p : Program κ σ) : Routine p fun before after : Machine κ σ S =>
    after.context.input = before.context.input :=
  .of_kept ⟨fun _ => rfl, fun first second => second.trans first,
    fun c m => (Machine.effect_spares c m).input⟩ (fun _ _ _ => rfl) (fun _ _ _ => rfl)
    (fun _ _ => rfl) fun _ _ _ => rfl

theorem polledAt_input (p : Program κ σ) (now : Nat) (e : Engine κ σ S) :
    (e.polledAt p now).context.input = e.context.input := by
  have drawn (before after : Machine κ σ S) (draws : before.Draws after) :
      after.context.input = before.context.input := by
    obtain ⟨_, prompt, same, _⟩ := draws.context
    rw [same]
  have polled := (routine_input p).polledAt drawn now e
  exact polled.trans (e.machine.beginFrame_input now)

structure Rests (p : Program κ σ) (e : Engine κ σ S) : Prop where
  halted : e.running = false
  status : ∀ now, (e.frame p now).1 = .ok .stopped
  idle : ∀ now, ∀ happening ∈ e.news p (.frame now), happening.isRemark
  undrawn : ∀ now, e.machine.Asks (e.frame p now).2.machine

theorem rests_of_halted (halted : e.running = false) : e.Rests p := by
  have frame (now : Nat) := frame_halted p now halted
  refine ⟨halted, fun now => ?_, fun now => ?_, fun now => ?_⟩
  · rw [frame now]
  · obtain ⟨news, journal, remarks⟩ := (Machine.leads_beginFrame now e.machine).journal
    have grown : (e.step p (.frame now)).2.machine.journal = e.machine.journal ++ news := by
      rw [Engine.step, frame now]
      exact journal
    rw [news_eq grown]
    exact remarks
  · rw [frame now]
    exact e.machine.beginFrame_asks now

theorem step_halted {call : HostCall κ σ S} (halted : e.running = false)
    (waits : call.isStart = false) : (e.step p call).2.running = false := by
  have stays {after : Engine κ σ S} (down : e.RunsDown after) : after.running = false := by
    cases runs : after.running with
    | false => rfl
    | true => exact absurd (down.running runs) (by simp [halted])
  cases call with
  | start => cases waits
  | frame now => exact stays (runsDown_frame p now e)
  | input event => exact stays (runsDown_handleInput p event e)
  | stop | reset => rfl
  | attach | setDisplay | script => exact halted

/-- A halted engine is at rest until the next start. -/
theorem rests_after {calls : List (HostCall κ σ S)} (halted : e.running = false)
    (waits : ∀ call ∈ calls, call.isStart = false) : (e.after p calls).Rests p := by
  induction calls generalizing e with
  | nil => exact rests_of_halted halted
  | cons call rest ih =>
    obtain ⟨first, others⟩ := List.forall_mem_cons.mp waits
    exact ih (step_halted halted first) others

/-- What is left after a call in which a handler fails. -/
structure Halted (p : Program κ σ) (e : Engine κ σ S) (call : HostCall κ σ S)
    (play : Happening κ σ) (error : ScriptError) (left : Engine κ σ S) : Prop where
  reply : (e.step p call).1.scriptError? = some error
  last : ∃ early own, e.news p call = early ++ play :: own ∧ ∀ happening ∈ own, happening.Quiet
  engine : (e.step p call).2 = { left with
    running := false
    machine := { left.machine with
      context := { left.context with prompt := left.context.prompt.stop }
      journal := left.machine.journal ++
        .notice (.scriptFailed error) :: if left.running then [.notice .stopped] else [] } }
  hidden : (e.step p call).2.promptActive = false
  tables : ∀ table : HandlerTable, table.of (e.step p call).2.context.handlers =
    table.of e.context.handlers ++ (e.news p call).filterMap (·.registered? table)
  registrations : (e.step p call).2.context.collisions.entries =
    e.context.collisions.entries.filter (fun r => !purged (e.news p call) r) ++
      added (e.news p call)
  framed : ∀ ticket elapsed, play = .framed ticket elapsed →
    (e.step p call).2.context.input = e.context.input
  collided : ∀ id, play = .collided id → (e.step p call).2.context.input =
    { e.context.input with keys := e.context.input.keys.clearJustPressed }
  keyed : ∀ key, call = .input (.keyDown key false) → (e.step p call).2.context.input =
    { e.context.input with keys := e.context.input.keys.press (Key.canonical key) }
  rests : ∀ calls, (∀ later ∈ calls, later.isStart = false) →
    ((e.step p call).2.after p calls).Rests p

variable {call : HostCall κ σ S} {play : Happening κ σ} {error : ScriptError}
  {left : Engine κ σ S}

theorem Fails.ne_reset (fails : e.Fails p call play error left) : call ≠ .reset := by
  cases fails with
  | framed | collided | keyed => nofun

theorem Fails.last (fails : e.Fails p call play error left) :
    Machine.LastPlay play e.machine left.machine := by
  have steady := steady_journal (S := S) p
  cases fails with
  | @framed now h error m plays fails => exact fails.last.later (steady.polledAt now e)
  | @collided now id error framed m plays ran fails =>
    have before := steady.trans (steady.polledAt now e) (steady.routine.framed ran)
    exact fails.last_collision.later before
  | @keyed key h error m admitted fails =>
    have pressed : e.machine.journal <+: (e.pressKey (Key.canonical key)).machine.journal :=
      List.prefix_rfl
    exact fails.last.later pressed

theorem Fails.last_step (fails : e.Fails p call play error left) :
    Machine.LastPlay play e.machine (e.step p call).2.machine := by
  have ended : (e.step p call).2.machine.journal = left.machine.journal ++
      .notice (.scriptFailed error) :: if left.running then [.notice .stopped] else [] := by
    rw [fails.halts.2, halt_eq]
  refine fails.last.append ended (List.forall_mem_cons.mpr ⟨Happening.quiet_notice rfl, ?_⟩)
  cases left.running with
  | true => exact List.forall_mem_singleton.mpr (Happening.quiet_notice rfl)
  | false => simp

theorem framed_input {now : Nat} {elapsed : Float32} {result : Except ScriptError Unit}
    {m : Machine κ σ S}
    (ran : (e.polledAt p now).machine.runFrameHandlers p elapsed = (result, m)) :
    m.context.input = e.context.input :=
  ((routine_input p).framed ran).trans (polledAt_input p now e)

theorem collided_input {id : CollisionId} {before after : Machine κ σ S}
    (fails : Machine.CollisionFails p before id error after) :
    after.context.input = before.context.input :=
  (routine_input p).collided (Machine.runCollisions_fails.mpr ⟨id, fails⟩)

theorem keyed_input {key : String} {h : Registered κ} {before after : Machine κ σ S}
    (fails : Machine.KeyFails p key before h error after) :
    after.context.input = before.context.input := by
  have same := (routine_input p).keys key before
  rwa [Machine.dispatchKey_fails.mpr ⟨h, fails⟩] at same

theorem Fails.halted (fails : e.Fails p call play error left)
    (sound : e.context.collisions.Sound) : Halted p e call play error left := by
  obtain ⟨reply, ended⟩ := fails.halts
  have engine := ended.trans (halt_eq error left)
  have input : (e.step p call).2.context.input = left.context.input := by rw [engine]; rfl
  have halted : (e.step p call).2.running = false := by rw [engine]
  constructor
  case reply => exact reply
  case last =>
    obtain ⟨early, own, journal, silent⟩ := fails.last_step
    exact ⟨early, own, news_eq journal, silent⟩
  case engine => exact engine
  case hidden =>
    rw [engine]
    rfl
  case tables => exact step_tables p e fails.ne_reset
  case registrations => exact step_registrations e fails.ne_reset sound
  case framed =>
    intro ticket elapsed same
    cases fails with
    | @framed now h error m plays fails =>
      exact input.trans (framed_input (Machine.runFrameHandlers_fails.mpr ⟨h, fails⟩))
    | collided | keyed => cases same
  case collided =>
    intro id same
    cases fails with
    | @collided now other error framed m plays ran fails =>
      have untapped : framed.untapped.context.input =
          { e.context.input with keys := e.context.input.keys.clearJustPressed } := by
        rw [← framed_input ran]
        rfl
      exact input.trans ((collided_input fails).trans untapped)
    | framed | keyed => cases same
  case keyed =>
    intro key same
    cases fails with
    | keyed admitted fails =>
      cases same
      exact input.trans (keyed_input fails)
    | framed | collided => cases same
  case rests => exact fun calls waits => rests_after halted waits

/-- A program of three frame handlers, of which the first asks a question and the second fails. -/
def faulty : Program Nat Unit where
  onStart _ := return none
  onFrame label _ :=
    match label with
    | 1 => do
      let _ ← Script.perform (.ask "name")
    | 2 => .fail ⟨"lost"⟩
    | _ => return ()
  onKey _ := return ()
  onCollision _ := return ()
  onSettled _ _ := return ()
  onPoll _ := return .done

end Engine
end SpriteStage
