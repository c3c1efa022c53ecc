import SpriteStage.Proofs.Engine.KeyRouting
import SpriteStage.Proofs.Engine.Removal

namespace SpriteStage
variable {κ σ S : Type}

namespace Prompt
variable {p : Prompt}

/-- A prompt that is shown knows the value of its answer. -/
def Answerable (p : Prompt) : Prop := p.active → p.answer.isSome

theorem Answerable.accept (answerable : p.Answerable) (request : PromptRequest) :
    (p.accept request).Answerable := by
  intro shown
  unfold Prompt.accept at shown ⊢
  by_cases before : p.active
  · rw [if_pos before] at shown ⊢
    exact answerable before
  · rw [if_neg before]
    rfl

theorem answerable_commit (p : Prompt) (board : Board) : (p.commit board).2.1.Answerable := by
  unfold commit
  cases p.queue with
  | nil => exact nofun
  | cons next rest => exact fun _ => rfl

theorem Answerable.handleKey (answerable : p.Answerable) (key : String) (board : Board) :
    (p.handleKey key board).2.1.Answerable := by
  unfold Prompt.handleKey
  split
  · exact answerable
  · split
    · exact answerable_commit p board
    · exact answerable

theorem Answerable.tickCaret (answerable : p.Answerable) (interval : UInt32) :
    (p.tickCaret interval).Answerable := by
  unfold Prompt.tickCaret
  split
  · exact answerable
  · exact answerable

end Prompt

namespace Cast
variable {before after : Cast} {happening : Happening κ σ}

theorem Step.ascending (step : Step before happening after) (sound : before.Sound)
    (ascending : before.figures.Pairwise (· < ·)) : after.figures.Pairwise (· < ·) := by
  cases step with
  | made asset =>
    apply List.pairwise_append.mpr
    refine ⟨ascending, List.pairwise_singleton .., ?_⟩
    intro old present new fresh
    rw [List.mem_singleton.mp fresh]
    exact sound.below old present
  | removed => exact ascending.sublist List.erase_sublist
  | cleared => exact .nil
  | registered => exact ascending
  | viewed | collided | other => exact ascending

end Cast

namespace Machine
variable [Surface S] {before middle after : Machine κ σ S}

omit [Surface S] in
theorem drawWith_isSome (call : DrawCall) (action : Draw S Unit) (m : Machine κ σ S) :
    (m.drawWith call action).surface.isSome = m.surface.isSome := by
  unfold drawWith
  split
  · rfl
  · rename_i surface here
    split <;> simp [note, record, here]

theorem effect_isSome (c : Call κ σ) (m : Machine κ σ S) :
    (m.effect c).2.surface.isSome = m.surface.isSome := by
  cases draws : c.drawing? with
  | none => exact congrArg Option.isSome ((effect_spares c m).surface draws)
  | some drawing =>
    obtain rfl := Call.draw_of_drawing draws
    simp only [effect]
    cases drawing with
    | rect | circle | line | text => simp only [drawing, drawWith_isSome]

theorem Draws.isSome (draws : Draws before after) :
    after.surface.isSome = before.surface.isSome := by
  cases draws with
  | cleared => exact drawWith_isSome ..
  | figures =>
    unfold drawFigures
    split
    · rfl
    · rename_i surface here
      simp [recordAll, here]
  | overlay =>
    unfold drawOverlay
    split
    · rfl
    · rename_i surface here
      dsimp only
      split <;> simp [note, record, onPrompt, onContext, here]
  | presented => simp [presentStage]

theorem completeLoads_isSome (m : Machine κ σ S) :
    m.completeLoads.surface.isSome = m.surface.isSome := by
  cases here : m.surface with
  | none => rw [completeLoads_none here, here]
  | some surface => rw [completeLoads_some here]; rfl

theorem effect_answerable (c : Call κ σ) {m : Machine κ σ S}
    (answerable : m.context.prompt.Answerable) : (m.effect c).2.context.prompt.Answerable := by
  cases c with
  | ask question => exact answerable.accept _
  | draw _ | playSound _ | random _ _ => rwa [(effect_outward rfl m).1]
  | removeFigure figure =>
    simp only [effect, withContext, Context.removeFigure]
    split <;> exact answerable
  | swapImage figure asset =>
    simp only [effect, swapImage]
    split <;> exact answerable
  | wait millis =>
    obtain ⟨deadline, _, same⟩ := wait_frame millis m
    simpa only [effect, same] using answerable
  | _ => exact answerable

/-- What belongs together on a stage: a surface and a listener, and a prompt and its answer. -/
structure Paired (m : Machine κ σ S) : Prop where
  listens : m.surface.isSome = m.context.input.isAttached
  asks : m.context.prompt.Answerable

structure Upholds (before after : Machine κ σ S) : Prop where
  surface : before.surface.isSome → after.surface.isSome
  paired : before.Paired → after.Paired

omit [Surface S] in
theorem Upholds.of_same (surface : after.surface.isSome = before.surface.isSome)
    (listener : after.context.input.listener = before.context.input.listener)
    (asks : before.context.prompt.Answerable → after.context.prompt.Answerable) :
    before.Upholds after where
  surface here := surface.trans here
  paired paired := by
    refine ⟨?_, asks paired.asks⟩
    rw [surface, paired.listens, InputState.isAttached, InputState.isAttached, listener]

omit [Surface S] in
theorem Upholds.refl (m : Machine κ σ S) : m.Upholds m := .of_same rfl rfl id

omit [Surface S] in
theorem Upholds.trans (first : before.Upholds middle) (second : middle.Upholds after) :
    before.Upholds after where
  surface here := second.surface (first.surface here)
  paired paired := second.paired (first.paired paired)

theorem upholds_perform (c : Call κ σ) (m : Machine κ σ S) : m.Upholds (m.perform c).2 :=
  .of_same (effect_isSome c m) (congrArg InputState.listener (effect_spares c m).input)
    (effect_answerable c)

theorem effect_nextId (c : Call κ σ) (m : Machine κ σ S) :
    m.context.figures.nextId ≤ (m.effect c).2.context.figures.nextId := by
  cases kind : c.arranges with
  | false =>
    exact Nat.le_of_eq (congrArg Arrangement.nextId (effect_arrangement kind m)).symm
  | true =>
    cases c with
    | createFigure asset => exact Nat.le_succ_of_le (Nat.le_max_left ..)
    | removeFigure figure =>
      simp only [effect, withContext, Context.removeFigure]
      split <;> exact Nat.le_refl _
    | requestStop | onStart | onFrame | onKey | onCollision => exact Nat.le_refl _
    | _ => cases kind

theorem kept_nextId : Kept fun before after : Machine κ σ S =>
    before.context.figures.nextId ≤ after.context.figures.nextId :=
  ⟨fun _ => Nat.le_refl _, Nat.le_trans, effect_nextId⟩

end Machine

namespace Engine
open Machine

/-- What the engine has of its last start runs down: it may stop, and its barrier may come down. -/
structure RunsDown (before after : Engine κ σ S) : Prop where
  running : after.running → before.running
  barrier : after.barrier.isSome → before.barrier.isSome
  lastTick : before.lastTick.isSome → after.lastTick.isSome
  startedAt : after.startedAt = before.startedAt

section RunsDown
variable {before middle after : Engine κ σ S}

theorem RunsDown.refl (e : Engine κ σ S) : e.RunsDown e := ⟨id, id, id, rfl⟩

theorem RunsDown.trans (first : before.RunsDown middle) (second : middle.RunsDown after) :
    before.RunsDown after where
  running runs := first.running (second.running runs)
  barrier up := first.barrier (second.barrier up)
  lastTick set := second.lastTick (first.lastTick set)
  startedAt := second.startedAt.trans first.startedAt

theorem runsDown_machine (e : Engine κ σ S) (m : Machine κ σ S) :
    e.RunsDown { e with machine := m } := ⟨id, id, id, rfl⟩

theorem runsDown_stop (e : Engine κ σ S) : e.RunsDown e.stop := by
  unfold stop
  cases e.running with
  | true => exact ⟨nofun, id, id, rfl⟩
  | false => exact ⟨nofun, id, id, rfl⟩

theorem runsDown_obeyStopRequest (e : Engine κ σ S) : e.RunsDown e.obeyStopRequest := by
  cases requested : e.context.stopRequested with
  | true =>
    rw [obeyStopRequest_requested requested]
    exact (runsDown_machine e _).trans (runsDown_stop e.heard)
  | false =>
    rw [obeyStopRequest_none requested]
    exact .refl e

theorem runsDown_halt (error : ScriptError) (e : Engine κ σ S) : e.RunsDown (e.halt error) :=
  (runsDown_machine e _).trans (runsDown_stop _)

end RunsDown

variable [Surface S] {p : Program κ σ} {e : Engine κ σ S}

theorem runsDown_polledAt (p : Program κ σ) (now : Nat) (e : Engine κ σ S) :
    e.RunsDown (e.polledAt p now) := by
  unfold polledAt pollBarrier
  split
  · exact ⟨id, id, fun _ => rfl, rfl⟩
  · rename_i tasks up
    have before : e.barrier = some tasks := up
    exact ⟨id, fun _ => by simp [before], fun _ => rfl, rfl⟩

theorem runsDown_frame (p : Program κ σ) (now : Nat) (e : Engine κ σ S) :
    e.RunsDown (e.frame p now).2 := by
  have polled := runsDown_polledAt p now e
  have goes (m : Machine κ σ S) : e.RunsDown { e.polledAt p now with machine := m } :=
    polled.trans (runsDown_machine _ m)
  have course := frame_course p now e
  generalize e.frame p now = result at course
  cases course with
  | rests halted => exact runsDown_machine e _
  | waits running up => exact goes _
  | asks running down shown => exact goes _
  | stumbles plays ran => exact (goes _).trans (runsDown_halt _ _)
  | crashes plays ran hit => exact (goes _).trans (runsDown_halt _ _)
  | plays plays ran hit => exact (goes _).trans (runsDown_obeyStopRequest _)

theorem runsDown_dispatch (p : Program κ σ) (key : String) (e : Engine κ σ S) :
    e.RunsDown (e.dispatch p key).2 := by
  unfold dispatch
  dsimp only
  split
  · exact (runsDown_machine e _).trans (runsDown_halt _ _)
  · exact (runsDown_machine e _).trans (runsDown_obeyStopRequest _)

theorem runsDown_handleInput (p : Program κ σ) (event : InputEvent) (e : Engine κ σ S) :
    e.RunsDown (e.handleInput p event).2 := by
  unfold handleInput
  split
  · exact .refl e
  · rename_i attached
    split
    · rename_i key repeated
      have pressed : e.RunsDown (e.pressing key repeated) := by
        cases repeated with
        | true => exact .refl e
        | false => exact runsDown_machine e _
      have course := keyDown_course p key repeated (e := e) (by simpa using attached)
      generalize e.keyDown p key repeated = result at course
      cases course with
      | asks shown => exact pressed.trans (runsDown_machine _ _)
      | stops swallows => exact runsDown_machine e _
      | rests hidden passes idle => exact pressed
      | plays hidden passes fresh down => exact runsDown_dispatch p key e
    · exact runsDown_machine e _
    · exact runsDown_machine e _

inductive Turnover (before after : Engine κ σ S) : Prop
  | downward (runsDown : before.RunsDown after)
  | started (surface : before.machine.surface.isSome) (lastTick : after.lastTick.isSome)
      (startedAt : after.startedAt.isSome)
  | forgotten (halted : after.running = false) (down : after.barrier = none)

theorem start_running (p : Program κ σ) (now : Nat) (clock : String) (running : e.running) :
    e.start p now clock = (.ok (), e) := if_pos running

theorem start_faceless (p : Program κ σ) (now : Nat) (clock : String) (halted : e.running = false)
    (faceless : e.machine.surface = none) :
    e.start p now clock = (.error .surfaceMissing, e.note .surfaceMissing) := by
  simp [start, halted, faceless]

theorem start_turnover (p : Program κ σ) (now : Nat) (clock : String) (e : Engine κ σ S) :
    Turnover e (e.start p now clock).2 := by
  cases running : e.running with
  | true =>
    rw [start_running p now clock running]
    exact .downward (.refl e)
  | false =>
    cases surface : e.machine.surface with
    | none =>
      rw [start_faceless p now clock running surface]
      exact .downward (runsDown_machine e _)
    | some here =>
      have ended := runsDown_obeyStopRequest ((e.opened now clock).runStartHandlers p)
      have started : ((e.opened now clock).runStartHandlers p).obeyStopRequest.startedAt =
          some clock := ended.startedAt
      rw [start_halted p now clock running (by simp [surface])]
      exact .started (by simp [surface]) (ended.lastTick rfl) (by simp [started])

theorem step_turnover (p : Program κ σ) (e : Engine κ σ S) (call : HostCall κ σ S) :
    Turnover e (e.step p call).2 := by
  cases call with
  | start now clock => exact start_turnover p now clock e
  | stop => exact .downward (runsDown_stop e)
  | reset => exact .forgotten rfl rfl
  | frame now => exact .downward (runsDown_frame p now e)
  | input event => exact .downward (runsDown_handleInput p event e)
  | attach | setDisplay | script => exact .downward (runsDown_machine e _)

/-- An engine that runs, or whose barrier is up, has been started. -/
structure Clocked (e : Engine κ σ S) : Prop where
  surface : e.running → e.machine.surface.isSome
  running : e.running → e.lastTick.isSome ∧ e.startedAt.isSome
  barrier : e.barrier.isSome → e.startedAt.isSome

omit [Surface S] in
theorem Clocked.turnover {before after : Engine κ σ S} (clocked : before.Clocked)
    (turnover : Turnover before after)
    (surface : before.machine.surface.isSome → after.machine.surface.isSome) : after.Clocked := by
  cases turnover with
  | downward down =>
    constructor
    · intro runs
      exact surface (clocked.surface (down.running runs))
    · intro runs
      obtain ⟨lastTick, startedAt⟩ := clocked.running (down.running runs)
      exact ⟨down.lastTick lastTick, down.startedAt ▸ startedAt⟩
    · intro up
      exact down.startedAt ▸ clocked.barrier (down.barrier up)
  | started here lastTick startedAt =>
    exact ⟨fun _ => surface here, fun _ => ⟨lastTick, startedAt⟩, fun _ => startedAt⟩
  | forgotten halted down => exact ⟨by simp [halted], by simp [halted], by simp [down]⟩

theorem routine_upholds (p : Program κ σ) : Routine p (Upholds (κ := κ) (σ := σ) (S := S)) :=
  .of_kept ⟨.refl, .trans, upholds_perform⟩ (fun _ _ _ => .of_same rfl rfl id)
    (fun _ _ _ => .of_same rfl rfl id) (fun _ _ => .of_same rfl rfl id)
    fun _ _ _ => .of_same rfl rfl id

theorem Touch.upholds {call : HostCall κ σ S} {before after : Machine κ σ S}
    (touch : Touch call before after) : before.Upholds after := by
  cases touch with
  | attached surface => exact ⟨fun _ => rfl, fun paired => ⟨rfl, paired.asks⟩⟩
  | hidden => exact .of_same rfl rfl fun _ => nofun
  | forgotten => exact .of_same rfl rfl fun _ => nofun
  | loaded now =>
    obtain ⟨_, surface, figures, loads, _, same⟩ := before.completeLoads_frame
    have context : before.completeLoads.context =
        { before.context with figures := figures, loads := loads } := by rw [same]
    refine .of_same before.completeLoads_isSome ?_ ?_
    · rw [context]
    · rw [context]
      exact id
  | drawn now draws =>
    obtain ⟨_, prompt, same, caret⟩ := draws.context
    refine .of_same draws.isSome (by rw [same]) fun answerable => ?_
    rw [same]
    rcases caret with rfl | rfl
    · exact answerable
    · exact answerable.tickCaret _
  | typed key => exact .of_same rfl rfl fun answerable => answerable.handleKey key _
  | moused event =>
    obtain ⟨mouse, same⟩ := InputState.applyMouse_frame event before.context.input
    have listener : (before.context.input.applyMouse event).listener =
        before.context.input.listener := by rw [same]
    exact .of_same rfl listener id
  | placed | timed | heard | fired | unguarded | untapped | pressed | released =>
    exact .of_same rfl rfl id

theorem upholds_step (p : Program κ σ) (e : Engine κ σ S) (call : HostCall κ σ S) :
    e.machine.Upholds (e.step p call).2.machine :=
  (routine_upholds p).step (fun _ _ touch => touch.upholds) e

theorem steady_nextId (p : Program κ σ) : Steady p fun before after : Machine κ σ S =>
    before.context.figures.nextId ≤ after.context.figures.nextId where
  toKept := kept_nextId
  idles idles := Nat.le_of_eq (congrArg Arrangement.nextId idles.arrangement).symm
  lends _ _ := Nat.le_refl _
  collides m := kept_nextId.collideAll p (fun _ _ _ _ _ => Nat.le_refl _)
    (fun _ _ _ => Nat.le_refl _) m.context.collisions.ids m

theorem nextId_step (p : Program κ σ) (e : Engine κ σ S) (call : HostCall κ σ S) :
    e.context.figures.nextId ≤ (e.step p call).2.context.figures.nextId :=
  (steady_nextId p).step (fun _ => Nat.le_refl _) (fun _ => Nat.le_refl _) e call

theorem Reachable.clocked (reached : Reachable p e) : e.Clocked := by
  induction reached with
  | new => exact ⟨nofun, nofun, nofun⟩
  | @step e _ call ih =>
    exact ih.turnover (step_turnover p e call) (upholds_step p e call).surface

theorem Reachable.paired (reached : Reachable p e) : e.machine.Paired := by
  induction reached with
  | new => exact ⟨rfl, nofun⟩
  | @step e _ call ih => exact (upholds_step p e call).paired ih

theorem Reachable.nextId_pos (reached : Reachable p e) : 1 ≤ e.context.figures.nextId := by
  induction reached with
  | new => exact Nat.le_refl 1
  | @step e _ call ih => exact Nat.le_trans ih (nextId_step p e call)

theorem Reachable.ascending (reached : Reachable p e) :
    e.context.cast.Sound ∧ e.context.figures.ids.Pairwise (· < ·) :=
  reached.cast_history.invariant
    (I := fun c => c.Sound ∧ c.figures.Pairwise (· < ·))
    (fun ⟨sound, ascending⟩ step =>
      ⟨Cast.Step.sound step sound, Cast.Step.ascending step sound ascending⟩)
    ⟨Cast.sound_start, .nil⟩

/-- What holds of an engine between the calls of its host. -/
structure BetweenCalls (p : Program κ σ) (e : Engine κ σ S) : Prop where
  running : e.running → e.machine.surface.isSome ∧ e.lastTick.isSome ∧ e.startedAt.isSome
  listener : e.machine.surface.isSome ↔ e.context.input.isAttached
  barrier : e.barrier.isSome → e.startedAt.isSome ∧ e.context.handlers.start ≠ []
  prompt : e.context.prompt.active → e.context.prompt.answer.isSome
  figures : e.context.figures.ids.Pairwise (· < ·)
  /-- The counter of figures is the next id, that of registrations the latest. -/
  figureCounter : ∀ figure ∈ e.context.figures.ids, figure < e.context.figures.nextId
  registrations : e.context.collisions.ids.Pairwise (· < ·)
  registrationCounter : ∀ id ∈ e.context.collisions.ids, id ≤ e.context.collisions.latest
  held : ∀ r ∈ e.context.collisions.entries, r.handler.isSome
  startAgain : e.running → ∀ now clock, e.start p now clock = (.ok (), e)
  startFaceless : e.machine.surface = none → ∀ now clock,
    e.start p now clock = (.error .surfaceMissing, e.note .surfaceMissing)

/-- It holds after every call, whether the call succeeds or fails. -/
theorem Reachable.between_calls (reached : Reachable p e) : e.BetweenCalls p := by
  have clocked := reached.clocked
  have paired := reached.paired
  obtain ⟨cast, ascending⟩ := reached.ascending
  have sound := reached.sound
  constructor
  case running => exact fun runs => ⟨clocked.surface runs, clocked.running runs⟩
  case listener => exact Bool.eq_iff_iff.mp paired.listens
  case barrier => exact fun up => ⟨clocked.barrier up, reached.barred.handlers up⟩
  case prompt => exact paired.asks
  case figures => exact ascending
  case figureCounter =>
    intro figure present
    have below := cast.below figure present
    rwa [Context.cast, Nat.max_eq_left reached.nextId_pos] at below
  case registrations => exact List.pairwise_map.mpr sound.ascending
  case registrationCounter =>
    intro id present
    obtain ⟨r, member, rfl⟩ := List.mem_map.mp present
    exact sound.bound r member
  case held =>
    intro r member
    obtain ⟨handler, own⟩ := sound.held r member
    simp [own]
  case startAgain => exact fun runs now clock => start_running p now clock runs
  case startFaceless =>
    intro faceless now clock
    have halted : e.running = false := by
      cases runs : e.running with
      | false => rfl
      | true => exact absurd (clocked.surface runs) (by simp [faceless])
    exact start_faceless p now clock halted faceless

/-- A program that asks at its start and waits for the answer. -/
def asker : Program Unit Unit where
  onStart _ := do
    let answer ← Script.perform (.ask "name")
    return some (.waitFor answer)
  onFrame _ _ := return ()
  onKey _ := return ()
  onCollision _ := return ()
  onSettled _ _ := return ()
  onPoll _ := return .done

def askerStage : Engine Unit Unit RecordingSurface :=
  let register : Script Unit Unit Unit := do
    let _ ← Script.perform (.createFigure "a.png")
    let _ ← Script.perform (.createFigure "b.png")
    let _ ← Script.perform (.onCollision 1 2 ())
    let _ ← Script.perform (.onStart ())
  (new .standard (fun _ => false) ()).after asker
    [.attach (.ofSize 640 480), .script register, .start 0 "12:00:00", .frame 16]

theorem asker_between_calls : Reachable asker askerStage ∧ askerStage.BetweenCalls asker ∧
    askerStage.running ∧ askerStage.barrier.isSome ∧ askerStage.context.prompt.active ∧
    askerStage.context.figures.ids = [1, 2] ∧ askerStage.context.collisions.ids = [1] := by
  have reached : Reachable asker askerStage := reachable_after asker _ (.new ..)
  exact ⟨reached, reached.between_calls, by rfl, by rfl, by rfl, by rfl, by rfl⟩

end Engine
end SpriteStage
