import SpriteStage.Proofs.Engine.Course
import SpriteStage.Proofs.Script.Tables

namespace SpriteStage

namespace Machine
variable {κ σ S : Type} [Surface S]

/-- What a frame draws. -/
inductive Draws : Machine κ σ S → Machine κ σ S → Prop
  | cleared (m : Machine κ σ S) : Draws m m.clearStage
  | figures (m : Machine κ σ S) : Draws m m.drawFigures
  | overlay (m : Machine κ σ S) : Draws m m.drawOverlay
  | presented (m : Machine κ σ S) : Draws m m.presentStage

def promptKey (key : String) (m : Machine κ σ S) : Machine κ σ S :=
  let (_, prompt, board) := m.context.prompt.handleKey key m.board
  { m with board := board }.onPrompt fun _ => prompt

/-- Drawing changes the surface and the caret of the prompt, and may leave remarks. -/
theorem Draws.context {before after : Machine κ σ S} (draws : Draws before after) :
    after.board = before.board ∧ ∃ prompt,
      after.context = { before.context with prompt := prompt } ∧
      (prompt = before.context.prompt ∨
        prompt = before.context.prompt.tickCaret before.context.settings.caretInterval) := by
  cases draws with
  | cleared =>
    unfold clearStage drawWith
    split
    · exact ⟨rfl, _, rfl, .inl rfl⟩
    · split
      · exact ⟨rfl, _, rfl, .inl rfl⟩
      · exact ⟨rfl, _, rfl, .inl rfl⟩
  | figures =>
    unfold drawFigures
    split
    · exact ⟨rfl, _, rfl, .inl rfl⟩
    · exact ⟨rfl, _, rfl, .inl rfl⟩
  | overlay =>
    unfold drawOverlay
    split
    · exact ⟨rfl, _, rfl, .inl rfl⟩
    · rename_i surface _
      have ticked : (before.context.prompt.draw before.context.settings.overlay
            before.context.settings.caretInterval surface).2.1 = before.context.prompt ∨
          (before.context.prompt.draw before.context.settings.overlay
            before.context.settings.caretInterval surface).2.1 =
          before.context.prompt.tickCaret before.context.settings.caretInterval := by
        unfold Prompt.draw
        split
        · exact .inl rfl
        · exact .inr rfl
      dsimp only
      split
      · exact ⟨rfl, _, rfl, ticked⟩
      · exact ⟨rfl, _, rfl, ticked⟩
  | presented => exact ⟨rfl, _, rfl, .inl rfl⟩

theorem Draws.leads {before after : Machine κ σ S} (draws : Draws before after) :
    before.Leads (·.isRemark) after := by
  cases draws with
  | cleared => exact leads_clearStage before
  | figures => exact leads_drawFigures before
  | overlay => exact leads_drawOverlay before
  | presented => exact leads_presentStage before

def loaded (m : Machine κ σ S) (surface : S) : Loading S :=
  Loading.complete m.loadRules m.context.loads ⟨m.context.figures, m.board, surface, [], []⟩

theorem completeLoads_some {m : Machine κ σ S} {surface : S} (here : m.surface = some surface) :
    m.completeLoads = recordAll
      ((m.loaded surface).applied.map (fun (figure, image) => .imageApplied figure image) ++
        (m.loaded surface).notices.map .notice)
      { m with
        board := (m.loaded surface).board
        surface := some (m.loaded surface).surface
        context := { m.context with figures := (m.loaded surface).figures, loads := [] } } := by
  unfold completeLoads
  rw [here]
  rfl

theorem completeLoads_none {m : Machine κ σ S} (none : m.surface = none) : m.completeLoads = m := by
  unfold completeLoads
  rw [none]

/-- Loads change the figures, settle values and make images. -/
theorem completeLoads_frame (m : Machine κ σ S) : ∃ board surface figures loads journal,
    m.completeLoads = { m with
      board := board
      surface := surface
      context := { m.context with figures := figures, loads := loads }
      journal := journal } := by
  unfold completeLoads
  split
  · exact ⟨_, _, _, _, _, rfl⟩
  · exact ⟨_, _, _, _, _, rfl⟩

end Machine

theorem InputState.applyMouse_frame (event : InputEvent) (s : InputState) :
    ∃ mouse, s.applyMouse event = { s with mouse := mouse } := by
  unfold applyMouse atPoint
  split
  · split
    · exact ⟨_, rfl⟩
    · exact ⟨_, rfl⟩
  · split
    · exact ⟨_, rfl⟩
    · exact ⟨_, rfl⟩
  · split
    · exact ⟨_, rfl⟩
    · exact ⟨_, rfl⟩
  · exact ⟨_, rfl⟩
  · exact ⟨_, rfl⟩

def HostCall.time? {κ σ S : Type} : HostCall κ σ S → Option Nat
  | .start now _ | .frame now => some now
  | _ => none

/-- A call after which an Enter need not belong to an answered prompt any longer. -/
def HostCall.endsGuard {κ σ S : Type} : HostCall κ σ S → Bool
  | .frame _ | .input _ | .reset => true
  | _ => false

namespace Engine
variable {κ σ S : Type}

section Requests
variable {e : Engine κ σ S}

def heard (e : Engine κ σ S) : Engine κ σ S :=
  e.onMachine (·.onContext fun c => { c with stopRequested := false })

theorem obeyStopRequest_requested (requested : e.context.stopRequested) :
    e.obeyStopRequest = e.heard.stop := if_pos requested

theorem obeyStopRequest_none (none : e.context.stopRequested = false) : e.obeyStopRequest = e :=
  if_neg (by simp [none])

end Requests

variable [Surface S]

/-- What the engine does to the stage in a call by its own hand. -/
inductive Touch : HostCall κ σ S → Machine κ σ S → Machine κ σ S → Prop
  | attached (surface : S) (m : Machine κ σ S) : Touch (.attach surface) m
      ((m.attachSurface surface).onInput
        (·.attach (.unscaled (Surface.size surface).1 (Surface.size surface).2)))
  | placed (display : Rect) (m : Machine κ σ S) :
      Touch (.setDisplay display) m (m.onInput (·.setDisplay display))
  | timed {call : HostCall κ σ S} {now : Nat} (brings : call.time? = some now)
      (m : Machine κ σ S) : Touch call m (m.setNow now)
  | hidden (call : HostCall κ σ S) (m : Machine κ σ S) : Touch call m (m.onPrompt (·.stop))
  | heard (call : HostCall κ σ S) (m : Machine κ σ S) :
      Touch call m (m.onContext fun c => { c with stopRequested := false })
  | forgotten (m : Machine κ σ S) : Touch .reset m ((m.onContext (·.clearWorld)).note .reset)
  | loaded (now : Nat) (m : Machine κ σ S) : Touch (.frame now) m m.completeLoads
  | fired (now : Nat) (m : Machine κ σ S) : Touch (.frame now) m m.fireTimers
  | unguarded {call : HostCall κ σ S} (ends : call.endsGuard) (m : Machine κ σ S) :
      Touch call m (m.onPrompt (·.clearGuard))
  | untapped (now : Nat) (m : Machine κ σ S) : Touch (.frame now) m
      (m.onInput fun s => { s with keys := s.keys.clearJustPressed })
  | drawn (now : Nat) {before after : Machine κ σ S} (draws : before.Draws after) :
      Touch (.frame now) before after
  | pressed (key : String) (m : Machine κ σ S) : Touch (.input (.keyDown key false)) m
      (m.onInput fun s => { s with keys := s.keys.press (Key.canonical key) })
  | typed (key : String) (repeated : Bool) (m : Machine κ σ S) :
      Touch (.input (.keyDown key repeated)) m (m.promptKey key)
  | released (key : String) (m : Machine κ σ S) : Touch (.input (.keyUp key)) m
      (m.onInput fun s => { s with keys := s.keys.release (Key.canonical key) })
  | moused (event : InputEvent) (m : Machine κ σ S) :
      Touch (.input event) m (m.onInput (·.applyMouse event))

/-- A relation that is kept by scripts, by the passes that run handlers of the start, of frames and
of keys, and by remarks on them. -/
structure Rounds (p : Program κ σ) (R : Machine κ σ S → Machine κ σ S → Prop) : Prop
    extends Machine.Kept R where
  notes : ∀ m (happening : Happening κ σ), happening.isReport → R m (m.record happening)
  launches : ∀ e : Engine κ σ S, R e.machine (e.runStartHandlers p).machine
  frames : ∀ elapsed m, R m (m.runFrameHandlers p elapsed).2
  keys : ∀ key m, R m (m.dispatchKey p key).2

/-- A relation that is kept by collisions, too. -/
structure Routine (p : Program κ σ) (R : Machine κ σ S → Machine κ σ S → Prop) : Prop
    extends Rounds p R where
  collides : ∀ m, R m (m.runCollisions p).2

namespace Rounds
variable {p : Program κ σ} {R : Machine κ σ S → Machine κ σ S → Prop}

section Lends
variable (kept : Machine.Kept R)
  (notes : ∀ m (happening : Happening κ σ), happening.isEntry → R m (m.record happening))
  (lends : ∀ m (f : Handlers κ → Handlers κ), (∀ handlers, (f handlers).issued = handlers.issued) →
    R m (m.onHandlers f))
include kept notes lends

theorem frames_of_lends (elapsed : Float32) (m : Machine κ σ S) :
    R m (m.runFrameHandlers p elapsed).2 := by
  have lent : R m (m.onHandlers fun _ => m.context.handlers.takeFrame.2) :=
    lends m (·.takeFrame.2) fun _ => rfl
  have ran := kept.passUntilFailure (fun h => .framed h.ticket elapsed)
    (fun h m => notes m (.framed h.ticket elapsed) rfl) (fun label => p.onFrame label elapsed)
    m.context.handlers.frame (m.onHandlers fun _ => m.context.handlers.takeFrame.2)
  exact kept.trans (kept.trans lent ran)
    (lends _ (·.restoreFrame m.context.handlers.frame) fun _ => rfl)

theorem keys_of_lends (key : String) (m : Machine κ σ S) : R m (m.dispatchKey p key).2 := by
  have lent : R m (m.onHandlers fun _ => (m.context.handlers.takeKey key).2) :=
    lends m (fun handlers => (handlers.takeKey key).2) fun _ => rfl
  have ran := kept.passUntilFailure (fun h => .keyed h.ticket)
    (fun h m => notes m (.keyed h.ticket) rfl) p.onKey (m.context.handlers.ofKey key)
    (m.onHandlers fun _ => (m.context.handlers.takeKey key).2)
  unfold Machine.dispatchKey
  dsimp only
  split
  · exact kept.refl m
  · exact kept.trans (kept.trans lent ran)
      (lends _ (·.restoreKey key (m.context.handlers.ofKey key)) fun handlers =>
        (Handlers.restores_restoreKey handlers _ key).issued)

theorem launches_of_lends (e : Engine κ σ S) : R e.machine (e.runStartHandlers p).machine := by
  have lent : R e.machine (e.machine.onHandlers fun _ => e.context.handlers.takeStart.2) :=
    lends e.machine (·.takeStart.2) fun _ => rfl
  have ran := kept.startPass notes p e.tasksMade e.context.handlers.start
    (e.machine.onHandlers fun _ => e.context.handlers.takeStart.2)
  exact kept.trans (kept.trans lent ran)
    (lends _ (·.restoreStart e.context.handlers.start) fun _ => rfl)

/-- Passes over handlers keep what scripts keep, if tables may be lent out and put back. -/
theorem of_lends : Rounds p R where
  toKept := kept
  notes m happening report := notes m happening (Happening.isEntry_of_isReport report)
  launches := launches_of_lends kept notes lends
  frames := frames_of_lends kept notes lends
  keys := keys_of_lends kept notes lends

end Lends

theorem framed (rounds : Rounds p R) {elapsed : Float32} {m after : Machine κ σ S}
    {result : Except ScriptError Unit} (ran : m.runFrameHandlers p elapsed = (result, after)) :
    R m after := by
  have frames := rounds.frames elapsed m
  rwa [ran] at frames

theorem polls (rounds : Rounds p R) (e : Engine κ σ S) :
    R e.machine (e.pollBarrier p).machine := by
  unfold pollBarrier
  split
  · exact rounds.refl _
  · rename_i tasks _
    exact rounds.pollAll rounds.notes p tasks e.machine

section Calls
variable {call : HostCall κ σ S}
  (touched : ∀ before after, Touch call before after → R before after)
include touched

theorem stops (rounds : Rounds p R) (e : Engine κ σ S) : R e.machine e.stop.machine := by
  have hides (e : Engine κ σ S) :
      R e.machine ({ e with running := false }.onMachine (·.onPrompt (·.stop))).machine :=
    touched _ _ (.hidden call e.machine)
  unfold stop
  dsimp only
  split
  · have noted : R e.machine (e.note .stopped).machine := rounds.notes _ (.notice .stopped) rfl
    exact rounds.trans noted (hides _)
  · exact hides e

theorem obeys (rounds : Rounds p R) (e : Engine κ σ S) :
    R e.machine e.obeyStopRequest.machine := by
  cases requested : e.context.stopRequested with
  | false =>
    rw [obeyStopRequest_none requested]
    exact rounds.refl _
  | true =>
    have heard : R e.machine e.heard.machine := touched _ _ (.heard call e.machine)
    rw [obeyStopRequest_requested requested]
    exact rounds.trans heard (rounds.stops touched e.heard)

theorem halts (rounds : Rounds p R) (error : ScriptError) (e : Engine κ σ S) :
    R e.machine (e.halt error).machine := by
  have noted : R e.machine (e.note (.scriptFailed error)).machine :=
    rounds.notes _ (.notice (.scriptFailed error)) rfl
  exact rounds.trans noted (rounds.stops touched _)

theorem starts (rounds : Rounds p R) (now : Nat) (clock : String) {e : Engine κ σ S}
    (halted : e.running = false) (surface : e.machine.surface.isSome) :
    R (e.machine.setNow now) (e.start p now clock).2.machine := by
  have opened : R (e.machine.setNow now) (e.opened now clock).machine :=
    rounds.notes _ (.notice (.started clock)) rfl
  rw [start_halted p now clock halted surface]
  exact rounds.trans (rounds.trans opened (rounds.launches _)) (rounds.obeys touched _)

theorem start (rounds : Rounds p R) (now : Nat) (clock : String)
    (brings : call.time? = some now) (e : Engine κ σ S) :
    R e.machine (e.start p now clock).2.machine := by
  cases running : e.running with
  | true => simpa [Engine.start, running] using rounds.refl _
  | false =>
    cases surface : e.machine.surface with
    | none =>
      have refused : R e.machine (e.note .surfaceMissing).machine :=
        rounds.notes e.machine (.notice .surfaceMissing) rfl
      simpa [Engine.start, running, surface] using refused
    | some =>
      have timed : R e.machine (e.machine.setNow now) := touched _ _ (.timed brings e.machine)
      exact rounds.trans timed (rounds.starts touched now clock running (by simp [surface]))

theorem dispatches (rounds : Rounds p R) (key : String) (e : Engine κ σ S) :
    R (e.pressKey (Key.canonical key)).machine (e.dispatch p key).2.machine := by
  have ran := rounds.keys (Key.canonical key) (e.pressKey (Key.canonical key)).machine
  unfold dispatch
  dsimp only
  split
  · rename_i error m same
    rw [same] at ran
    exact rounds.trans ran (rounds.halts touched error { e with machine := m })
  · rename_i m same
    rw [same] at ran
    exact rounds.trans ran (rounds.obeys touched { e with machine := m })

theorem input (rounds : Rounds p R) (event : InputEvent) (same : call = .input event)
    (e : Engine κ σ S) : R e.machine (e.handleInput p event).2.machine := by
  subst same
  unfold handleInput
  split
  · exact rounds.refl _
  · rename_i attached
    split
    · rename_i key repeated
      have pressed : R e.machine (e.pressing key repeated).machine := by
        cases repeated with
        | true => exact rounds.refl _
        | false => exact touched _ _ (.pressed key e.machine)
      have course := keyDown_course p key repeated (e := e) (by simpa using attached)
      generalize e.keyDown p key repeated = result at course
      cases course with
      | asks shown => exact rounds.trans pressed (touched _ _ (.typed key repeated _))
      | stops swallows => exact touched _ _ (.unguarded rfl e.machine)
      | rests hidden passes idle => exact pressed
      | plays hidden passes fresh down =>
        subst fresh
        exact rounds.trans pressed (rounds.dispatches touched key e)
    · rename_i key
      exact touched _ _ (.released key e.machine)
    · exact touched _ _ (.moused event e.machine)

end Calls

theorem begins (rounds : Rounds p R) {now : Nat}
    (touched : ∀ before after, Touch (.frame now) before after → R before after)
    (m : Machine κ σ S) : R m (m.beginFrame now) := by
  have timed : R m (m.setNow now) := touched _ _ (.timed rfl m)
  have loaded : R _ (m.setNow now).completeLoads := touched _ _ (.loaded now _)
  have fired : R _ (m.setNow now).completeLoads.fireTimers := touched _ _ (.fired now _)
  have unguarded : R _ (m.beginFrame now) := touched _ _ (.unguarded rfl _)
  exact rounds.trans (rounds.trans timed loaded) (rounds.trans fired unguarded)

theorem polledAt (rounds : Rounds p R) (drawn : ∀ before after, before.Draws after → R before after)
    (now : Nat) (e : Engine κ σ S) :
    R (e.machine.beginFrame now) (e.polledAt p now).machine := by
  let begun : Engine κ σ S := { e.onMachine (·.beginFrame now) with lastTick := some now }
  have polled : R begun.machine (begun.pollBarrier p).machine := rounds.polls begun
  have cleared : R (begun.pollBarrier p).machine (e.polledAt p now).machine :=
    drawn _ _ (.cleared _)
  exact rounds.trans polled cleared

/-- What rounds keep, and the engine's own hand too, every call but a frame keeps. -/
theorem step (rounds : Rounds p R) {call : HostCall κ σ S}
    (touched : ∀ before after, Touch call before after → R before after)
    (other : ∀ now, call ≠ .frame now) (e : Engine κ σ S) :
    R e.machine (e.step p call).2.machine := by
  cases call with
  | attach surface =>
    have attached := touched _ _ (.attached surface e.machine)
    exact rounds.trans attached (rounds.notes _ (.notice (.surfaceAttached ..)) rfl)
  | setDisplay display => exact touched _ _ (.placed display e.machine)
  | start now clock => exact rounds.start touched now clock rfl e
  | stop => exact rounds.stops touched e
  | reset => exact rounds.trans (rounds.stops touched e) (touched _ _ (.forgotten e.stop.machine))
  | frame now => exact absurd rfl (other now)
  | input event => exact rounds.input touched event rfl e
  | script script => exact rounds.run script e.machine

end Rounds

namespace Routine
variable {p : Program κ σ} {R : Machine κ σ S → Machine κ σ S → Prop}

theorem of_kept (kept : Machine.Kept R)
    (notes : ∀ m (happening : Happening κ σ), happening.isEntry → R m (m.record happening))
    (lends : ∀ m (f : Handlers κ → Handlers κ),
      (∀ handlers, (f handlers).issued = handlers.issued) → R m (m.onHandlers f))
    (collides : ∀ m id, R m (m.beginCollision id))
    (restores : ∀ m id handler, R m (m.onCollisions (·.restore id handler))) : Routine p R where
  toRounds := .of_lends kept notes lends
  collides m := kept.collideAll p (fun m id _ _ _ => collides m id) restores
    m.context.collisions.ids m

theorem collided (routine : Routine p R) {m after : Machine κ σ S}
    {result : Except ScriptError Unit} (ran : m.runCollisions p = (result, after)) :
    R m after := by
  have collides := routine.collides m
  rwa [ran] at collides

/-- A frame after its loads and timers: it draws, takes note of what was tapped, and may stop. -/
theorem frame_begun (routine : Routine p R)
    (stopped : ∀ before after, Touch .stop before after → R before after)
    (drawn : ∀ before after, before.Draws after → R before after)
    (untapped : ∀ m, R m m.untapped) (now : Nat) (e : Engine κ σ S) :
    R (e.machine.beginFrame now) (e.frame p now).2.machine := by
  have polled := routine.polledAt drawn now e
  have course := frame_course p now e
  generalize e.frame p now = result at course
  cases course with
  | rests halted => exact routine.refl _
  | waits running up =>
    refine routine.trans polled ?_
    dsimp only [onMachine]
    split
    · exact routine.trans (drawn _ _ (.overlay _)) (drawn _ _ (.presented _))
    · exact drawn _ _ (.presented _)
  | asks running down shown =>
    have figured := routine.trans polled (drawn _ _ (.figures _))
    exact routine.trans (routine.trans figured (drawn _ _ (.overlay _))) (drawn _ _ (.presented _))
  | @stumbles error m plays ran =>
    have framed := routine.trans polled (routine.framed ran)
    exact routine.trans framed (routine.halts stopped error { e.polledAt p now with machine := m })
  | @crashes error framed m plays ran hit =>
    have before := routine.trans (routine.trans polled (routine.framed ran)) (untapped framed)
    have collided := routine.trans before (routine.collided hit)
    exact routine.trans collided
      (routine.halts stopped error { e.polledAt p now with machine := m })
  | @plays framed m plays ran hit =>
    have before := routine.trans (routine.trans polled (routine.framed ran)) (untapped framed)
    have collided := routine.trans before (routine.collided hit)
    have figured := routine.trans collided (drawn _ _ (.figures m))
    have shown := routine.trans figured (drawn _ _ (.presented _))
    exact routine.trans shown
      (routine.obeys stopped { e.polledAt p now with machine := m.drawFigures.presentStage })

theorem frame (routine : Routine p R) {now : Nat}
    (touched : ∀ before after, Touch (.frame now) before after → R before after)
    (e : Engine κ σ S) : R (e.machine.beginFrame now) (e.frame p now).2.machine := by
  apply routine.frame_begun
  · intro before after touch
    cases touch with
    | hidden => exact touched _ _ (.hidden _ before)
    | heard => exact touched _ _ (.heard _ before)
    | timed brings | unguarded brings => cases brings
  · intro before after draws
    exact touched _ _ (.drawn now draws)
  · intro m
    exact touched _ _ (.untapped now m)

/-- What routine keeps, and the engine's own hand too, every call of a host keeps. -/
theorem step (routine : Routine p R) {call : HostCall κ σ S}
    (touched : ∀ before after, Touch call before after → R before after) (e : Engine κ σ S) :
    R e.machine (e.step p call).2.machine := by
  by_cases frame : ∃ now, call = .frame now
  · obtain ⟨now, rfl⟩ := frame
    exact routine.trans (routine.begins touched e.machine) (routine.frame touched e)
  · exact routine.toRounds.step touched (not_exists.mp frame) e

end Routine
end Engine
end SpriteStage
