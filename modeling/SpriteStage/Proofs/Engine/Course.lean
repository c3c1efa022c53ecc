import SpriteStage.Proofs.Engine.HaltedInput

/-! The course of a frame and of a key. A frame has six ways to end, and which of them it takes is
settled only after the startup tasks were polled: a halted engine does nothing but loads and timers,
the barrier or a prompt ends the frame before the program plays, a handler fails, or the whole
program plays. What a key that goes down comes to is settled when it arrives. -/

namespace SpriteStage

/-- The frame handlers have seen what was tapped, and it is forgotten. -/
def Machine.untapped {κ σ S : Type} (m : Machine κ σ S) : Machine κ σ S :=
  m.onInput fun s => { s with keys := s.keys.clearJustPressed }

namespace Engine
variable {κ σ S : Type}

def swallows (e : Engine κ σ S) (key : String) : Bool :=
  !e.promptActive && (key = "Enter" && e.context.prompt.justEnded)

def pressing (key : String) (repeated : Bool) (e : Engine κ σ S) : Engine κ σ S :=
  if repeated then e else e.pressKey (Key.canonical key)

def keyOutcome (e : Engine κ σ S) (key : String) : InputOutcome :=
  ⟨e.running && Key.isGameplay (Key.canonical key), false⟩

variable [Surface S] {e : Engine κ σ S}

/-- A frame that has come to its polls and finds neither the barrier up nor a prompt shown. -/
structure Plays (p : Program κ σ) (now : Nat) (e : Engine κ σ S) : Prop where
  running : e.running
  down : (e.polledAt p now).barrier.isSome = false
  hidden : (e.polledAt p now).promptActive = false

/-- The engine after a frame in which the whole program has played: the figures are shown, and a
stop request is followed. -/
def playedOut (p : Program κ σ) (now : Nat) (e : Engine κ σ S) (m : Machine κ σ S) :
    Engine κ σ S :=
  { e.polledAt p now with machine := m.drawFigures.presentStage }.obeyStopRequest

/-- The ways a frame can go, each with its reply and the engine that it leaves. -/
inductive Course (p : Program κ σ) (now : Nat) (e : Engine κ σ S) :
    Except RuntimeError FrameStatus × Engine κ σ S → Prop
  | rests (halted : e.running = false) :
    Course p now e (.ok .stopped, e.onMachine (·.beginFrame now))
  | waits (running : e.running) (up : (e.polledAt p now).barrier.isSome) :
    Course p now e (.ok .running, (e.polledAt p now).onMachine fun m =>
      (if m.context.prompt.active then m.drawOverlay else m).presentStage)
  | asks (running : e.running) (down : (e.polledAt p now).barrier.isSome = false)
      (shown : (e.polledAt p now).promptActive) :
    Course p now e
      (.ok .running, (e.polledAt p now).onMachine fun m => m.drawFigures.drawOverlay.presentStage)
  | stumbles {error : ScriptError} {m : Machine κ σ S} (plays : e.Plays p now)
      (framed : (e.polledAt p now).machine.runFrameHandlers p (e.elapsedAt now) =
        (.error error, m)) :
    Course p now e (.error (.script error), { e.polledAt p now with machine := m }.halt error)
  | crashes {error : ScriptError} {framed m : Machine κ σ S} (plays : e.Plays p now)
      (ran : (e.polledAt p now).machine.runFrameHandlers p (e.elapsedAt now) = (.ok (), framed))
      (collided : framed.untapped.runCollisions p = (.error error, m)) :
    Course p now e (.error (.script error), { e.polledAt p now with machine := m }.halt error)
  | plays {framed m : Machine κ σ S} (plays : e.Plays p now)
      (ran : (e.polledAt p now).machine.runFrameHandlers p (e.elapsedAt now) = (.ok (), framed))
      (collided : framed.untapped.runCollisions p = (.ok (), m)) :
    Course p now e (.ok (e.playedOut p now m).status, e.playedOut p now m)

theorem course_of_plays {p : Program κ σ} {now : Nat} (plays : e.Plays p now) :
    Course p now e (e.frame p now) := by
  rw [frame_playing p now plays.running plays.down plays.hidden]
  unfold playFrame
  split
  · rename_i error m framed
    exact .stumbles plays framed
  · rename_i framed ran
    split
    · rename_i error m collided
      exact .crashes plays ran collided
    · rename_i m collided
      exact .plays plays ran collided

/-- Every frame takes one of the six ways. -/
theorem frame_course (p : Program κ σ) (now : Nat) (e : Engine κ σ S) :
    Course p now e (e.frame p now) := by
  by_cases running : e.running
  · by_cases up : (e.polledAt p now).barrier.isSome
    · rw [frame_running p now running, afterPolls, if_pos up]
      exact .waits running up
    · by_cases shown : (e.polledAt p now).promptActive
      · rw [frame_running p now running, afterPolls, if_neg up, if_pos shown]
        exact .asks running (by simpa using up) shown
      · exact course_of_plays ⟨running, by simpa using up, by simpa using shown⟩
  · have halted : e.running = false := by simpa using running
    rw [frame_halted p now halted]
    exact .rests halted

omit [Surface S] in
theorem admits_iff {key : String} (attached : e.context.input.isAttached) :
    e.admits key ↔ e.promptActive = false ∧ e.swallows key = false ∧ e.barrier = none := by
  cases shown : e.promptActive with
  | true => simp [admits, shown]
  | false => simp [admits, swallows, attached, shown, imp_iff_not_or]

/-- The ways a key can go that comes down, each with its reply and the engine that it leaves. -/
inductive KeyCourse (p : Program κ σ) (key : String) (repeated : Bool) (e : Engine κ σ S) :
    Except RuntimeError InputOutcome × Engine κ σ S → Prop
  | asks (shown : e.promptActive) : KeyCourse p key repeated e
      (.ok ((e.pressing key repeated).promptKey key).1,
        ((e.pressing key repeated).promptKey key).2)
  | stops (swallows : e.swallows key) :
    KeyCourse p key repeated e (.ok .consumed, e.onMachine (·.onPrompt (·.clearGuard)))
  | rests (hidden : e.promptActive = false) (passes : e.swallows key = false)
      (idle : repeated ∨ e.barrier.isSome) :
    KeyCourse p key repeated e (.ok (e.keyOutcome key), e.pressing key repeated)
  | plays (hidden : e.promptActive = false) (passes : e.swallows key = false)
      (fresh : repeated = false) (down : e.barrier = none) :
    KeyCourse p key repeated e (e.dispatch p key)

theorem keyDown_course (p : Program κ σ) (key : String) (repeated : Bool)
    (attached : e.context.input.isAttached) :
    KeyCourse p key repeated e (e.keyDown p key repeated) := by
  by_cases shown : e.promptActive
  · rw [keyDown, if_pos shown]
    exact .asks shown
  · have hidden : e.promptActive = false := by simpa using shown
    by_cases guarded : (key = "Enter" && e.context.prompt.justEnded) = true
    · rw [keyDown, if_neg shown, if_pos guarded]
      exact .stops (by simp [swallows, hidden, guarded])
    · have passes : e.swallows key = false := by simpa [swallows, hidden] using guarded
      cases repeated with
      | true =>
        rw [keyDown, if_neg shown, if_neg guarded, if_pos rfl]
        exact .rests hidden passes (.inl rfl)
      | false =>
        cases barrier : e.barrier with
        | some tasks =>
          have up : (e.pressKey (Key.canonical key)).barrier.isSome :=
            congrArg Option.isSome barrier
          rw [keyDown, if_neg shown, if_neg guarded, if_neg Bool.false_ne_true]
          dsimp only
          rw [if_pos up]
          exact .rests hidden passes (.inr (congrArg Option.isSome barrier))
        | none =>
          rw [keyDown_admitted ((admits_iff attached).mpr ⟨hidden, passes, barrier⟩)]
          exact .plays hidden passes rfl barrier

theorem handleInput_ignored (p : Program κ σ) (event : InputEvent)
    (detached : e.context.input.isAttached = false) : e.handleInput p event = (.ok .pass, e) :=
  if_pos (by simp [detached])

theorem handleInput_keyDown (p : Program κ σ) (key : String) (repeated : Bool)
    (attached : e.context.input.isAttached) :
    e.handleInput p (.keyDown key repeated) = e.keyDown p key repeated :=
  if_neg (by simp [attached])

theorem handleInput_keyUp (p : Program κ σ) (key : String)
    (attached : e.context.input.isAttached) :
    e.handleInput p (.keyUp key) = (.ok .pass, e.onMachine (·.onInput fun s =>
      { s with keys := s.keys.release (Key.canonical key) })) :=
  if_neg (by simp [attached])

def blank : Program Unit Unit where
  onStart _ := return none
  onFrame _ _ := return ()
  onKey _ := return ()
  onCollision _ := return ()
  onSettled _ _ := return ()
  onPoll _ := return .done

end Engine
end SpriteStage
