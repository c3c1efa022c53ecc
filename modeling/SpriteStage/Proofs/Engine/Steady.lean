import SpriteStage.Proofs.Engine.Moves
import SpriteStage.Proofs.Script.Idle

namespace SpriteStage.Engine
variable {κ σ S : Type}

section Ends
variable {e : Engine κ σ S}

theorem idles_stop (e : Engine κ σ S) : e.machine.Idles e.stop.machine := by
  have hides (e : Engine κ σ S) :
      e.machine.Idles ({ e with running := false }.onMachine (·.onPrompt (·.stop))).machine :=
    .of_same rfl rfl
  unfold stop
  dsimp only
  split
  · have noted : e.machine.Idles (e.note .stopped).machine := Machine.idles_record rfl
    exact noted.trans (hides _)
  · exact hides e

theorem idles_halt (error : ScriptError) (e : Engine κ σ S) :
    e.machine.Idles (e.halt error).machine := by
  have noted : e.machine.Idles (e.note (.scriptFailed error)).machine := Machine.idles_record rfl
  exact noted.trans (idles_stop _)

@[simp] theorem stop_running (e : Engine κ σ S) : e.stop.running = false := rfl

end Ends

variable [Surface S]

/-- A relation that is kept by scripts and collisions, and by whatever leaves alone what scripts
have arranged; that handlers are lent out does not matter to it. -/
structure Steady (p : Program κ σ) (R : Machine κ σ S → Machine κ σ S → Prop) : Prop
    extends Machine.Kept R where
  idles : ∀ {before after}, before.Idles after → R before after
  lends : ∀ m (f : Handlers κ → Handlers κ), R m (m.onHandlers f)
  collides : ∀ m, R m (m.runCollisions p).2

variable {p : Program κ σ} {R : Machine κ σ S → Machine κ σ S → Prop} {e : Engine κ σ S}

/-- The journal tells what becomes of a part of what scripts arrange, if collisions tell it too. -/
theorem Steady.of_arranged {α : Type} {aspect : Aspect κ σ α} (arranged : aspect.Arranged S)
    (lends : ∀ (m : Machine κ σ S) (f : Handlers κ → Handlers κ),
      aspect.read (m.onHandlers f).context = aspect.read m.context)
    (begins : ∀ (m : Machine κ σ S) id r, m.context.collisions.find? id = some r →
      m.context.touching r.first r.second → aspect.Follows m (m.beginCollision id))
    (restores : ∀ (m : Machine κ σ S) id handler,
      aspect.read (m.onCollisions (·.restore id handler)).context = aspect.read m.context) :
    Steady p (aspect.Follows (S := S)) where
  toKept := arranged.kept
  idles := arranged.idles
  lends m f := .of_same rfl (lends m f)
  collides m := arranged.kept.collideAll p begins
    (fun m id handler => .of_same rfl (restores m id handler)) m.context.collisions.ids m

theorem idles_draws {before after : Machine κ σ S} (draws : before.Draws after) :
    before.Idles after := by
  cases draws with
  | cleared => exact Machine.idles_clearStage before
  | figures => exact Machine.idles_drawFigures before
  | overlay => exact Machine.idles_drawOverlay before
  | presented => exact Machine.idles_presentStage before

namespace Steady

theorem notes (steady : Steady p R) (m : Machine κ σ S) (happening : Happening κ σ)
    (plain : happening.isPlain) : R m (m.record happening) :=
  steady.idles (Machine.idles_record plain)

theorem routine (steady : Steady p R) : Routine p R where
  toRounds := .of_lends steady.toKept
    (fun m happening entry => steady.notes m happening (Happening.isPlain_of_isEntry entry))
    fun m f _ => steady.lends m f
  collides := steady.collides

theorem launched (steady : Steady p R) (now : Nat) (clock : String) (e : Engine κ σ S) :
    R e.machine ((e.opened now clock).runStartHandlers p).machine := by
  have timed : e.machine.Idles (e.machine.setNow now) := .of_same rfl rfl
  have opened : e.machine.Idles (e.opened now clock).machine :=
    timed.trans (Machine.idles_record rfl)
  exact steady.trans (steady.idles opened) (steady.routine.launches _)

theorem polledAt (steady : Steady p R) (now : Nat) (e : Engine κ σ S) :
    R e.machine (e.polledAt p now).machine := by
  have begins : R e.machine (e.machine.beginFrame now) :=
    steady.idles (Machine.idles_beginFrame now e.machine)
  have drawn (before after : Machine κ σ S) (draws : before.Draws after) : R before after :=
    steady.idles (idles_draws draws)
  exact steady.trans begins (steady.routine.polledAt drawn now e)

end Steady

/-- How handlers end: one fails and the engine halts, or a stop request is followed, if there is
one. -/
inductive Ending (R : Machine κ σ S → Machine κ σ S → Prop) (e : Engine κ σ S) {α : Type} :
    Except RuntimeError α × Engine κ σ S → Prop
  | failed {m : Machine κ σ S} (error : ScriptError) (ran : R e.machine m) :
    Ending R e (.error (.script error), { e with machine := m }.halt error)
  | ended {m : Machine κ σ S} (reply : α) (ran : R e.machine m) :
    Ending R e (.ok reply, { e with machine := m }.obeyStopRequest)

omit [Surface S] in
theorem Ending.of_ok {α : Type} {result : Except RuntimeError α × Engine κ σ S}
    (ending : Ending R e result) (ok : result.1.isOk) :
    ∃ ended : Engine κ σ S, R e.machine ended.machine ∧ ended.running = e.running ∧
      result.2 = ended.obeyStopRequest := by
  cases ending with
  | failed error ran => cases ok
  | @ended m reply ran => exact ⟨{ e with machine := m }, ran, rfl, rfl⟩

theorem Steady.of_error (steady : Steady p R) {α : Type}
    {result : Except RuntimeError α × Engine κ σ S} (ending : Ending R e result)
    (failed : result.1.isOk = false) : R e.machine result.2.machine ∧ result.2.running = false := by
  cases ending with
  | @failed m error ran =>
    exact ⟨steady.trans ran (steady.idles (idles_halt error { e with machine := m })), rfl⟩
  | ended reply ran => cases failed

theorem Steady.playFrame (steady : Steady p R) (elapsed : Float32) (e : Engine κ σ S) :
    Ending R e (e.playFrame p elapsed) := by
  have framed := steady.routine.frames elapsed e.machine
  unfold Engine.playFrame
  split
  · rename_i error m ran
    rw [ran] at framed
    exact .failed error framed
  · rename_i m ran
    rw [ran] at framed
    have cleared : m.Idles (m.onInput fun s => { s with keys := s.keys.clearJustPressed }) :=
      .of_same rfl rfl
    have collided := steady.collides (m.onInput fun s => { s with keys := s.keys.clearJustPressed })
    have before := steady.trans framed (steady.idles cleared)
    split
    · rename_i error m' ran
      rw [ran] at collided
      exact .failed error (steady.trans before collided)
    · rename_i m' ran
      rw [ran] at collided
      have drawn := (Machine.idles_drawFigures m').trans (Machine.idles_presentStage _)
      exact .ended _ (steady.trans (steady.trans before collided) (steady.idles drawn))

theorem Steady.dispatch (steady : Steady p R) (key : String) (e : Engine κ σ S) :
    Ending R e (e.dispatch p key) := by
  have pressed : e.machine.Idles (e.pressKey (Key.canonical key)).machine := .of_same rfl rfl
  have ran := steady.trans (steady.idles pressed) (steady.routine.keys (Key.canonical key) _)
  unfold Engine.dispatch
  dsimp only
  split
  · rename_i error m same
    rw [same] at ran
    exact .failed error ran
  · rename_i m same
    rw [same] at ran
    exact .ended _ ran

def keyOf (e : Engine κ σ S) : InputEvent → Option String
  | .keyDown key false => if e.admits key then some key else none
  | _ => none

/-- What comes of an event that brings no key to the program. -/
structure Unmoved (e : Engine κ σ S) (result : Except RuntimeError InputOutcome × Engine κ σ S) :
    Prop where
  reply : ∃ outcome, result.1 = .ok outcome
  machine : e.machine.Idles result.2.machine
  running : result.2.running = e.running

theorem unmoved_keyDown {key : String} {repeated : Bool} (attached : e.context.input.isAttached)
    (refused : repeated ∨ e.admits key = false) : e.Unmoved (e.keyDown p key repeated) := by
  have pressed : e.machine.Idles (e.pressing key repeated).machine := by
    cases repeated with
    | true => exact .refl _
    | false => exact .of_same rfl rfl
  have running : (e.pressing key repeated).running = e.running := by
    cases repeated with
    | true => rfl
    | false => rfl
  have course := keyDown_course p key repeated attached
  generalize e.keyDown p key repeated = result at course
  cases course with
  | asks shown => exact ⟨⟨_, rfl⟩, pressed.trans (.of_same rfl rfl), running⟩
  | stops swallows => exact ⟨⟨_, rfl⟩, .of_same rfl rfl, rfl⟩
  | rests hidden passes idle => exact ⟨⟨_, rfl⟩, pressed, running⟩
  | plays hidden passes fresh down =>
    have admitted : e.admits key := (admits_iff attached).mpr ⟨hidden, passes, down⟩
    simp [fresh, admitted] at refused

theorem unmoved_handleInput {event : InputEvent} (none : e.keyOf event = none) :
    e.Unmoved (e.handleInput p event) := by
  unfold handleInput
  split
  · exact ⟨⟨_, rfl⟩, .refl _, rfl⟩
  · rename_i attached
    have attached : e.context.input.isAttached := by simpa using attached
    split
    · rename_i key repeated
      refine unmoved_keyDown attached ?_
      cases repeated with
      | true => exact .inl rfl
      | false => exact .inr (by simpa [keyOf] using none)
    · exact ⟨⟨_, rfl⟩, .of_same rfl rfl, rfl⟩
    · exact ⟨⟨_, rfl⟩, .of_same rfl rfl, rfl⟩

omit [Surface S] in
theorem keyOf_some {event : InputEvent} {key : String} (brings : e.keyOf event = some key) :
    event = .keyDown key false ∧ e.admits key := by
  unfold keyOf at brings
  split at brings
  · split at brings
    · rename_i admitted
      obtain rfl := Option.some.inj brings
      exact ⟨rfl, admitted⟩
    · cases brings
  · cases brings

theorem handleInput_some {event : InputEvent} {key : String} (brings : e.keyOf event = some key) :
    e.handleInput p event = e.dispatch p key := by
  obtain ⟨rfl, admitted⟩ := keyOf_some brings
  have attached : e.context.input.isAttached := by simp_all [admits]
  rw [handleInput_keyDown p key false attached]
  exact keyDown_admitted admitted

theorem idles_attach (surface : S) (e : Engine κ σ S) :
    e.machine.Idles (e.attach surface).machine := by
  let size := Surface.size surface
  let listening := (e.machine.attachSurface surface).onInput (·.attach (.unscaled size.1 size.2))
  have attached : e.machine.Idles listening := .of_same rfl rfl
  exact attached.trans (Machine.idles_record rfl)

theorem idles_afterPolls (p : Program κ σ) (elapsed : Float32)
    (rests : e.barrier.isSome ∨ e.promptActive) :
    ∃ m, e.afterPolls p elapsed = (.ok .running, { e with machine := m }) ∧ e.machine.Idles m := by
  unfold afterPolls
  split
  · refine ⟨_, rfl, ?_⟩
    dsimp only
    split
    · exact (Machine.idles_drawOverlay _).trans (Machine.idles_presentStage _)
    · exact Machine.idles_presentStage _
  · rename_i down
    rw [if_pos (rests.resolve_left down)]
    have drawn := (Machine.idles_drawFigures e.machine).trans (Machine.idles_drawOverlay _)
    exact ⟨_, rfl, drawn.trans (Machine.idles_presentStage _)⟩

omit [Surface S] in
theorem idles_promptKey (key : String) (m : Machine κ σ S) : m.Idles (m.promptKey key) :=
  .of_same rfl rfl

omit [Surface S] in
theorem idles_onInput (f : InputState → InputState) (m : Machine κ σ S) : m.Idles (m.onInput f) :=
  .of_same rfl rfl

/-- Of what the engine does by its own hand, stop requests that are heard and resets alone change
what scripts have arranged. -/
theorem Touch.idles {call : HostCall κ σ S} {before after : Machine κ σ S}
    (touch : Touch call before after) : before.Idles after ∨
      after = before.onContext (fun c => { c with stopRequested := false }) ∨
      call = .reset ∧ after = (before.onContext (·.clearWorld)).note .reset := by
  cases touch with
  | heard => exact .inr (.inl rfl)
  | forgotten => exact .inr (.inr ⟨rfl, rfl⟩)
  | loaded => exact .inl (Machine.idles_completeLoads before)
  | fired => exact .inl (.of_same rfl rfl)
  | drawn now draws => exact .inl (idles_draws draws)
  | typed key => exact .inl (idles_promptKey key before)
  | placed | untapped | pressed | released | moused => exact .inl (idles_onInput _ before)
  | attached | timed | hidden | unguarded => exact .inl (.of_same rfl rfl)

/-- What scripts and passes keep, and stop requests and resets too, every call of a host keeps. -/
theorem Steady.step (steady : Steady p R)
    (hears : ∀ m : Machine κ σ S, R m (m.onContext fun c => { c with stopRequested := false }))
    (resets : ∀ m : Machine κ σ S, R m ((m.onContext (·.clearWorld)).note .reset))
    (e : Engine κ σ S) (call : HostCall κ σ S) : R e.machine (e.step p call).2.machine := by
  refine steady.routine.step (fun before after touch => ?_) e
  rcases touch.idles with idles | rfl | ⟨-, rfl⟩
  · exact steady.idles idles
  · exact hears before
  · exact resets before

/-- What scripts and passes keep, and stop requests too, every call but a reset keeps. -/
theorem Routine.step_kept (routine : Routine p R)
    (idles : ∀ {before after : Machine κ σ S}, before.Idles after → R before after)
    (hears : ∀ m : Machine κ σ S, R m (m.onContext fun c => { c with stopRequested := false }))
    (e : Engine κ σ S) {call : HostCall κ σ S} (kept : call ≠ .reset) :
    R e.machine (e.step p call).2.machine := by
  refine routine.step (fun before after touch => ?_) e
  rcases touch.idles with idle | rfl | ⟨forgets, -⟩
  · exact idles idle
  · exact hears before
  · exact absurd forgets kept

theorem steady_journal (p : Program κ σ) : Steady p fun before after : Machine κ σ S =>
    before.journal <+: after.journal where
  refl _ := List.prefix_rfl
  trans := List.IsPrefix.trans
  perform c m := (Machine.kept_aside.perform c m).grows
  idles idles := by
    obtain ⟨news, journal, _⟩ := idles.journal
    exact ⟨news, journal.symm⟩
  lends _ _ := List.prefix_rfl
  collides m := (Machine.leads_runCollisions p m).grows

theorem after_grows (p : Program κ σ) (calls : List (HostCall κ σ S)) (e : Engine κ σ S) :
    e.machine.journal <+: (e.after p calls).machine.journal := by
  induction calls generalizing e with
  | nil => exact List.prefix_rfl
  | cons call rest ih =>
    have first : e.machine.journal <+: (e.step p call).2.machine.journal :=
      (steady_journal p).step (fun _ => List.prefix_rfl) (fun _ => List.prefix_append ..) e call
    exact first.trans (ih (e.step p call).2)

theorem after_split (calls later : List (HostCall κ σ S)) {news : List (Happening κ σ)}
    (journal : (e.after p (calls ++ later)).machine.journal = e.machine.journal ++ news) :
    ∃ early late, news = early ++ late ∧
      (e.after p calls).machine.journal = e.machine.journal ++ early ∧
      (e.after p (calls ++ later)).machine.journal =
        (e.after p calls).machine.journal ++ late := by
  obtain ⟨early, first⟩ := after_grows p calls e
  obtain ⟨late, second⟩ := after_grows p later (e.after p calls)
  rw [← after_append] at second
  refine ⟨early, late, ?_, first.symm, second.symm⟩
  have whole : e.machine.journal ++ news = e.machine.journal ++ (early ++ late) := by
    rw [← journal, ← second, ← first, List.append_assoc]
  exact List.append_cancel_left whole

end SpriteStage.Engine
