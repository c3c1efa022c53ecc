import Mathlib.Data.List.Forall2
import SpriteStage.Proofs.Engine.Moves
import SpriteStage.Proofs.Script.Twins
import SpriteStage.Proofs.Surface.Quota

/-! Drawings that fail are invisible to a program: two engines whose surfaces answer alike go through
the same states, give the same replies and run the same handlers, wherever the one or the other
fails to draw. -/

namespace SpriteStage

namespace Machine
variable {κ σ S T : Type} [Surface S] [Surface T]

structure LoadTwins (st : Loading S) (st' : Loading T) : Prop where
  figures : st.figures = st'.figures
  board : st.board = st'.board
  surface : Alike st.surface st'.surface
  notices : st.notices = st'.notices
  applied : st.applied = st'.applied

section Loads
variable {st : Loading S} {st' : Loading T}

theorem LoadTwins.report (twins : LoadTwins st st') (kind : LoadKind) (outcome : Settled) :
    LoadTwins (st.report kind outcome) (st'.report kind outcome) := by
  cases kind with
  | create => exact twins
  | swap done =>
    exact { twins with board := by simp only [Loading.report, twins.board] }

theorem LoadTwins.note (twins : LoadTwins st st') (notice : Notice) :
    LoadTwins (st.note notice) (st'.note notice) :=
  { twins with notices := by simp only [Loading.note, twins.notices] }

theorem LoadTwins.standIn (twins : LoadTwins st st') (rules : LoadRules) (figure : Figure)
    (asset : String) :
    LoadTwins (Loading.standIn rules figure asset st) (Loading.standIn rules figure asset st') := by
  obtain ⟨result, s, t, made, made', alike⟩ := twins.surface.solid
    (Loading.wholePixels figure.width) (Loading.wholePixels figure.height) rules.standIn
  unfold Loading.standIn
  rw [made, made']
  cases result with
  | ok handle => exact { twins with surface := alike, figures := by simp only [twins.figures] }
  | error e =>
    have changed : LoadTwins { st with surface := s } { st' with surface := t } :=
      { twins with surface := alike }
    exact changed.note _

theorem LoadTwins.load (twins : LoadTwins st st') (rules : LoadRules) (asset : String) :
    ∃ result s t, Loading.load rules asset st.surface = (result, s) ∧
      Loading.load rules asset st'.surface = (result, t) ∧ Alike s t := by
  unfold Loading.load
  split
  · exact ⟨_, _, _, rfl, rfl, twins.surface⟩
  · exact twins.surface.load _

theorem LoadTwins.completeOne (twins : LoadTwins st st') (rules : LoadRules)
    (request : LoadRequest) :
    LoadTwins (Loading.completeOne rules st request) (Loading.completeOne rules st' request) := by
  obtain ⟨result, s, t, loaded, loaded', alike⟩ := twins.load rules request.asset
  unfold Loading.completeOne
  rw [twins.figures, loaded, loaded']
  split
  · exact twins.report _ _
  · rename_i figure _
    cases result with
    | ok image =>
      refine LoadTwins.report ?_ _ _
      exact { twins with surface := alike, figures := rfl, applied := by simp only [twins.applied] }
    | error e =>
      have changed : LoadTwins { st with figures := st'.figures, surface := s }
          { st' with surface := t } := { twins with figures := rfl, surface := alike }
      exact ((changed.note (.imageFailed request.asset e)).standIn rules figure
        request.asset).report request.kind _

theorem LoadTwins.complete (twins : LoadTwins st st') (rules : LoadRules)
    (requests : List LoadRequest) :
    LoadTwins (Loading.complete rules requests st) (Loading.complete rules requests st') := by
  induction requests generalizing st st' with
  | nil => exact twins
  | cons request rest ih => exact ih (twins.completeOne rules request)

end Loads

section Stage
variable {m : Machine κ σ S} {n : Machine κ σ T}

theorem Twins.onPrompt (twins : m.Twins n) (f : Prompt → Prompt) :
    (m.onPrompt f).Twins (n.onPrompt f) := twins.onContext _

theorem Twins.onInput (twins : m.Twins n) (f : InputState → InputState) :
    (m.onInput f).Twins (n.onInput f) := twins.onContext _

theorem Twins.completeLoads (twins : m.Twins n) : m.completeLoads.Twins n.completeLoads := by
  obtain ⟨surface, journal, rfl, alike, told⟩ := twins.face
  cases here : m.surface with
  | none =>
    rw [here] at alike
    cases alike
    rw [completeLoads_none here, completeLoads_none rfl]
    exact twins
  | some s =>
    rw [here] at alike
    cases alike with
    | @some _ t same =>
      have started : LoadTwins ⟨m.context.figures, m.board, s, [], []⟩
          ⟨m.context.figures, m.board, t, [], []⟩ := ⟨rfl, rfl, same, rfl, rfl⟩
      have loaded : LoadTwins (m.loaded s) ((m.face (some t) journal).loaded t) :=
        started.complete m.loadRules m.context.loads
      have changed : Twins
          { m with
            board := (m.loaded s).board
            surface := some (m.loaded s).surface
            context := { m.context with figures := (m.loaded s).figures, loads := [] } }
          { m.face (some t) journal with
            board := ((m.face (some t) journal).loaded t).board
            surface := some ((m.face (some t) journal).loaded t).surface
            context := { m.context with
              figures := ((m.face (some t) journal).loaded t).figures, loads := [] } } :=
        { twins with
          board := loaded.board
          surface := .some loaded.surface
          context := by simp only [loaded.figures] }
      rw [completeLoads_some here, completeLoads_some rfl, loaded.applied, loaded.notices]
      exact changed.recordAll _

theorem Twins.fireTimers (twins : m.Twins n) : m.fireTimers.Twins n.fireTimers := by
  obtain ⟨surface, journal, rfl, alike, told⟩ := twins.face
  exact ⟨rfl, rfl, rfl, rfl, rfl, rfl, alike, told⟩

theorem Twins.beginFrame (twins : m.Twins n) (now : Nat) :
    (m.beginFrame now).Twins (n.beginFrame now) := by
  have timed : (m.setNow now).Twins (n.setNow now) := twins.onContext _
  exact timed.completeLoads.fireTimers.onPrompt _

theorem Twins.clearStage (twins : m.Twins n) : m.clearStage.Twins n.clearStage :=
  twins.fade (fades_drawWith _ (onlyDraws_paint _) m) (fades_drawWith _ (onlyDraws_paint _) n)

theorem Twins.drawFigures (twins : m.Twins n) : m.drawFigures.Twins n.drawFigures :=
  twins.fade (fades_drawFigures m) (fades_drawFigures n)

/-- The caret advances on both stages, whatever becomes of the overlay. -/
theorem Twins.drawOverlay (twins : m.Twins n) : m.drawOverlay.Twins n.drawOverlay := by
  have ticked : m.tickPrompt.Twins n.tickPrompt := by
    unfold tickPrompt
    rw [twins.context, twins.isSome]
    split
    · exact twins.onPrompt _
    · exact twins
  exact ticked.fade (fades_drawOverlay m) (fades_drawOverlay n)

theorem Twins.presentStage (twins : m.Twins n) : m.presentStage.Twins n.presentStage :=
  twins.fade (fades_presentStage m) (fades_presentStage n)

end Stage
end Machine

namespace Engine
variable {κ σ S T : Type} [Surface S] [Surface T]

/-- Two engines are in the same state, apart from what has been drawn. -/
structure Twins (e : Engine κ σ S) (f : Engine κ σ T) : Prop where
  machine : e.machine.Twins f.machine
  running : e.running = f.running
  barrier : e.barrier = f.barrier
  lastTick : e.lastTick = f.lastTick
  startedAt : e.startedAt = f.startedAt
  tasksMade : e.tasksMade = f.tasksMade

/-- Two calls give the same reply and leave twins behind. -/
structure Matching {α : Type} (first : α × Engine κ σ S) (second : α × Engine κ σ T) : Prop where
  reply : first.1 = second.1
  twins : first.2.Twins second.2

section Calls
variable {e : Engine κ σ S} {f : Engine κ σ T}

theorem Twins.onMachine (twins : e.Twins f) {m : Machine κ σ S} {n : Machine κ σ T}
    (machines : m.Twins n) : Twins { e with machine := m } { f with machine := n } :=
  { twins with machine := machines }

theorem Twins.context (twins : e.Twins f) : e.context = f.context := twins.machine.context

theorem Twins.note (twins : e.Twins f) (notice : Notice) : (e.note notice).Twins (f.note notice) :=
  twins.onMachine (twins.machine.note notice)

theorem Twins.stop (twins : e.Twins f) : e.stop.Twins f.stop := by
  have hides {e : Engine κ σ S} {f : Engine κ σ T} (twins : e.Twins f) :
      Twins ({ e with running := false }.onMachine (·.onPrompt (·.stop)))
        ({ f with running := false }.onMachine (·.onPrompt (·.stop))) :=
    { twins with machine := twins.machine.onPrompt _, running := rfl }
  unfold Engine.stop
  rw [twins.running]
  dsimp only
  split
  · exact hides (twins.note .stopped)
  · exact hides twins

theorem Twins.reset (twins : e.Twins f) : e.reset.Twins f.reset := by
  have cleared := twins.stop.machine.onContext (·.clearWorld)
  have forgotten : Twins { e.stop.onMachine (·.onContext (·.clearWorld)) with
        barrier := none, lastTick := none, startedAt := none }
      { f.stop.onMachine (·.onContext (·.clearWorld)) with
        barrier := none, lastTick := none, startedAt := none } :=
    { twins.stop with machine := cleared, barrier := rfl, lastTick := rfl, startedAt := rfl }
  exact forgotten.note .reset

theorem Twins.obeyStopRequest (twins : e.Twins f) : e.obeyStopRequest.Twins f.obeyStopRequest := by
  unfold Engine.obeyStopRequest
  rw [twins.context]
  split
  · exact (twins.onMachine (twins.machine.onContext _)).stop
  · exact twins

theorem Twins.halt (twins : e.Twins f) (error : ScriptError) : (e.halt error).Twins (f.halt error) :=
  (twins.note _).stop

theorem Twins.attach (twins : e.Twins f) {s : S} {t : T} (alike : Alike s t) :
    (e.attach s).Twins (f.attach t) := by
  have placed : Machine.Twins
      ((e.machine.attachSurface s).onInput
        (·.attach (.unscaled (Surface.size s).1 (Surface.size s).2)))
      ((f.machine.attachSurface t).onInput
        (·.attach (.unscaled (Surface.size t).1 (Surface.size t).2))) :=
    { twins.machine with
      surface := .some alike
      context := by
        simp only [Machine.attachSurface, Machine.onInput, Machine.onContext, alike.size,
          twins.machine.context] }
  have count : (e.onMachine fun m => (m.attachSurface s).onInput
      (·.attach (.unscaled (Surface.size s).1 (Surface.size s).2))).context.input.listenersMade =
      (f.onMachine fun m => (m.attachSurface t).onInput
        (·.attach (.unscaled (Surface.size t).1 (Surface.size t).2))).context.input.listenersMade :=
    congrArg (·.input.listenersMade) placed.context
  have noted := (twins.onMachine placed).note (.surfaceAttached (Surface.size t).1
    (Surface.size t).2 (f.onMachine fun m => (m.attachSurface t).onInput
      (·.attach (.unscaled (Surface.size t).1 (Surface.size t).2))).context.input.listenersMade)
  unfold Engine.attach
  dsimp only
  rw [count, alike.size]
  rw [alike.size] at noted
  exact noted

theorem Twins.runStartHandlers (twins : e.Twins f) (p : Program κ σ) :
    (e.runStartHandlers p).Twins (f.runStartHandlers p) := by
  obtain ⟨tasks, m, n, ran, ran', same⟩ := ((twins.machine.onHandlers fun _ =>
    f.context.handlers.takeStart.2).startPass p f.tasksMade f.context.handlers.start).cases
  have lent : f.context.handlers.takeStart =
    (f.context.handlers.start, f.context.handlers.takeStart.2) := rfl
  unfold Engine.runStartHandlers
  rw [twins.context, twins.tasksMade, twins.barrier, lent]
  dsimp only
  rw [ran, ran']
  exact { twins with
    machine := same.onHandlers (·.restoreStart f.context.handlers.start)
    barrier := rfl
    tasksMade := rfl }

theorem Twins.start (twins : e.Twins f) (p : Program κ σ) (now : Nat) (clock : String) :
    Matching (e.start p now clock) (f.start p now clock) := by
  have surface := twins.machine.isSome
  cases running : f.running with
  | true =>
    have running' : e.running := twins.running.trans running
    rw [Engine.start, if_pos running', Engine.start, if_pos running]
    exact ⟨rfl, twins⟩
  | false =>
    have running' : e.running = false := twins.running.trans running
    cases here : f.machine.surface with
    | none =>
      have here' : e.machine.surface = none := by simpa [here] using surface
      have refused : e.start p now clock = (.error .surfaceMissing, e.note .surfaceMissing) := by
        simp [Engine.start, running', here']
      have refused' : f.start p now clock = (.error .surfaceMissing, f.note .surfaceMissing) := by
        simp [Engine.start, running, here]
      rw [refused, refused']
      exact ⟨rfl, twins.note .surfaceMissing⟩
    | some t =>
      have opened : (e.opened now clock).Twins (f.opened now clock) := by
        have timed : (e.machine.setNow now).Twins (f.machine.setNow now) :=
          twins.machine.onContext _
        exact { twins with
          machine := timed.note _, running := rfl, lastTick := rfl, startedAt := rfl }
      rw [start_halted p now clock running' (by simp [surface, here]),
        start_halted p now clock running (by simp [here])]
      exact ⟨rfl, (opened.runStartHandlers p).obeyStopRequest⟩

theorem Twins.pollBarrier (twins : e.Twins f) (p : Program κ σ) :
    (e.pollBarrier p).Twins (f.pollBarrier p) := by
  unfold Engine.pollBarrier
  rw [twins.barrier]
  split
  · exact twins
  · rename_i tasks _
    obtain ⟨waiting, m, n, ran, ran', same⟩ := (twins.machine.pollAll p tasks).cases
    rw [ran, ran']
    exact { twins with machine := same, barrier := rfl }

theorem Twins.playFrame (twins : e.Twins f) (p : Program κ σ) (elapsed : Float32) :
    Matching (e.playFrame p elapsed) (f.playFrame p elapsed) := by
  obtain ⟨reply, m, n, ran, ran', same⟩ := (twins.machine.runFrameHandlers p elapsed).cases
  unfold Engine.playFrame
  rw [ran, ran']
  cases reply with
  | error error => exact ⟨rfl, (twins.onMachine same).halt error⟩
  | ok done =>
    let untap (s : InputState) : InputState := { s with keys := s.keys.clearJustPressed }
    have cleared : (m.onInput untap).Twins (n.onInput untap) := same.onInput untap
    obtain ⟨reply, m', n', ran, ran', same⟩ : ∃ reply m' n',
        (m.onInput untap).runCollisions p = (reply, m') ∧
          (n.onInput untap).runCollisions p = (reply, n') ∧ m'.Twins n' := by
      unfold Machine.runCollisions
      rw [cleared.context]
      exact (cleared.collideAll p _).cases
    simp only [untap] at ran ran'
    dsimp only
    rw [ran, ran']
    cases reply with
    | error error => exact ⟨rfl, (twins.onMachine same).halt error⟩
    | ok done =>
      have obeyed := (twins.onMachine same.drawFigures.presentStage).obeyStopRequest
      refine ⟨?_, obeyed⟩
      simp only [status, obeyed.running]

theorem Twins.polledAt (twins : e.Twins f) (p : Program κ σ) (now : Nat) :
    (e.polledAt p now).Twins (f.polledAt p now) := by
  have begun : Twins { e.onMachine (·.beginFrame now) with lastTick := some now }
      { f.onMachine (·.beginFrame now) with lastTick := some now } :=
    { twins with machine := twins.machine.beginFrame now, lastTick := rfl }
  have polled := begun.pollBarrier p
  exact polled.onMachine polled.machine.clearStage

theorem Twins.afterPolls (twins : e.Twins f) (p : Program κ σ) (elapsed : Float32) :
    Matching (e.afterPolls p elapsed) (f.afterPolls p elapsed) := by
  unfold Engine.afterPolls promptActive
  rw [twins.barrier, twins.context]
  split
  · refine ⟨rfl, twins.onMachine ?_⟩
    dsimp only
    rw [twins.machine.context]
    split
    · exact twins.machine.drawOverlay.presentStage
    · exact twins.machine.presentStage
  · split
    · exact ⟨rfl, twins.onMachine twins.machine.drawFigures.drawOverlay.presentStage⟩
    · exact twins.playFrame p elapsed

theorem Twins.frame (twins : e.Twins f) (p : Program κ σ) (now : Nat) :
    Matching (e.frame p now) (f.frame p now) := by
  cases running : f.running with
  | false =>
    rw [frame_halted p now (twins.running.trans running), frame_halted p now running]
    exact ⟨rfl, twins.onMachine (twins.machine.beginFrame now)⟩
  | true =>
    have elapsed : e.elapsedAt now = f.elapsedAt now := by
      simp only [elapsedAt, Engine.elapsed, Engine.onMachine, twins.lastTick]
    rw [frame_running p now (twins.running.trans running), frame_running p now running, elapsed]
    exact (twins.polledAt p now).afterPolls p _

theorem Twins.pressKey (twins : e.Twins f) (key : String) : (e.pressKey key).Twins (f.pressKey key) :=
  twins.onMachine (twins.machine.onInput _)

theorem Twins.promptKey (twins : e.Twins f) (key : String) :
    Matching (e.promptKey key) (f.promptKey key) := by
  unfold Engine.promptKey
  rw [twins.context, twins.machine.board]
  have settled : Machine.Twins
      { e.machine with board := (f.context.prompt.handleKey key f.machine.board).2.2 }
      { f.machine with board := (f.context.prompt.handleKey key f.machine.board).2.2 } :=
    { twins.machine with board := rfl }
  exact ⟨rfl, twins.onMachine (settled.onPrompt _)⟩

theorem Twins.keyDown (twins : e.Twins f) (p : Program κ σ) (key : String) (repeated : Bool) :
    Matching (e.keyDown p key repeated) (f.keyDown p key repeated) := by
  have pressed := twins.pressKey (Key.canonical key)
  unfold Engine.keyDown promptActive
  dsimp only
  rw [twins.context]
  split
  · split
    · obtain ⟨outcome, same⟩ := twins.promptKey key
      exact ⟨by rw [outcome], same⟩
    · obtain ⟨outcome, same⟩ := pressed.promptKey key
      exact ⟨by rw [outcome], same⟩
  · split
    · exact ⟨rfl, twins.onMachine (twins.machine.onPrompt _)⟩
    · rw [twins.running]
      split
      · exact ⟨rfl, twins⟩
      · have barrier := congrArg Option.isSome pressed.barrier
        by_cases up : (f.pressKey (Key.canonical key)).barrier.isSome
        · rw [if_pos (barrier.trans up), if_pos up]
          exact ⟨rfl, pressed⟩
        · rw [if_neg (barrier ▸ up), if_neg up]
          obtain ⟨reply, m, n, ran, ran', same⟩ :=
            (pressed.machine.dispatchKey p (Key.canonical key)).cases
          rw [ran, ran']
          cases reply with
          | error error => exact ⟨rfl, (pressed.onMachine same).halt error⟩
          | ok done => exact ⟨rfl, (pressed.onMachine same).obeyStopRequest⟩

theorem Twins.handleInput (twins : e.Twins f) (p : Program κ σ) (event : InputEvent) :
    Matching (e.handleInput p event) (f.handleInput p event) := by
  unfold Engine.handleInput
  rw [twins.context]
  split
  · exact ⟨rfl, twins⟩
  · split
    · exact twins.keyDown p _ _
    · exact ⟨rfl, twins.onMachine (twins.machine.onInput _)⟩
    · exact ⟨rfl, twins.onMachine (twins.machine.onInput _)⟩

end Calls
end Engine

/-- Two hosts make the same call; the surfaces that they attach answer alike. -/
inductive HostCall.Matches {κ σ S T : Type} [Surface S] [Surface T] :
    HostCall κ σ S → HostCall κ σ T → Prop
  | attach {s : S} {t : T} (alike : Alike s t) : Matches (.attach s) (.attach t)
  | setDisplay (display : Rect) : Matches (.setDisplay display) (.setDisplay display)
  | start (now : Nat) (clock : String) : Matches (.start now clock) (.start now clock)
  | stop : Matches .stop .stop
  | reset : Matches .reset .reset
  | frame (now : Nat) : Matches (.frame now) (.frame now)
  | input (event : InputEvent) : Matches (.input event) (.input event)
  | script (script : Script κ σ Unit) : Matches (.script script) (.script script)

namespace Engine
variable {κ σ S T : Type} [Surface S] [Surface T]

def replies (p : Program κ σ) (e : Engine κ σ S) : List (HostCall κ σ S) → List HostReply
  | [] => []
  | call :: rest => (e.step p call).1 :: (e.step p call).2.replies p rest

section Runs
variable {e : Engine κ σ S} {f : Engine κ σ T} {p : Program κ σ}

theorem Twins.step (twins : e.Twins f) {call : HostCall κ σ S} {call' : HostCall κ σ T}
    (matching : call.Matches call') : Matching (e.step p call) (f.step p call') := by
  cases matching with
  | attach alike => exact ⟨rfl, twins.attach alike⟩
  | setDisplay display => exact ⟨rfl, twins.onMachine (twins.machine.onInput _)⟩
  | start now clock =>
    obtain ⟨reply, same⟩ := twins.start p now clock
    exact ⟨congrArg HostReply.started reply, same⟩
  | stop => exact ⟨rfl, twins.stop⟩
  | reset => exact ⟨rfl, twins.reset⟩
  | frame now =>
    obtain ⟨reply, same⟩ := twins.frame p now
    exact ⟨congrArg HostReply.framed reply, same⟩
  | input event =>
    obtain ⟨reply, same⟩ := twins.handleInput p event
    exact ⟨congrArg HostReply.handled reply, same⟩
  | script script =>
    obtain ⟨reply, same⟩ := twins.machine.run script
    exact ⟨congrArg HostReply.ran reply, twins.onMachine same⟩

theorem Twins.run (twins : e.Twins f) {calls : List (HostCall κ σ S)}
    {others : List (HostCall κ σ T)} (matching : List.Forall₂ HostCall.Matches calls others) :
    e.replies p calls = f.replies p others ∧ (e.after p calls).Twins (f.after p others) := by
  induction matching generalizing e f with
  | nil => exact ⟨rfl, twins⟩
  | cons first rest ih =>
    obtain ⟨reply, same⟩ := twins.step (p := p) first
    obtain ⟨replies, last⟩ := ih same
    exact ⟨by rw [Engine.replies, Engine.replies, reply, replies], last⟩

theorem new_twins (settings : Settings) (present : String → Bool) (memory : σ) :
    (new settings present memory : Engine κ σ S).Twins
      (new settings present memory : Engine κ σ T) :=
  ⟨⟨rfl, rfl, rfl, rfl, rfl, rfl, .none, rfl⟩, rfl, rfl, rfl, rfl, rfl⟩

/-- Hosts that make the same calls get the same replies, and after every one of them the two engines
are in the same state and have the same journal, apart from what has been drawn. -/
theorem drawing_failures_invisible (p : Program κ σ) (settings : Settings)
    (present : String → Bool) (memory : σ) {calls : List (HostCall κ σ S)}
    {others : List (HostCall κ σ T)} (matching : List.Forall₂ HostCall.Matches calls others) :
    (new settings present memory).replies p calls =
        (new settings present memory).replies p others ∧
      ∀ n, ((new settings present memory).after p (calls.take n)).Twins
        ((new settings present memory).after p (others.take n)) := by
  have started := new_twins (κ := κ) (S := S) (T := T) settings present memory
  exact ⟨(started.run matching).1, fun n => (started.run (List.forall₂_take n matching)).2⟩

end Runs

def painting : Program Unit Unit where
  onStart _ := return none
  onFrame _ _ := do
    let _ ← Script.perform (.draw (.rect ⟨0, 0, 8, 8⟩ "red"))
    let _ ← Script.perform (.createFigure "a.png")
  onKey _ := return ()
  onCollision _ := return ()
  onSettled _ _ := return ()
  onPoll _ := return .done

def paintingRun (surface : S) : List (HostCall Unit Unit S) :=
  let register : Script Unit Unit Unit := do
    let _ ← Script.perform (.onFrame ())
  [.attach surface, .script register, .start 0 "12:00:00", .frame 16, .frame 32]

/-- A surface that cannot be cleared, and on which only one rectangle can be filled. -/
def brittle : QuotaSurface := ⟨.ofSize 640 480, [(.clear, 0), (.fillRect, 1)]⟩

/-- On the brittle surface three drawings fail in the two frames; the program does not notice. -/
theorem brittle_surface_unnoticed :
    let stage (S : Type) : Engine Unit Unit S := new .standard (fun _ => false) ()
    let sound := paintingRun brittle.record
    let broken := paintingRun brittle
    List.Forall₂ HostCall.Matches sound broken ∧
      (stage _).replies painting sound = (stage _).replies painting broken ∧
      ((stage _).after painting sound).Twins ((stage _).after painting broken) ∧
      ((stage _).after painting sound).machine.journal.countP (·.isDrawFailure) = 0 ∧
      ((stage _).after painting broken).machine.journal.countP (·.isDrawFailure) = 3 := by
  intro stage sound broken
  have alike : Alike brittle.record brittle := QuotaSurface.alike_record rfl rfl
  have matching : List.Forall₂ HostCall.Matches sound broken :=
    .cons (.attach alike) (.cons (.script _) (.cons (.start ..) (.cons (.frame _)
      (.cons (.frame _) .nil))))
  obtain ⟨replies, twins⟩ :=
    drawing_failures_invisible painting .standard (fun _ => false) () matching
  exact ⟨matching, replies, twins 5, by decide +kernel, by decide +kernel⟩

end Engine
end SpriteStage
