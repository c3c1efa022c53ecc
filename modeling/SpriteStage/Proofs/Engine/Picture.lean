import SpriteStage.Proofs.Engine.CollisionPass
import SpriteStage.Proofs.Surface.Recording

namespace SpriteStage

namespace Machine
open Journal
variable {κ σ : Type} {before after m : Machine κ σ RecordingSurface}

theorem drew_lends (f : Handlers κ → Handlers κ) (m : Machine κ σ RecordingSurface) :
    m.Drew (m.onHandlers f) := .of_plain rfl (List.append_nil _).symm (by simp) rfl

/-- Whoever runs scripts, the surface remembers what they draw and nothing else. -/
theorem routine_drew (p : Program κ σ) : Engine.Routine p (Drew (κ := κ) (σ := σ)) := by
  refine .of_kept kept_drew ?_ (fun m f _ => drew_lends f m) ?_ ?_
  · intro m happening entry
    have plain := Happening.isPlain_of_isEntry entry
    exact .of_plain rfl rfl (by simpa using plain) rfl
  · intro m id
    refine ⟨rfl, [.collided id], rfl, ?_⟩
    have nothing : drawings [(.collided id : Happening κ σ)] = [] := rfl
    rw [nothing]
    simp [beginCollision, onCollisions, record, onContext]
  · intro m id handler
    exact .of_plain rfl (List.append_nil _).symm (by simp) rfl

/-- The stage under another picture; the caret of the prompt has blinked. -/
def blinked (surface : Option RecordingSurface) (m : Machine κ σ RecordingSurface) :
    Machine κ σ RecordingSurface :=
  { m with
    surface := surface
    context := { m.context with prompt := m.context.prompt.drawn m.context.settings } }

theorem overlaid_recorded {s : RecordingSurface} (here : m.surface = some s) :
    m.drawOverlay.presentStage = m.blinked (some (s.draws
      (m.context.prompt.overlay m.context.settings (Surface.size s) ++ [.present]))) := by
  rw [drawOverlay_recorded here, presentStage_recorded rfl, RecordingSurface.draws_draws]
  rfl

theorem drawOverlay_hidden {s : RecordingSurface} (here : m.surface = some s)
    (hidden : m.context.prompt.active = false) : m.drawOverlay = m := by
  rw [drawOverlay_recorded here]
  simp [Prompt.overlay, Prompt.drawn, hidden, ← here]

theorem Drew.on_surface (drew : before.Drew after) {s : RecordingSurface}
    (here : before.surface = some s) :
    after.surface = some (s.draws (drawings (before.since after))) := by
  obtain ⟨news, journal, surface⟩ := drew.surface
  rw [since_eq journal, surface, here]
  rfl

theorem framed_surface {p : Program κ σ} {elapsed : Float32} {result : Except ScriptError Unit}
    (ran : m.runFrameHandlers p elapsed = (result, after)) {s : RecordingSurface}
    (here : m.surface = some s) : after.surface = some (s.draws (drawings (m.since after))) :=
  ((routine_drew p).framed ran).on_surface here

theorem collided_surface {p : Program κ σ} {result : Except ScriptError Unit}
    (ran : m.runCollisions p = (result, after)) {s : RecordingSurface}
    (here : m.surface = some s) : after.surface = some (s.draws (drawings (m.since after))) :=
  ((routine_drew p).collided ran).on_surface here

end Machine

namespace Engine
open Journal Machine RecordingSurface
variable {κ σ : Type} {p : Program κ σ} {now : Nat} {e : Engine κ σ RecordingSurface}

def commands (e : Engine κ σ RecordingSurface) : List DrawCommand :=
  (e.machine.surface.map (·.commands)).getD []

/-- What the startup tasks draw that are polled in a frame. -/
def taskDrawings (p : Program κ σ) (now : Nat) (e : Engine κ σ RecordingSurface) :
    List DrawCommand :=
  drawings ((e.machine.beginFrame now).since (e.polledAt p now).machine)

/-- Nothing has happened since but that something was drawn, and that the caret has blinked. -/
def Still (before after : Engine κ σ RecordingSurface) : Prop :=
  ∃ surface, after = before.onMachine (·.blinked surface)

theorem Still.of_machine {before : Engine κ σ RecordingSurface}
    {act : Machine κ σ RecordingSurface → Machine κ σ RecordingSurface}
    {surface : Option RecordingSurface}
    (same : act before.machine = before.machine.blinked surface) :
    before.Still (before.onMachine act) := ⟨surface, by rw [onMachine, onMachine, same]⟩

/-- What a frame of a running engine draws on the background of a surface, with its reply and the
engine that it leaves. -/
inductive Scene (p : Program κ σ) (now : Nat) (e : Engine κ σ RecordingSurface)
    (size : UInt32 × UInt32) :
    Except RuntimeError FrameStatus × Engine κ σ RecordingSurface → List DrawCommand → Prop
  | waits {after : Engine κ σ RecordingSurface} (up : (e.polledAt p now).barrier.isSome)
      (still : (e.polledAt p now).Still after) :
    Scene p now e size (.ok .running, after)
      ((e.polledAt p now).context.prompt.overlay e.context.settings size)
  | asks {after : Engine κ σ RecordingSurface} (down : (e.polledAt p now).barrier.isSome = false)
      (shown : (e.polledAt p now).promptActive) (still : (e.polledAt p now).Still after) :
    Scene p now e size (.ok .running, after)
      ((e.polledAt p now).context.figures.picture ++
        (e.polledAt p now).context.prompt.overlay e.context.settings size)
  | stumbles {after : Engine κ σ RecordingSurface} {error : ScriptError}
      {m : Machine κ σ RecordingSurface} (plays : e.Plays p now)
      (framed : (e.polledAt p now).machine.runFrameHandlers p (e.elapsedAt now) =
        (.error error, m)) :
    Scene p now e size (.error (.script error), after)
      (drawings ((e.polledAt p now).machine.since m))
  | crashes {after : Engine κ σ RecordingSurface} {error : ScriptError}
      {framed m : Machine κ σ RecordingSurface} (plays : e.Plays p now)
      (ran : (e.polledAt p now).machine.runFrameHandlers p (e.elapsedAt now) = (.ok (), framed))
      (collided : framed.untapped.runCollisions p = (.error error, m)) :
    Scene p now e size (.error (.script error), after)
      (drawings ((e.polledAt p now).machine.since framed) ++ drawings (framed.untapped.since m))
  | plays {after : Engine κ σ RecordingSurface} {framed m : Machine κ σ RecordingSurface}
      (plays : e.Plays p now)
      (ran : (e.polledAt p now).machine.runFrameHandlers p (e.elapsedAt now) = (.ok (), framed))
      (collided : framed.untapped.runCollisions p = (.ok (), m)) :
    Scene p now e size (.ok after.status, after)
      (drawings ((e.polledAt p now).machine.since framed) ++
        drawings (framed.untapped.since m) ++ m.context.figures.picture)

/-- What a frame does to an engine and draws on its surface. -/
structure FramePicture (p : Program κ σ) (now : Nat) (e : Engine κ σ RecordingSurface)
    (s : RecordingSurface) : Prop where
  halted : e.running = false → (e.frame p now).2.commands = s.commands ∧
    ∀ happening ∈ e.news p (.frame now), happening.isRemark
  /-- The tasks that are polled draw, the stage is cleared once, and the picture is shown once
  unless a handler fails. -/
  running : e.running → ∃ body, Scene p now e (Surface.size s) (e.frame p now) body ∧
    (e.frame p now).2.commands = s.commands ++ e.taskDrawings p now ++
      [.shape (.clear e.context.settings.background)] ++ body ++
      if (e.frame p now).1.isOk then [.present] else []

section Begins
variable {s : RecordingSurface}

theorem beginFrame_settings (now : Nat) (m : Machine κ σ RecordingSurface) :
    (m.beginFrame now).context.settings = m.context.settings := by
  obtain ⟨board, surface, figures, loads, journal, same⟩ := (m.setNow now).completeLoads_frame
  unfold beginFrame
  rw [same]
  rfl

theorem polledAt_recorded (p : Program κ σ) (now : Nat) (here : e.machine.surface = some s) :
    (e.polledAt p now).context.settings = e.context.settings ∧
      ∃ t, s.Keeps t ∧ (e.polledAt p now).machine.surface = some (t.draws
        (e.taskDrawings p now ++ [.shape (.clear e.context.settings.background)])) := by
  let begun : Engine κ σ RecordingSurface :=
    { e.onMachine (·.beginFrame now) with lastTick := some now }
  obtain ⟨t, there, keeps⟩ := beginFrame_recorded now here
  have polled := (routine_drew p).polls begun
  have settings : (begun.pollBarrier p).context.settings = e.context.settings :=
    polled.settings.trans (beginFrame_settings now e.machine)
  have cleared : (e.polledAt p now).machine = { (begun.pollBarrier p).machine with
      surface := (begun.pollBarrier p).machine.surface.map
        (·.draws [.shape (.clear e.context.settings.background)]) } :=
    settings ▸ clearStage_recorded (begun.pollBarrier p).machine
  refine ⟨(congrArg (·.context.settings) cleared).trans settings, t, keeps, ?_⟩
  have drawn : (begun.pollBarrier p).machine.surface = some (t.draws (e.taskDrawings p now)) := by
    rw [taskDrawings, cleared]
    exact polled.on_surface there
  rw [cleared, drawn, Option.map_some, draws_draws]

end Begins

section Ends
variable {m : Machine κ σ RecordingSurface} {t : RecordingSurface}

theorem commands_of_surface (there : e.machine.surface = some t) : e.commands = t.commands := by
  rw [commands, there]
  rfl

theorem commands_stop (there : e.machine.surface = some t) : e.stop.commands = t.commands := by
  apply commands_of_surface
  unfold stop
  dsimp only
  split
  · exact there
  · exact there

theorem commands_obeyStopRequest (there : e.machine.surface = some t) :
    e.obeyStopRequest.commands = t.commands := by
  unfold obeyStopRequest
  split
  · exact commands_stop (e := e.heard) there
  · exact commands_of_surface there

end Ends

variable {s : RecordingSurface}

theorem Course.scene {result : Except RuntimeError FrameStatus × Engine κ σ RecordingSurface}
    (course : Course p now e result) (running : e.running) (here : e.machine.surface = some s) :
    ∃ body, Scene p now e (Surface.size s) result body ∧
      result.2.commands = s.commands ++ e.taskDrawings p now ++
        [.shape (.clear e.context.settings.background)] ++ body ++
        if result.1.isOk then [.present] else [] := by
  obtain ⟨settings, t, keeps, there⟩ := polledAt_recorded p now here
  have style : (e.polledAt p now).machine.context.settings = e.context.settings := settings
  have prompt : (e.polledAt p now).machine.context.prompt = (e.polledAt p now).context.prompt := rfl
  cases course with
  | rests halted => simp [halted] at running
  | waits running up =>
    have same : (if (e.polledAt p now).machine.context.prompt.active then
        (e.polledAt p now).machine.drawOverlay else (e.polledAt p now).machine) =
        (e.polledAt p now).machine.drawOverlay := by
      split
      · rfl
      · rename_i hidden
        exact (drawOverlay_hidden there (by simpa using hidden)).symm
    have shown := (congrArg presentStage same).trans (overlaid_recorded there)
    refine ⟨_, .waits up (.of_machine shown), ?_⟩
    refine (commands_of_surface (congrArg (·.surface) shown :)).trans ?_
    simp [keeps.commands, keeps.size, style, prompt, Except.isOk, Except.toBool]
  | asks running down shown =>
    have figures := congrArg (·.drawOverlay.presentStage) (Machine.drawFigures_recorded there)
    have drawn := figures.trans (overlaid_recorded rfl)
    refine ⟨_, .asks down shown (.of_machine drawn), ?_⟩
    refine (commands_of_surface (congrArg (·.surface) drawn :)).trans ?_
    simp [keeps.commands, keeps.size, style, prompt, Except.isOk, Except.toBool]
    rfl
  | @stumbles error m plays framed =>
    have drawn := framed_surface framed there
    refine ⟨_, .stumbles plays framed, ?_⟩
    refine (commands_stop (e := note _ { e.polledAt p now with machine := m }) drawn).trans ?_
    simp [keeps.commands, Except.isOk, Except.toBool]
  | @crashes error framed m plays ran collided =>
    have before : framed.untapped.surface = _ := framed_surface ran there
    have drawn := collided_surface collided before
    refine ⟨_, .crashes plays ran collided, ?_⟩
    refine (commands_stop (e := note _ { e.polledAt p now with machine := m }) drawn).trans ?_
    simp [keeps.commands, Except.isOk, Except.toBool]
  | @plays framed m plays ran collided =>
    have before : framed.untapped.surface = _ := framed_surface ran there
    have after := collided_surface collided before
    have drawn := congrArg (·.presentStage.surface) (Machine.drawFigures_recorded after)
    refine ⟨_, .plays plays ran collided, ?_⟩
    refine (commands_obeyStopRequest
      (e := { e.polledAt p now with machine := m.drawFigures.presentStage }) drawn).trans ?_
    simp [keeps.commands, Except.isOk, Except.toBool]

/-- In every state of an engine with a recording surface, a frame does and draws what its way to end
says, whatever the handlers and the tasks do. -/
theorem frame_picture (p : Program κ σ) (now : Nat) (here : e.machine.surface = some s) :
    FramePicture p now e s where
  halted halted := by
    obtain ⟨t, there, keeps⟩ := beginFrame_recorded now here
    obtain ⟨news, journal, remarks⟩ := (leads_beginFrame now e.machine).journal
    have same : e.frame p now = (.ok .stopped, e.onMachine (·.beginFrame now)) :=
      frame_halted p now halted
    constructor
    · rw [same]
      exact (commands_of_surface there).trans keeps.commands
    · have grown : (e.step p (.frame now)).2.machine.journal = e.machine.journal ++ news := by
        rw [step, same]
        exact journal
      rw [news_eq grown]
      exact remarks
  running running := (frame_course p now e).scene running here

/-- A program whose startup task draws and is done at once, whose frame handlers draw, and whose
collision handlers draw and fail. -/
def sketchy : Program Unit Unit where
  onStart _ := return some (.custom ())
  onFrame _ _ := Script.perform (.draw (.circle 1 2 3 "red"))
  onKey _ := return ()
  onCollision _ := do
    Script.perform (.draw (.line 0 0 1 1 "blue"))
    .fail ⟨"lost"⟩
  onSettled _ _ := return ()
  onPoll _ := do
    Script.perform (.draw (.rect ⟨0, 0, 1, 1⟩ "white"))
    return .done

def sketchyStage : Engine Unit Unit RecordingSurface :=
  let register : Script Unit Unit Unit := do
    let _ ← Script.perform (.createFigure "a.png")
    let _ ← Script.perform (.createFigure "b.png")
    let _ ← Script.perform (.onStart ())
    let _ ← Script.perform (.onFrame ())
    let _ ← Script.perform (.onCollision 1 2 ())
  (new .standard (fun _ => false) ()).after sketchy
    [.attach (.ofSize 640 480), .script register, .start 0 "12:00:00"]

/-- The task draws under the background; the failing handler keeps the figures from the picture, and
the picture from being shown. -/
theorem sketch_of_collision : ∃ s, sketchyStage.machine.surface = some s ∧
    FramePicture sketchy 16 sketchyStage s ∧
    (sketchyStage.frame sketchy 16).2.commands.length = 4 := by
  have here : sketchyStage.machine.surface.isSome := by rfl
  have found := (Option.some_get here).symm
  exact ⟨_, found, frame_picture sketchy 16 found, by rfl⟩

end Engine
end SpriteStage
