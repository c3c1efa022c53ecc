import SpriteStage.Proofs.Engine.CollisionPass
import SpriteStage.Proofs.Script.Effects
import SpriteStage.Proofs.Surface.Images

/-! Images in every run: what a surface is told to draw, and where these images come from. Figures
keep their images when another surface is attached, which never made them. -/

namespace SpriteStage
open Watched

/-- An edit that sets the image itself; everything else leaves the image alone. -/
def FigureEdit.setsImage : FigureEdit → Bool
  | .setImage _ | .applyImage _ => true
  | _ => false

def Happening.setsImage {κ σ : Type} : Happening κ σ → Bool
  | .called (.editFigure _ change) _ => change.setsImage
  | _ => false

namespace Machine
variable {κ σ S : Type}

/-- One machine comes after another: these are the uses of images on the surface in between, and
unless a script sets images itself, they tell where images come from. -/
structure Traces (uses : List ImageUse) (before after : Machine κ σ (Watched S)) : Prop where
  surface : ∀ s, before.surface = some s → ∃ t, after.surface = some t ∧ s.Goes uses t
  images : ∃ news, after.journal = before.journal ++ news ∧
    ((∀ happening ∈ news, happening.setsImage = false) →
      Provenance uses before.context.figures after.context.figures)

section Traces
variable {before middle after m : Machine κ σ (Watched S)} {uses more : List ImageUse}

theorem Traces.trans (first : Traces uses before middle) (second : Traces more middle after) :
    Traces (uses ++ more) before after := by
  constructor
  · intro s here
    obtain ⟨t, there, goes⟩ := first.surface s here
    obtain ⟨u, last, goesOn⟩ := second.surface t there
    exact ⟨u, last, goes.trans goesOn⟩
  · obtain ⟨news, journal, images⟩ := first.images
    obtain ⟨others, moreJournal, further⟩ := second.images
    refine ⟨news ++ others, by rw [moreJournal, journal, List.append_assoc], fun unset => ?_⟩
    obtain ⟨early, late⟩ := List.forall_mem_append.mp unset
    exact (images early).trans (further late)

theorem Traces.of_same (surface : after.surface = before.surface)
    (journal : ∃ news, after.journal = before.journal ++ news)
    (figures : Provenance [] before.context.figures after.context.figures) :
    Traces [] before after := by
  constructor
  · intro s here
    exact ⟨s, surface.trans here, .refl s⟩
  · obtain ⟨news, grown⟩ := journal
    exact ⟨news, grown, fun _ => figures⟩

theorem Traces.refl (m : Machine κ σ (Watched S)) : Traces [] m m :=
  .of_same rfl ⟨[], (List.append_nil _).symm⟩ (.refl _)

theorem Traces.of_remarks (leads : before.Leads (·.isRemark) after)
    (surface : ∀ s, before.surface = some s → ∃ t, after.surface = some t ∧ s.Goes uses t)
    (images : Provenance uses before.context.figures after.context.figures) :
    Traces uses before after := by
  obtain ⟨news, journal, _⟩ := leads.journal
  exact ⟨surface, news, journal, fun _ => images⟩

end Traces

section Calls
variable [Surface S] {m : Machine κ σ (Watched S)}

omit [Surface S] in
theorem drawWith_goes (call : DrawCall) {action : Draw (Watched S) Unit}
    (act : Painting.Act (Goes []) action) (m : Machine κ σ (Watched S)) :
    ∀ s, m.surface = some s → ∃ t, (m.drawWith call action).surface = some t ∧ s.Goes [] t := by
  intro s here
  have goes := act.keeps s
  unfold drawWith
  rw [here]
  dsimp only
  split
  · rename_i t ran
    rw [ran] at goes
    exact ⟨t, rfl, goes⟩
  · rename_i e t ran
    rw [ran] at goes
    exact ⟨t, rfl, goes⟩

theorem drawing_goes (drawing : Drawing) (m : Machine κ σ (Watched S)) :
    ∀ s, m.surface = some s → ∃ t, (m.drawing drawing).surface = some t ∧ s.Goes [] t := by
  cases drawing with
  | rect => exact drawWith_goes .rect (painting.rect ..) m
  | circle x y radius colour =>
    have plain (s : Watched S) :=
      painting.shapes (.circle x y radius (.parseOrWhite colour)) s nofun
    exact drawWith_goes .circle ⟨plain⟩ m
  | line x₁ y₁ x₂ y₂ colour =>
    have plain (s : Watched S) :=
      painting.shapes (.line x₁ y₁ x₂ y₂ (.parseOrWhite colour) lineWidth) s nofun
    exact drawWith_goes .line ⟨plain⟩ m
  | text => exact drawWith_goes .text (painting.text ..) m

theorem effect_goes (c : Call κ σ) (m : Machine κ σ (Watched S)) :
    ∀ s, m.surface = some s → ∃ t, (m.effect c).2.surface = some t ∧ s.Goes [] t := by
  cases draws : c.drawing? with
  | none =>
    intro s here
    exact ⟨s, ((effect_spares c m).surface draws).trans here, .refl s⟩
  | some drawing =>
    obtain rfl := Call.draw_of_drawing draws
    exact drawing_goes drawing m

theorem edit_image {change : FigureEdit} (keeps : change.setsImage = false) (figure : Figure) :
    (figure.edit change).image = figure.image := by
  cases change with
  | setImage | applyImage => cases keeps
  | _ => rfl

theorem effect_provenance (c : Call κ σ) (m : Machine κ σ S)
    (unset : (Happening.called c (m.effect c).1).setsImage = false) :
    Provenance [] m.context.figures (m.effect c).2.context.figures := by
  cases c with
  | createFigure asset =>
    apply Provenance.of_same
    intro figure member handle has
    rcases List.mem_append.mp member with there | new
    · exact ⟨figure, there, rfl, has⟩
    · rw [List.mem_singleton.mp new] at has
      cases has
  | editFigure figure change => exact .edited figure (edit_image unset)
  | removeFigure figure =>
    simp only [effect, withContext, Context.removeFigure]
    split
    · apply Provenance.of_same
      intro other member handle has
      exact ⟨other, List.mem_of_mem_eraseP member, rfl, has⟩
    · exact .refl _
  | draw _ | playSound _ | random _ _ =>
    rw [(effect_outward rfl m).1]
    exact .refl _
  | swapImage figure asset =>
    simp only [effect, swapImage]
    split
    · exact .refl _
    · exact .refl _
  | wait millis =>
    obtain ⟨deadline, _, same⟩ := wait_frame millis m
    simp only [effect, same]
    exact .refl _
  | _ => exact .refl _

theorem kept_traces : Kept (Traces (κ := κ) (σ := σ) (S := S) []) where
  refl := .refl
  trans := .trans
  perform c m := by
    obtain ⟨remarks, journal, _⟩ := (leads_effect c m).journal
    refine ⟨effect_goes c m, remarks ++ [.called c (m.effect c).1], ?_, fun unset => ?_⟩
    · simp [perform, record, journal]
    · exact effect_provenance c m (unset _ (List.mem_append_right _ List.mem_cons_self))

omit [Surface S] in
theorem traces_record (happening : Happening κ σ) (m : Machine κ σ (Watched S)) :
    Traces [] m (m.record happening) := .of_same rfl ⟨[happening], rfl⟩ (.refl _)

theorem routine_traces (p : Program κ σ) :
    Engine.Routine p (Traces (κ := κ) (σ := σ) (S := S) []) := by
  refine .of_kept kept_traces ?_ ?_ ?_ ?_
  · exact fun m happening _ => traces_record happening m
  · exact fun m f _ => .of_same rfl ⟨[], (List.append_nil _).symm⟩ (.refl _)
  · exact fun m id => .of_same rfl ⟨[.collided id], rfl⟩ (.refl _)
  · exact fun m id handler => .of_same rfl ⟨[], (List.append_nil _).symm⟩ (.refl _)

section Stage
variable {m : Machine κ σ (Watched S)}

theorem traces_clearStage (m : Machine κ σ (Watched S)) : Traces [] m m.clearStage := by
  have background (s : Watched S) :=
    painting.shapes (.clear m.context.settings.background) s nofun
  refine .of_remarks (leads_clearStage m) (drawWith_goes .clear ⟨background⟩ m) ?_
  obtain ⟨surface, journal, same⟩ := drawWith_frame .clear
    (Surface.paint (.clear m.context.settings.background)) m
  rw [clearStage, same]
  exact .refl _

theorem traces_drawFigures (m : Machine κ σ (Watched S)) :
    Traces (m.context.figures.images.map .drawn) m m.drawFigures := by
  refine .of_remarks (leads_drawFigures m) ?_ ?_
  · intro s here
    have goes := figures_go m.context.figures.figures s
    simp only [drawFigures, here]
    exact ⟨_, rfl, goes⟩
  · unfold drawFigures
    split
    · exact .drawn _
    · exact .drawn _

theorem draw_goes (p : Prompt) (style : PromptStyle) (interval : UInt32) (s : Watched S) :
    s.Goes [] (p.draw style interval s).2.2 := by
  unfold Prompt.draw
  split
  · exact .refl s
  · exact (painting.overlay ..).keeps s

theorem traces_drawOverlay (m : Machine κ σ (Watched S)) : Traces [] m m.drawOverlay := by
  refine .of_remarks (leads_drawOverlay m) ?_ ?_
  · intro s here
    have goes := draw_goes m.context.prompt m.context.settings.overlay
      m.context.settings.caretInterval s
    unfold drawOverlay
    rw [here]
    dsimp only
    split
    · exact ⟨_, rfl, goes⟩
    · exact ⟨_, rfl, goes⟩
  · unfold drawOverlay
    split
    · exact .refl _
    · dsimp only
      split
      · exact .refl _
      · exact .refl _

theorem traces_presentStage (m : Machine κ σ (Watched S)) : Traces [] m m.presentStage := by
  refine .of_remarks (leads_presentStage m) ?_ (.refl _)
  intro s here
  refine ⟨Surface.present s, ?_, .refl _⟩
  rw [presentStage, here]
  rfl

theorem traces_completeLoads (m : Machine κ σ (Watched S)) :
    ∃ made : List ImageHandle, Traces (made.map .made) m m.completeLoads := by
  cases here : m.surface with
  | none =>
    rw [completeLoads_none here]
    exact ⟨[], .refl m⟩
  | some s =>
    obtain ⟨made, goes, provenance⟩ := Loading.complete_fits m.loadRules m.context.loads
      ⟨m.context.figures, m.board, s, [], []⟩
    refine ⟨made, .of_remarks (leads_completeLoads m) ?_ ?_⟩
    · intro other there
      obtain rfl := Option.some.inj (here.symm.trans there)
      rw [completeLoads_some here]
      exact ⟨_, rfl, goes⟩
    · rw [completeLoads_some here]
      exact provenance

theorem traces_beginFrame (now : Nat) (m : Machine κ σ (Watched S)) :
    ∃ made : List ImageHandle, Traces (made.map .made) m (m.beginFrame now) := by
  have nothing (m : Machine κ σ (Watched S)) : ∃ news, m.journal = m.journal ++ news :=
    ⟨[], (List.append_nil _).symm⟩
  obtain ⟨made, loaded⟩ := traces_completeLoads (m.setNow now)
  have timed : Traces [] m (m.setNow now) := .of_same rfl (nothing m) (.refl _)
  have fired : Traces [] (m.setNow now).completeLoads (m.beginFrame now) :=
    .of_same rfl (nothing _) (.refl _)
  refine ⟨made, ?_⟩
  have whole := (timed.trans loaded).trans fired
  rwa [List.nil_append, List.append_nil] at whole

end Stage

end Calls

end Machine

def HostCall.isAttach {κ σ S : Type} : HostCall κ σ S → Bool
  | .attach _ => true
  | _ => false

namespace Engine
open Machine
variable {κ σ S : Type} [Surface S] {p : Program κ σ} {now : Nat}

/-- By the engine's own hand, images are used in frames alone, as long as the surface stays. -/
theorem Touch.traces {call : HostCall κ σ (Watched S)} {before after : Machine κ σ (Watched S)}
    (touch : Touch call before after) (stays : call.isAttach = false)
    (other : ∀ now, call ≠ .frame now) : Traces [] before after := by
  have nothing (m : Machine κ σ (Watched S)) : ∃ news, m.journal = m.journal ++ news :=
    ⟨[], (List.append_nil _).symm⟩
  cases touch with
  | attached => cases stays
  | loaded now | fired now | untapped now | drawn now => exact absurd rfl (other now)
  | forgotten =>
    exact .of_same rfl ⟨[.notice .reset], rfl⟩ (.of_same fun _ member => nomatch member)
  | _ => exact .of_same rfl (nothing _) (.refl _)

/-- The figures that a frame draws, if it comes to that: with a prompt those that the startup tasks
left, and in a frame in which the whole program plays those that it left. -/
def figuresAt (p : Program κ σ) (now : Nat) (e : Engine κ σ S) : Option FigureStore :=
  if !e.running || (e.polledAt p now).barrier.isSome then none
  else if (e.polledAt p now).promptActive then some (e.polledAt p now).context.figures
  else match e.collidesAt p now with
    | none => none
    | some m => match m.runCollisions p with
      | (.ok (), m) => some m.context.figures
      | (.error _, _) => none

/-- The images that a call draws: those of the visible figures, if it draws the figures. -/
def imagesIn (p : Program κ σ) (e : Engine κ σ S) : HostCall κ σ S → List ImageHandle
  | .frame now => ((e.figuresAt p now).map (·.images)).getD []
  | _ => []

section Frame
variable {e : Engine κ σ (Watched S)}

theorem touch_stop {before after : Machine κ σ (Watched S)}
    (touch : Touch .stop before after) : Traces [] before after := touch.traces rfl nofun

theorem traces_polledAt (p : Program κ σ) (now : Nat) (e : Engine κ σ (Watched S)) :
    ∃ made : List ImageHandle,
      Traces (made.map .made) e.machine (e.polledAt p now).machine := by
  let begun : Engine κ σ (Watched S) := { e.onMachine (·.beginFrame now) with lastTick := some now }
  obtain ⟨made, begins⟩ := traces_beginFrame now e.machine
  have polled : Traces [] begun.machine (begun.pollBarrier p).machine :=
    (routine_traces p).polls begun
  have cleared : Traces [] (begun.pollBarrier p).machine (e.polledAt p now).machine :=
    traces_clearStage _
  have whole := (begins.trans polled).trans cleared
  rw [List.append_nil, List.append_nil] at whole
  exact ⟨made, whole⟩

omit [Surface S] in
theorem traces_untapped (m : Machine κ σ (Watched S)) : Traces [] m m.untapped :=
  .of_same rfl ⟨[], (List.append_nil _).symm⟩ (.refl _)

theorem Plays.figuresAt_eq (plays : e.Plays p now) : e.figuresAt p now =
    match (e.polledAt p now).machine.runFrameHandlers p (e.elapsedAt now) with
    | (.error _, _) => none
    | (.ok (), m) => match m.untapped.runCollisions p with
      | (.ok (), m) => some m.context.figures
      | (.error _, _) => none := by
  unfold figuresAt
  rw [if_neg (by simp [plays.running, plays.down]), if_neg (by simp [plays.hidden]),
    plays.collidesAt_eq]
  cases (e.polledAt p now).machine.runFrameHandlers p (e.elapsedAt now) with
  | mk result m =>
    cases result with
    | ok done =>
      dsimp only
      cases m.untapped.runCollisions p with
      | mk result m =>
        cases result with
        | ok done => rfl
        | error error => rfl
    | error error => rfl

theorem Course.traces {result : Except RuntimeError FrameStatus × Engine κ σ (Watched S)}
    (course : Course p now e result) : ∃ made : List ImageHandle,
      Traces (made.map .made ++ (e.imagesIn p (.frame now)).map .drawn) e.machine
        result.2.machine := by
  have shown (m : Machine κ σ (Watched S)) := traces_presentStage m
  obtain ⟨made, polled⟩ := traces_polledAt p now e
  -- whatever follows the polls uses the images of the figures that are drawn, and no others
  have whole {images : List ImageHandle} {after : Machine κ σ (Watched S)}
      (drawn : e.imagesIn p (.frame now) = images)
      (rest : Traces (images.map .drawn) (e.polledAt p now).machine after) :
      ∃ made : List ImageHandle,
        Traces (made.map .made ++ (e.imagesIn p (.frame now)).map .drawn) e.machine after :=
    ⟨made, drawn ▸ polled.trans rest⟩
  cases course with
  | rests halted =>
    obtain ⟨made, begins⟩ := traces_beginFrame now e.machine
    have none : e.imagesIn p (.frame now) = [] := by simp [imagesIn, figuresAt, halted]
    refine ⟨made, ?_⟩
    rw [none, List.map_nil, List.append_nil]
    exact begins
  | waits running up =>
    have none : e.imagesIn p (.frame now) = [] := by simp [imagesIn, figuresAt, up]
    apply whole none
    dsimp only [onMachine]
    split
    · exact (traces_drawOverlay _).trans (shown _)
    · exact shown _
  | asks running down prompt =>
    have all : e.imagesIn p (.frame now) = (e.polledAt p now).context.figures.images := by
      simp [imagesIn, figuresAt, running, down, prompt]
    apply whole all
    have drawn := (traces_drawFigures (e.polledAt p now).machine).trans (traces_drawOverlay _)
    have presented := drawn.trans (shown _)
    rwa [List.append_nil, List.append_nil] at presented
  | @stumbles error m plays framed =>
    have none : e.imagesIn p (.frame now) = [] := by
      simp [imagesIn, plays.figuresAt_eq, framed]
    apply whole none
    have halted := (routine_traces p).halts (fun _ _ => touch_stop) error
      { e.polledAt p now with machine := m }
    exact ((routine_traces p).framed framed).trans halted
  | @crashes error framed m plays ran collided =>
    have none : e.imagesIn p (.frame now) = [] := by
      simp [imagesIn, plays.figuresAt_eq, ran, collided]
    apply whole none
    have halted := (routine_traces p).halts (fun _ _ => touch_stop) error
      { e.polledAt p now with machine := m }
    have before := ((routine_traces p).framed ran).trans (traces_untapped framed)
    exact (before.trans ((routine_traces p).collided collided)).trans halted
  | @plays framed m plays ran collided =>
    have all : e.imagesIn p (.frame now) = m.context.figures.images := by
      simp [imagesIn, plays.figuresAt_eq, ran, collided]
    apply whole all
    have ended := (routine_traces p).obeys (fun _ _ => touch_stop)
      { e.polledAt p now with machine := m.drawFigures.presentStage }
    have before := ((routine_traces p).framed ran).trans (traces_untapped framed)
    have played := before.trans ((routine_traces p).collided collided)
    have drawn : Traces _ _ (e.playedOut p now m).machine :=
      (played.trans (traces_drawFigures m)).trans ((shown _).trans ended)
    simpa only [List.append_nil, List.nil_append] using drawn

/-- In a call that leaves the surface in its place, images are handed out by the loads of a frame
and drawn with its figures, and not used otherwise. -/
theorem step_traces (p : Program κ σ) (e : Engine κ σ (Watched S))
    {call : HostCall κ σ (Watched S)} (stays : call.isAttach = false) :
    ∃ made : List ImageHandle, Traces (made.map .made ++ (e.imagesIn p call).map .drawn) e.machine
      (e.step p call).2.machine := by
  by_cases frame : ∃ now, call = .frame now
  · obtain ⟨now, rfl⟩ := frame
    exact (frame_course p now e).traces
  · have other : ∀ now, call ≠ .frame now := fun now same => frame ⟨now, same⟩
    have none : e.imagesIn p call = [] := by
      cases call with
      | frame now => exact absurd rfl (other now)
      | _ => rfl
    refine ⟨[], ?_⟩
    rw [none]
    exact (routine_traces p).step (fun _ _ touch => touch.traces stays other) e

end Frame

theorem after_traces (p : Program κ σ) (e : Engine κ σ (Watched S))
    (calls : List (HostCall κ σ (Watched S))) (stays : ∀ call ∈ calls, call.isAttach = false) :
    ∃ uses, Traces uses e.machine (e.after p calls).machine := by
  induction calls generalizing e with
  | nil => exact ⟨[], .refl _⟩
  | cons call rest ih =>
    obtain ⟨first, others⟩ := List.forall_mem_cons.mp stays
    obtain ⟨made, step⟩ := step_traces p e first
    obtain ⟨uses, run⟩ := ih (e.step p call).2 others
    exact ⟨_, step.trans run⟩

/-- What is known of the images on a surface after calls that leave it in its place. -/
structure ImageAccount (p : Program κ σ) (e : Engine κ σ (Watched S)) (surface : Watched S)
    (run : List (HostCall κ σ (Watched S))) : Prop where
  /-- Every figure has an image that the surface handed out after it was attached, or one that the
  figure already had then; and every image that was drawn is one or the other. So on a stage where
  no figure had an image then, the surface drew none but those that it had handed out. -/
  provenance : ∃ t uses, (e.after p (.attach surface :: run)).machine.surface = some t ∧
    surface.Goes uses t ∧
    Provenance uses e.context.figures (e.after p (.attach surface :: run)).context.figures ∧
    ((∀ figure ∈ e.context.figures.figures, figure.image = none) →
      ∀ early handle late, uses = early ++ .drawn handle :: late → .made handle ∈ early)
  calls : ∀ before call later, run = before ++ call :: later →
    let stage := e.after p (.attach surface :: before)
    ∃ s t, ∃ made : List ImageHandle, stage.machine.surface = some s ∧
      (stage.step p call).2.machine.surface = some t ∧
      s.Goes (made.map .made ++ (stage.imagesIn p call).map .drawn) t

/-- In every run, a surface draws images that it handed out, and those that the figures brought
along when it was attached, as long as no script sets images itself. -/
theorem images_accounted (p : Program κ σ) (e : Engine κ σ (Watched S)) (surface : Watched S)
    (run : List (HostCall κ σ (Watched S))) (stays : ∀ call ∈ run, call.isAttach = false)
    (unset : ∀ happening ∈ e.machine.since (e.after p (.attach surface :: run)).machine,
      happening.setsImage = false) : ImageAccount p e surface run where
  provenance := by
    obtain ⟨uses, traces⟩ := after_traces p (e.attach surface) run stays
    obtain ⟨t, there, goes⟩ := traces.surface surface rfl
    obtain ⟨news, journal, images⟩ := traces.images
    have grown : (e.after p (.attach surface :: run)).machine.journal =
        e.machine.journal ++ (.notice (.surfaceAttached (Surface.size surface).1
          (Surface.size surface).2 (e.context.input.listenersMade + 1)) :: news) :=
      journal.trans (List.append_assoc ..)
    rw [since_eq grown] at unset
    have provenance := images (List.forall_mem_cons.mp unset).2
    refine ⟨t, uses, there, goes, provenance, fun bare early handle late split => ?_⟩
    rcases provenance.draws early handle late split with own | ⟨old, member, had⟩
    · exact own
    · rw [bare old member] at had
      cases had
  calls before call later split := by
    have earlier : ∀ call ∈ before, call.isAttach = false := fun other member =>
      stays other (split ▸ List.mem_append_left _ member)
    obtain ⟨uses, traces⟩ := after_traces p (e.attach surface) before earlier
    obtain ⟨s, here, _⟩ := traces.surface surface rfl
    obtain ⟨made, step⟩ := step_traces p ((e.attach surface).after p before)
      (stays call (split ▸ List.mem_append_right _ List.mem_cons_self))
    obtain ⟨t, there, goes⟩ := step.surface s here
    exact ⟨s, t, made, here, there, goes⟩

def canvas : Watched RecordingSurface := ⟨.ofSize 640 480, []⟩

def emptyStage : Engine Unit Unit (Watched RecordingSurface) := new .standard (fun _ => false) ()

/-- A figure is made, and its image comes with the first frame. -/
def unveiling : List (HostCall Unit Unit (Watched RecordingSurface)) :=
  let create : Script Unit Unit Unit := do
    let _ ← Script.perform (.createFigure "a.png")
  [.script create, .start 0 "12:00:00", .frame 16]

theorem unveiling_accounted : ImageAccount blank emptyStage canvas unveiling ∧
    (emptyStage.after blank (.attach canvas :: unveiling)).machine.surface.map (·.uses) =
      some [.made 1, .drawn 1] := by
  have stays : unveiling.all (!·.isAttach) := by rfl
  have unset : (emptyStage.machine.since
      (emptyStage.after blank (.attach canvas :: unveiling)).machine).all (!·.setsImage) := by rfl
  refine ⟨images_accounted blank emptyStage canvas unveiling ?_ ?_, by rfl⟩
  · intro call member
    simpa using List.all_eq_true.mp stays call member
  · intro happening member
    simpa using List.all_eq_true.mp unset happening member

/-- The surface that comes second is told to draw the image that the first one handed out. -/
theorem second_surface_draws_foreign_image :
    let stage := emptyStage.after blank
      (.attach canvas :: unveiling ++ [.attach canvas, .frame 32])
    (∀ happening ∈ stage.machine.journal, happening.setsImage = false) ∧
      ∃ t early handle late, stage.machine.surface = some t ∧
        t.uses = early ++ .drawn handle :: late ∧ .made handle ∉ early := by
  intro stage
  have unset : stage.machine.journal.all (!·.setsImage) := by rfl
  have uses : stage.machine.surface.map (·.uses) = some [.drawn 1] := by rfl
  obtain ⟨t, there, same⟩ := Option.map_eq_some_iff.mp uses
  refine ⟨fun happening member => ?_, t, [], 1, [], there, same, List.not_mem_nil⟩
  simpa using List.all_eq_true.mp unset happening member

end Engine
end SpriteStage
