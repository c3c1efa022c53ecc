import SpriteStage.Engine.Stage
import SpriteStage.Proofs.Surface.Trace
import SpriteStage.Surface.Quota

namespace SpriteStage

/-- The calls that draw one figure: its transform is saved, moved to its centre, turned and scaled,
and the one from before is restored. -/
def Figure.attempts (f : Figure) (image : ImageHandle) (failure : Option RenderError) :
    List Attempt :=
  let centre := f.bounds.centre
  [.posed .save, .posed (.translate centre.1 centre.2),
    .posed (.rotate (f.rotation * Number.radiansPerDegree)), .posed (.scale f.scaleX f.scaleY),
    .painted (.image image f.sprite) failure, .posed .restore]

def Figure.frame (f : Figure) (outer : Affine) : Affine :=
  let centre := f.bounds.centre
  ((outer.translate centre.1 centre.2).rotate (f.rotation * Number.radiansPerDegree)).scale
    f.scaleX f.scaleY

def Figure.shown? (f : Figure) : Option ImageHandle := if f.visible then f.image else none

/-- The visible figures that have an image, with their images, in the order of the store. -/
def shownFigures (figures : List Figure) : List (Figure × ImageHandle) :=
  figures.filterMap fun f => f.shown?.map (f, ·)

/-- A figure that is drawn, with its image and what goes wrong with it. -/
abbrev SpriteOutcome := (Figure × ImageHandle) × Option RenderError

def passCalls (outcomes : List SpriteOutcome) : List Attempt :=
  outcomes.flatMap fun outcome => outcome.1.1.attempts outcome.1.2 outcome.2

section Pass
variable {S : Type} [Surface S] {f : Figure} {image : ImageHandle}

theorem Figure.draw_image (has : f.image = some image) (s : S) :
    f.draw s =
      let posed := f.poses.foldl (fun s change => Surface.pose change s) s
      ((Surface.paint (.image image f.sprite) posed).1,
        Surface.pose .restore (Surface.paint (.image image f.sprite) posed).2) := by
  rw [draw, has]
  rfl

theorem Figure.draw_traced (has : f.image = some image) (s : Traced S) :
    f.draw s = ((f.draw s.surface).1, ⟨(f.draw s.surface).2,
      s.trace ++ f.attempts image (failure? (f.draw s.surface).1)⟩) := by
  simp [draw_image has, Traced.paint_traced, Surface.pose, attempts, poses]

theorem drawFigures_hidden (hidden : f.shown? = none) (rest : List Figure) (s : S) :
    drawFigures (f :: rest) s = drawFigures rest s := by
  by_cases visible : f.visible
  · have bare : f.draw s = (.ok (), s) := by
      rw [Figure.draw, show f.image = none by simpa [Figure.shown?, visible] using hidden]
    simp [drawFigures, visible, bare]
  · simp [drawFigures, visible]

theorem drawFigures_shown (shown : f.shown? = some image) (rest : List Figure) (s : S) :
    drawFigures (f :: rest) s =
      (((failure? (f.draw s).1).map (f.id, ·)).toList ++ (drawFigures rest (f.draw s).2).1,
        (drawFigures rest (f.draw s).2).2) := by
  have visible : f.visible := by
    by_contra hidden
    simp [Figure.shown?, hidden] at shown
  rw [drawFigures, if_pos visible]
  split
  · rename_i s' ran
    simp [ran, failure?]
  · rename_i e s' ran
    simp [ran, failure?]

/-- What a pass over figures leads to, on a surface with a trace and on the surface below. -/
structure Passes (figures : List Figure) (s : Traced S) (outcomes : List SpriteOutcome) : Prop where
  each : outcomes.map (·.1) = shownFigures figures
  surface : (drawFigures figures s).2 =
    ⟨(drawFigures figures s.surface).2, s.trace ++ passCalls outcomes⟩
  told : (drawFigures figures s).1 =
    outcomes.filterMap fun outcome => outcome.2.map (outcome.1.1.id, ·)
  same : (drawFigures figures s).1 = (drawFigures figures s.surface).1

theorem exists_passes (figures : List Figure) (s : Traced S) :
    ∃ outcomes, Passes figures s outcomes := by
  induction figures generalizing s with
  | nil => exact ⟨[], rfl, by simp [drawFigures, passCalls], rfl, rfl⟩
  | cons f rest ih =>
    cases shown : f.shown? with
    | none =>
      have others : shownFigures (f :: rest) = shownFigures rest :=
        List.filterMap_cons_none (by rw [shown]; rfl)
      obtain ⟨outcomes, passes⟩ := ih s
      refine ⟨outcomes, ?_, ?_, ?_, ?_⟩
      · rw [others, passes.each]
      · rw [drawFigures_hidden shown, drawFigures_hidden shown, passes.surface]
      · rw [drawFigures_hidden shown, passes.told]
      · rw [drawFigures_hidden shown, drawFigures_hidden shown, passes.same]
    | some image =>
      have others : shownFigures (f :: rest) = (f, image) :: shownFigures rest :=
        List.filterMap_cons_some (by rw [shown]; rfl)
      have has : f.image = some image := by
        unfold Figure.shown? at shown
        split at shown
        · exact shown
        · cases shown
      obtain ⟨outcomes, passes⟩ := ih (f.draw s).2
      have result : (f.draw s).1 = (f.draw s.surface).1 := by rw [f.draw_traced has]
      have below : (f.draw s).2.surface = (f.draw s.surface).2 := by rw [f.draw_traced has]
      refine ⟨((f, image), failure? (f.draw s).1) :: outcomes, ?_, ?_, ?_, ?_⟩
      · rw [others, List.map_cons, passes.each]
      · rw [drawFigures_shown shown, drawFigures_shown shown, passes.surface, below]
        rw [f.draw_traced has]
        simp [passCalls]
      · rw [drawFigures_shown shown, passes.told]
        cases failed : failure? (f.draw s).1 with
        | none => simp
        | some e => simp
      · rw [drawFigures_shown shown, drawFigures_shown shown, passes.same, result, below]

end Pass

/-- What the calls of a pass over figures amount to, on whichever surface and whatever fails. -/
structure Scoped (figures : List Figure) (calls : List Attempt) : Prop where
  alike : calls.map (·.unfailing) = (shownFigures figures).flatMap fun (f, image) =>
    f.attempts image none
  /-- Each image is drawn once, in the order of the store, in the frame of its figure, on top of the
  transform from before the pass, and with that one alone saved. -/
  sights : ∀ p : PoseStack, p.sights calls = (shownFigures figures).map fun (f, image) =>
    ((image, f.sprite), ⟨f.frame p.current, p.current :: p.saved⟩)
  brackets : calls.filterMap (·.bracket?) = (shownFigures figures).flatMap fun _ =>
    [.save, .restore]
  kept : ∀ p : PoseStack, p.after calls = p

theorem after_passCalls (p : PoseStack) (outcomes : List SpriteOutcome) :
    p.after (passCalls outcomes) = p := by
  induction outcomes with
  | nil => rfl
  | cons outcome rest ih =>
    rw [passCalls, List.flatMap_cons, PoseStack.after_append]
    exact ih

theorem sights_passCalls (p : PoseStack) (outcomes : List SpriteOutcome) :
    p.sights (passCalls outcomes) = (outcomes.map (·.1)).map fun (f, image) =>
      ((image, f.sprite), ⟨f.frame p.current, p.current :: p.saved⟩) := by
  induction outcomes with
  | nil => rfl
  | cons outcome rest ih =>
    rw [passCalls, List.flatMap_cons, PoseStack.sights_append]
    exact congrArg (_ :: ·) ih

theorem Passes.scope {S : Type} [Surface S] {figures : List Figure} {s : Traced S}
    {outcomes : List SpriteOutcome} (passes : Passes figures s outcomes) :
    Scoped figures (passCalls outcomes) where
  alike := by
    rw [← passes.each, passCalls, List.map_flatMap, List.flatMap_map]
    rfl
  sights p := by rw [sights_passCalls, passes.each]
  brackets := by
    rw [← passes.each, passCalls, List.filterMap_flatMap, List.flatMap_map]
    rfl
  kept p := after_passCalls p outcomes

namespace Machine
variable {κ σ S : Type} [Surface S]

def spriteMessages (outcomes : List SpriteOutcome) : List (Happening κ σ) :=
  outcomes.filterMap fun outcome =>
    outcome.2.map fun e => .notice (.figureFailed outcome.1.1.id e)

/-- What drawing the figures does to a stage and to its surface. -/
structure DrawsSprites (m : Machine κ σ (Traced S)) (s : Traced S)
    (outcomes : List SpriteOutcome) : Prop where
  each : outcomes.map (·.1) = shownFigures m.context.figures.figures
  machine : m.drawFigures =
    recordAll (spriteMessages outcomes) { m with
      surface := some (Traced.mk (SpriteStage.drawFigures m.context.figures.figures s.surface).2
        (s.trace ++ passCalls outcomes)) }
  failures : (SpriteStage.drawFigures m.context.figures.figures s.surface).1 =
    outcomes.filterMap fun outcome => outcome.2.map (outcome.1.1.id, ·)
  scope : Scoped m.context.figures.figures (passCalls outcomes)

/-- Whatever the figures are, and whichever of their images the surface fails to draw, the figures
that are shown are drawn one by one, each under its own transform. -/
theorem sprites_scoped {m : Machine κ σ (Traced S)} {s : Traced S} (here : m.surface = some s) :
    ∃ outcomes, m.DrawsSprites s outcomes := by
  obtain ⟨outcomes, passes⟩ := exists_passes m.context.figures.figures s
  refine ⟨outcomes, passes.each, ?_, passes.same.symm.trans passes.told, passes.scope⟩
  have messages : (outcomes.filterMap fun outcome => outcome.2.map (outcome.1.1.id, ·)).map
      (fun (figure, e) => .notice (.figureFailed figure e)) =
        (spriteMessages outcomes : List (Happening κ σ)) := by
    simp only [spriteMessages, List.map_filterMap, Option.map_map]
    rfl
  rw [drawFigures, here]
  simp only [passes.surface, passes.told, messages]

/-- Four figures, of which one is hidden and one has no image, on a surface that draws one image and
fails then. -/
def revue : Machine Unit Unit (Traced QuotaSurface) :=
  let m : Machine Unit Unit (Traced QuotaSurface) := .new .standard (fun _ => false) ()
  let figure (id : FigureId) (image : Option ImageHandle) : Figure :=
    { Figure.new id 50 50 with image := image }
  let figures := [figure 1 (some 7), { figure 2 (some 8) with visible := false }, figure 3 none,
    figure 4 (some 9)]
  { m with
    surface := some ⟨⟨.ofSize 640 480, [(.drawImage, 1)]⟩, []⟩
    context := { m.context with figures := ⟨figures, 5⟩ } }

/-- Both images are tried, and the one that fails leaves a message. -/
theorem revue_scoped : ∃ s outcomes, revue.surface = some s ∧ revue.DrawsSprites s outcomes ∧
    revue.drawFigures.surface.map (·.trace.filterMap (·.image?.map (·.1))) = some [7, 9] ∧
    revue.drawFigures.journal.length = 1 := by
  obtain ⟨outcomes, draws⟩ := sprites_scoped (m := revue) rfl
  exact ⟨_, outcomes, rfl, draws, by rfl, by rfl⟩

end Machine
end SpriteStage
