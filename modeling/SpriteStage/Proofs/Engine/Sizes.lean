import SpriteStage.Proofs.Asset.Loading
import SpriteStage.Proofs.Engine.Steady
import SpriteStage.Proofs.Figure.Sizes
import SpriteStage.Proofs.Script.Effects

namespace SpriteStage
variable {κ σ S : Type}

theorem FigureStore.bare_contains (store : FigureStore) (id : FigureId) :
    store.bare.contains id = store.contains id := by
  rw [Bool.eq_iff_iff, contains_iff, contains_iff, bare_ids]

namespace Context

theorem createFigure_measures (c : Context κ) (asset : String) :
    Measures.Step c.measures (.called (.createFigure asset) (c.createFigure asset).1 :
      Happening κ σ) (c.createFigure asset).2.measures := by
  have same : (c.createFigure asset).2.measures = { c.measures with
      figures := (c.measures.figures.create (c.measures.standard .width)
        (c.measures.standard .height)).2 } := by
    simp [createFigure, measures, FigureStore.create, FigureStore.bare, Settings.figureLength,
      Axis.pick]
    rfl
  rw [same]
  exact .made c.measures asset

theorem editFigure_measures (c : Context κ) (figure : FigureId) (change : FigureEdit) :
    Measures.Step c.measures (.called (.editFigure figure change) (c.editFigure figure change).1 :
      Happening κ σ) (c.editFigure figure change).2.measures := by
  cases there : c.figures.contains figure with
  | true =>
    have present : c.measures.figures.contains figure :=
      (c.figures.bare_contains figure).trans there
    have same : (c.editFigure figure change).2.measures = { c.measures with
        figures := (c.measures.figures.edit figure change).bare } :=
      congrArg (Measures.mk · c.settings.figureLength) (c.figures.bare_edit figure change).symm
    rw [same, editFigure, there]
    exact .edited c.measures present change
  | false =>
    have same : (c.editFigure figure change).2 = c := by
      rw [editFigure, FigureStore.edit_absent there]
    rw [same, editFigure, there]
    exact .other c.measures rfl

theorem removeFigure_measures (c : Context κ) (figure : FigureId) :
    Measures.Step c.measures (.called (.removeFigure figure) (c.removeFigure figure).1 :
      Happening κ σ) (c.removeFigure figure).2.measures := by
  unfold removeFigure
  split
  · have fewer : ((c.figures.remove figure).figures.map (·.bare)).Sublist
        c.measures.figures.figures := List.eraseP_sublist.map _
    exact .removed c.measures figure true fewer
  · exact .removed c.measures figure false (List.Sublist.refl _)

end Context

namespace Loading
variable [Surface S]

theorem completeOne_measures (rules : LoadRules) (st : Loading S) (request : LoadRequest)
    (standard : Axis → Float32) : ∃ applied : List (FigureId × ImageInfo),
    (completeOne rules st request).applied = st.applied ++ applied ∧
      Aspect.measures.History ⟨st.figures.bare, standard⟩
        (applied.map fun (figure, image) => (.imageApplied figure image : Happening κ σ))
        ⟨(completeOne rules st request).figures.bare, standard⟩ := by
  have reported (kind : LoadKind) (outcome : Settled) (st : Loading S) :
      (st.report kind outcome).applied = st.applied := by
    cases kind <;> rfl
  unfold completeOne
  split
  · refine ⟨[], by simp [reported], ?_⟩
    rw [report_figures]
    exact .nil _
  · rename_i figure found
    split
    · rename_i image surface _
      refine ⟨[(request.figure, image)], reported .., ?_⟩
      have there : st.figures.bare.contains request.figure := by
        rw [FigureStore.bare_contains, FigureStore.contains, found]
        rfl
      rw [report_figures]
      dsimp only
      rw [← FigureStore.bare_edit]
      exact .cons (.applied ⟨st.figures.bare, standard⟩ there image) (.nil _)
    · refine ⟨[], ?_, ?_⟩
      · rw [reported, standIn]
        split <;> simp [note]
      · rw [report_figures, standIn]
        split
        · simp only [note, FigureStore.bare_setImage]
          exact .nil _
        · exact .nil _

theorem complete_measures (rules : LoadRules) (requests : List LoadRequest) (st : Loading S)
    (standard : Axis → Float32) : ∃ applied : List (FigureId × ImageInfo),
    (complete rules requests st).applied = st.applied ++ applied ∧
      Aspect.measures.History ⟨st.figures.bare, standard⟩
        (applied.map fun (figure, image) => (.imageApplied figure image : Happening κ σ))
        ⟨(complete rules requests st).figures.bare, standard⟩ := by
  induction requests generalizing st with
  | nil => exact ⟨[], (List.append_nil _).symm, .nil _⟩
  | cons request rest ih =>
    obtain ⟨first, applied, history⟩ :=
      completeOne_measures (κ := κ) (σ := σ) rules st request standard
    obtain ⟨others, alsoApplied, later⟩ := ih (completeOne rules st request)
    refine ⟨first ++ others, ?_, ?_⟩
    · rw [← List.append_assoc, ← applied]
      exact alsoApplied
    · rw [List.map_append]
      exact history.append later

end Loading

namespace Machine
variable [Surface S] {before after : Machine κ σ S}

theorem effect_measures (c : Call κ σ) (m : Machine κ σ S) :
    Measures.Step m.context.measures (.called c (m.effect c).1)
      (m.effect c).2.context.measures := by
  cases c with
  | view => exact .viewed m.context
  | createFigure asset => exact m.context.createFigure_measures asset
  | editFigure figure change => exact m.context.editFigure_measures figure change
  | removeFigure figure => exact m.context.removeFigure_measures figure
  | draw _ | playSound _ | random _ _ =>
    rw [(effect_outward rfl m).1]
    exact .other _ rfl
  | swapImage figure asset =>
    have still : (m.swapImage figure asset).2.context.measures = m.context.measures := by
      unfold swapImage
      split <;> rfl
    simp only [effect, still]
    exact .other _ rfl
  | wait millis =>
    obtain ⟨deadline, _, same⟩ := wait_frame millis m
    simp only [effect, same]
    exact .other _ rfl
  | _ => exact .other _ rfl

omit [Surface S] in
theorem Warns.measures (warns : before.Warns after)
    (same : after.context.measures = before.context.measures) :
    Aspect.measures.Follows before after := by
  obtain ⟨notices, journal, mild⟩ := warns
  refine ⟨notices.map .notice, journal, ?_⟩
  change Aspect.measures.History before.context.measures _ after.context.measures
  rw [same]
  apply Aspect.History.silent
  intro happening member
  obtain ⟨notice, noted, rfl⟩ := List.mem_map.mp member
  have warning := mild notice noted
  refine .other _ ?_
  cases notice with
  | reset => cases warning
  | _ => rfl

theorem measures_perform (c : Call κ σ) (m : Machine κ σ S) :
    Aspect.measures.Follows m (m.perform c).2 := by
  obtain ⟨notices, journal, mild⟩ := effect_warns c m
  let warned : Machine κ σ S := { m with journal := (m.effect c).2.journal }
  have warns : Aspect.measures.Follows m warned := Warns.measures ⟨notices, journal, mild⟩ rfl
  have called : Aspect.measures.Follows warned (m.perform c).2 :=
    ⟨[.called c (m.effect c).1], rfl, .cons (effect_measures c m) (.nil _)⟩
  exact warns.trans called

theorem kept_measures : Kept (Aspect.measures.Follows (κ := κ) (σ := σ) (S := S)) :=
  ⟨.refl, .trans, measures_perform⟩

omit [Surface S] in
theorem measures_entry {happening : Happening κ σ} (entry : happening.isEntry)
    (m : Machine κ σ S) : Aspect.measures.Follows m (m.record happening) := by
  refine ⟨[happening], rfl, .cons (.other _ ?_) (.nil _)⟩
  cases happening with
  | called | imageApplied => cases entry
  | notice notice =>
    cases notice with
    | reset => cases entry
    | _ => rfl
  | _ => rfl

theorem measures_completeLoads (m : Machine κ σ S) :
    Aspect.measures.Follows m m.completeLoads := by
  cases here : m.surface with
  | none =>
    rw [completeLoads_none here]
    exact .refl m
  | some surface =>
    obtain ⟨applied, same, history⟩ := Loading.complete_measures (κ := κ) (σ := σ) m.loadRules
      m.context.loads ⟨m.context.figures, m.board, surface, [], []⟩ m.context.settings.figureLength
    have warns := complete_warns m.loadRules m.context.loads
      ⟨m.context.figures, m.board, surface, [], []⟩ (by simp)
    have listed : (m.loaded surface).applied = applied := same
    rw [completeLoads_some here, listed]
    let told : Machine κ σ S := recordAll
      (applied.map fun (figure, image) => .imageApplied figure image)
      { m with context := { m.context with figures := (m.loaded surface).figures } }
    have given : Aspect.measures.Follows m told := ⟨_, rfl, history⟩
    refine given.trans (Warns.measures ⟨(m.loaded surface).notices, ?_, warns⟩ rfl)
    exact (List.append_assoc ..).symm

theorem Draws.warns (draws : Draws before after) : before.Warns after := by
  cases draws with
  | cleared => exact warns_drawWith ..
  | figures =>
    unfold drawFigures
    split
    · exact .of_same rfl
    · rename_i surface _
      let failures := (SpriteStage.drawFigures before.context.figures.figures surface).1
      refine ⟨failures.map fun (figure, e) => .figureFailed figure e, ?_, ?_⟩
      · exact congrArg _ (List.map_map ..).symm
      · intro notice member
        obtain ⟨failure, _, rfl⟩ := List.mem_map.mp member
        rfl
  | overlay =>
    unfold drawOverlay
    split
    · exact .of_same rfl
    · dsimp only
      split
      · exact .of_same rfl
      · exact ⟨[_], rfl, List.forall_mem_singleton.mpr rfl⟩
  | presented => exact .of_same rfl

end Machine

namespace Engine
open Machine
variable [Surface S] {p : Program κ σ}

theorem routine_measures (p : Program κ σ) :
    Routine p (Aspect.measures.Follows (κ := κ) (σ := σ) (S := S)) :=
  .of_kept kept_measures (fun m _ entry => measures_entry entry m) (fun _ _ _ => .of_same rfl rfl)
    (fun _ id => ⟨[.collided id], rfl, .cons (.other _ rfl) (.nil _)⟩)
    fun _ _ _ => .of_same rfl rfl

theorem Touch.measures {call : HostCall κ σ S} {before after : Machine κ σ S}
    (touch : Touch call before after) : Aspect.measures.Follows before after := by
  cases touch with
  | forgotten => exact ⟨[.notice .reset], rfl, .cons (.cleared _) (.nil _)⟩
  | loaded => exact measures_completeLoads before
  | drawn now draws =>
    obtain ⟨_, prompt, same, _⟩ := draws.context
    exact draws.warns.measures (by rw [same]; rfl)
  | attached | placed | timed | hidden | heard | fired | unguarded | untapped | pressed | typed
  | released | moused => exact .of_same rfl rfl

theorem measures_after (p : Program κ σ) (calls : List (HostCall κ σ S)) (e : Engine κ σ S) :
    Aspect.measures.Follows e.machine (e.after p calls).machine := by
  induction calls generalizing e with
  | nil => exact .refl e.machine
  | cons call rest ih =>
    have first : Aspect.measures.Follows e.machine (e.step p call).2.machine :=
      (routine_measures p).step (fun _ _ touch => touch.measures) e
    exact first.trans (ih (e.step p call).2)

/-- What holds of sizes in a run, whatever the scripts and the host do to figures. -/
structure SizesTrue (p : Program κ σ) (settings : Settings) (e : Engine κ σ S) : Prop where
  now : ∀ figure ∈ e.context.figures.figures, ∀ axis,
    TrueSize settings e.machine.journal figure axis
  seen : ∀ early context, early ++ [.called .view context] <+: e.machine.journal →
    ∀ figure ∈ context.figures.figures, ∀ axis, TrueSize settings early figure axis
  pinned : ∀ later news figure axis, figure ∈ e.context.figures.figures →
    figure.source axis = .manual →
    (e.after p later).machine.journal = e.machine.journal ++ news →
    Journal.assigned figure.id axis news = [] →
    ∀ other ∈ (e.after p later).context.figures.figures, other.id = figure.id →
      other.sizing axis = figure.sizing axis

theorem measures_history (p : Program κ σ) (settings : Settings) (present : String → Bool)
    (memory : σ) (calls : List (HostCall κ σ S)) :
    let e : Engine κ σ S := (new settings present memory).after p calls
    Aspect.measures.History ⟨.empty, settings.figureLength⟩ e.machine.journal
      e.context.measures := by
  intro e
  obtain ⟨news, journal, history⟩ :=
    measures_after p calls (new settings present memory : Engine κ σ S)
  have written : e.machine.journal = news := journal
  rw [written]
  exact history

theorem sizes_now (p : Program κ σ) (settings : Settings) (present : String → Bool)
    (memory : σ) (calls : List (HostCall κ σ S)) :
    let e : Engine κ σ S := (new settings present memory).after p calls
    ∀ figure ∈ e.context.figures.figures, ∀ axis, figure.sizing axis =
      Journal.sizing (settings.figureLength axis) figure.id axis e.machine.journal := by
  intro e figure member axis
  have history := measures_history p settings present memory calls
  exact history.sizes _ (List.mem_map_of_mem member) axis

/-- The sizes of figures tell the truth, in every run. -/
theorem sizes_true (p : Program κ σ) (settings : Settings) (present : String → Bool)
    (memory : σ) (calls : List (HostCall κ σ S)) :
    SizesTrue p settings ((new settings present memory : Engine κ σ S).after p calls) where
  now figure member axis :=
    .of_sizing (sizes_now p settings present memory calls figure member axis)
  seen early context seen figure member axis := by
    obtain ⟨late, journal⟩ := seen
    have history : Aspect.measures.History ⟨.empty, settings.figureLength⟩ _ _ :=
      measures_history (S := S) p settings present memory calls
    rw [← journal, List.append_assoc] at history
    obtain ⟨stage, before, looked⟩ := history.split
    cases looked with
    | cons step rest =>
      cases step with
      | viewed => exact .of_sizing (before.sizes _ (List.mem_map_of_mem member) axis)
      | other _ silent => cases silent
  pinned later news figure axis member manual journal unassigned other stays same := by
    have now := sizes_now p settings present memory calls figure member axis
    have after := sizes_now p settings present memory (calls ++ later) other
      (by rwa [after_append]) axis
    rw [after_append, journal, same] at after
    rw [after, now]
    exact Journal.sizing_pinned (by rw [← now]; exact manual) unassigned

/-- A figure whose width is set before its image comes, and which then fails to get another one. -/
def fitting : List (HostCall Unit Unit RecordingSurface) :=
  let make : Script Unit Unit Unit := do
    let _ ← Script.perform (.createFigure "a.png")
    let _ ← Script.perform (.editFigure 1 (.setWidth 80))
  let swap : Script Unit Unit Unit := do
    let _ ← Script.perform (.swapImage 1 "b.png")
  [.attach ((RecordingSurface.ofSize 640 480).withImage "a.png" 8 6), .script make,
    .frame 16, .script swap, .frame 32]

/-- The width is that of the script, the height that of the one image that was applied. -/
theorem fitting_sizes_true :
    let stage := (new .standard (fun _ => false) () : Engine Unit Unit RecordingSurface).after
      blank fitting
    SizesTrue blank .standard stage ∧
      (stage.context.figures.figures.map fun f => (f.source .width, f.source .height)) =
        [(.manual, .auto)] ∧
      Journal.assigned 1 .width stage.machine.journal = [80] ∧
      (Journal.imaged 1 stage.machine.journal).map (·.natural .height) = [UInt32.toFloat32 6] :=
  ⟨sizes_true blank .standard (fun _ => false) () fitting, by rfl, by rfl, by rfl⟩

end Engine
end SpriteStage
