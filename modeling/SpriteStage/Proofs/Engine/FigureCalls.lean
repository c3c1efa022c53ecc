import SpriteStage.Proofs.Engine.Removal
import SpriteStage.Proofs.Figure.Sizes

/-! Calls about one figure. Ids of figures are distinct in every machine that a stage can come to,
in the middle of a handler as well as between calls of a host, so such a call changes that figure
wherever it stands and leaves all others alone, and without the figure it changes nothing. -/

namespace SpriteStage
variable {κ σ S : Type}

def Call.figure? : Call κ σ → Option FigureId
  | .editFigure id _ | .removeFigure id | .swapImage id _ => some id
  | _ => none

namespace Machine
variable [Surface S]

/-- The machines that a stage can come to: scripts make calls, something is written down, handlers
are lent out and given back, and the engine does the rest by its own hand. -/
inductive Arises : Machine κ σ S → Prop
  | new (settings : Settings) (present : String → Bool) (memory : σ) :
    Arises (.new settings present memory)
  | called {m : Machine κ σ S} (arises : m.Arises) (c : Call κ σ) : Arises (m.perform c).2
  | noted {m : Machine κ σ S} (arises : m.Arises) {happening : Happening κ σ}
      (entry : happening.isEntry) : Arises (m.record happening)
  | lent {m : Machine κ σ S} (arises : m.Arises) (f : Handlers κ → Handlers κ) :
    Arises (m.onHandlers f)
  | began {m : Machine κ σ S} (arises : m.Arises) (id : CollisionId) : Arises (m.beginCollision id)
  | restored {m : Machine κ σ S} (arises : m.Arises) (id : CollisionId) (handler : κ) :
    Arises (m.onCollisions (·.restore id handler))
  | touched {m after : Machine κ σ S} (arises : m.Arises) {call : HostCall κ σ S}
      (touch : Engine.Touch call m after) : Arises after

variable {m after : Machine κ σ S}

omit [Surface S] in
theorem sound_follows (follows : Aspect.cast.Follows m after) (sound : m.context.cast.Sound) :
    after.context.cast.Sound := by
  obtain ⟨news, _, history⟩ := follows
  exact history.invariant (fun sound step => Cast.Step.sound step sound) sound

theorem Arises.sound (arises : m.Arises) : m.context.cast.Sound := by
  induction arises with
  | new => exact Cast.sound_start
  | @called m _ c ih => exact sound_follows (Aspect.cast_arranged.kept.perform c m) ih
  | noted | lent => exact ‹_›
  | @began m _ id ih => exact (Engine.setHandler_cast m id none).symm ▸ ih
  | @restored m _ id handler ih => exact (Engine.setHandler_cast m id (some handler)).symm ▸ ih
  | touched _ touch ih =>
    rcases touch.idles with idles | rfl | ⟨-, rfl⟩
    · exact sound_follows (Aspect.cast_arranged.idles idles) ih
    · exact ih
    · exact ⟨List.nodup_nil, fun _ present => absurd present List.not_mem_nil⟩

/-- Calls about one figure touch that figure only. -/
structure FigureCalls (m : Machine κ σ S) : Prop where
  others : ∀ (c : Call κ σ) id, c.figure? = some id →
    (m.perform c).2.context.figures.others id = m.context.figures.others id ∧
    (m.perform c).2.context.figures.nextId = m.context.figures.nextId ∧
    (m.perform c).2.context.collisions.latest = m.context.collisions.latest
  edits : ∀ id change, ∃ journal, (m.perform (.editFigure id change)).2 = { m with
    journal := journal
    context := { m.context with
      figures := { m.context.figures with figures := m.context.figures.edited id change } } }
  removes : ∀ id, id ∈ m.context.figures.ids →
    ∃ journal, (m.perform (.removeFigure id)).2 = { m with
      journal := journal
      context := { m.context with
        figures := { m.context.figures with figures := m.context.figures.others id }
        collisions := { m.context.collisions with
          entries := m.context.collisions.entries.filter (!·.names id) } } }
  swaps : ∀ id asset, id ∈ m.context.figures.ids →
    (m.perform (.swapImage id asset)).1 = m.board.slots.length ∧
    ∃ journal, (m.perform (.swapImage id asset)).2 = { m with
      journal := journal
      board := ⟨m.board.slots ++ [.pending]⟩
      context := { m.context with
        loads := m.context.loads ++ [⟨id, asset, .swap m.board.slots.length⟩] } }
  absent : ∀ (c : Call κ σ) id, c.figure? = some id → id ∉ m.context.figures.ids →
    ∃ board journal, (m.perform c).2 = { m with board := board, journal := journal } ∧
      ((∀ asset, c ≠ .swapImage id asset) → board = m.board)
  refuses : ∀ id asset, id ∉ m.context.figures.ids →
    (m.perform (.swapImage id asset)).1 = m.board.slots.length ∧
    ∃ journal, (m.perform (.swapImage id asset)).2 = { m with
      journal := journal
      board := ⟨m.board.slots ++ [.rejected (.asset (.missingFigure id))]⟩ }

theorem perform_editFigure (distinct : m.context.figures.ids.Nodup) (id : FigureId)
    (change : FigureEdit) : ∃ journal, (m.perform (.editFigure id change)).2 = { m with
      journal := journal
      context := { m.context with
        figures := { m.context.figures with figures := m.context.figures.edited id change } } } := by
  rw [← FigureStore.edit_distinct distinct]
  exact ⟨_, rfl⟩

theorem perform_removeFigure (distinct : m.context.figures.ids.Nodup) {id : FigureId}
    (there : id ∈ m.context.figures.ids) :
    ∃ journal, (m.perform (.removeFigure id)).2 = { m with
      journal := journal
      context := { m.context with
        figures := { m.context.figures with figures := m.context.figures.others id }
        collisions := { m.context.collisions with
          entries := m.context.collisions.entries.filter (!·.names id) } } } := by
  have removed : m.context.removeFigure id = (true, { m.context with
      figures := m.context.figures.remove id
      collisions := m.context.collisions.purge id }) :=
    if_pos ((FigureStore.contains_iff m.context.figures id).mpr there)
  have performed : (m.perform (.removeFigure id)).2 = { m with
      journal := m.journal ++ [.called (.removeFigure id) (m.context.removeFigure id).1]
      context := (m.context.removeFigure id).2 } := rfl
  rw [performed, removed, ← FigureStore.remove_distinct distinct]
  exact ⟨_, rfl⟩

theorem perform_swapImage {id : FigureId} (there : id ∈ m.context.figures.ids) (asset : String) :
    (m.perform (.swapImage id asset)).1 = m.board.slots.length ∧
    ∃ journal, (m.perform (.swapImage id asset)).2 = { m with
      journal := journal
      board := ⟨m.board.slots ++ [.pending]⟩
      context := { m.context with
        loads := m.context.loads ++ [⟨id, asset, .swap m.board.slots.length⟩] } } := by
  have contained := (FigureStore.contains_iff m.context.figures id).mpr there
  simp only [perform, effect, swapImage, if_pos contained]
  exact ⟨rfl, _, rfl⟩

theorem perform_swapImage_absent {id : FigureId} (absent : m.context.figures.contains id = false)
    (asset : String) : (m.perform (.swapImage id asset)).1 = m.board.slots.length ∧
    ∃ journal, (m.perform (.swapImage id asset)).2 = { m with
      journal := journal
      board := ⟨m.board.slots ++ [.rejected (.asset (.missingFigure id))]⟩ } := by
  simp only [perform, effect, swapImage, absent, Bool.false_eq_true, if_false]
  exact ⟨rfl, _, rfl⟩

theorem perform_absent {c : Call κ σ} {id : FigureId} (about : c.figure? = some id)
    (absent : m.context.figures.contains id = false) :
    ∃ board journal, (m.perform c).2 = { m with board := board, journal := journal } ∧
      ((∀ asset, c ≠ .swapImage id asset) → board = m.board) := by
  cases c with
  | editFigure other change =>
    obtain rfl := Option.some.inj about
    have same : m.context.figures.edit other change = m.context.figures :=
      FigureStore.edit_absent absent change
    simp only [perform, effect, withContext, Context.editFigure, same]
    exact ⟨m.board, _, rfl, fun _ => rfl⟩
  | removeFigure other =>
    obtain rfl := Option.some.inj about
    simp only [perform, effect, withContext, Context.removeFigure, absent, Bool.false_eq_true,
      if_false]
    exact ⟨m.board, _, rfl, fun _ => rfl⟩
  | swapImage other asset =>
    obtain rfl := Option.some.inj about
    obtain ⟨-, journal, same⟩ := m.perform_swapImage_absent absent asset
    exact ⟨_, journal, same, fun other => absurd rfl (other asset)⟩
  | _ => cases about

theorem perform_others (distinct : m.context.figures.ids.Nodup) {c : Call κ σ} {id : FigureId}
    (about : c.figure? = some id) :
    (m.perform c).2.context.figures.others id = m.context.figures.others id ∧
    (m.perform c).2.context.figures.nextId = m.context.figures.nextId ∧
    (m.perform c).2.context.collisions.latest = m.context.collisions.latest := by
  by_cases there : id ∈ m.context.figures.ids
  · cases c with
    | editFigure other change =>
      obtain rfl := Option.some.inj about
      exact ⟨FigureStore.others_edit _ other change, rfl, rfl⟩
    | removeFigure other =>
      obtain rfl := Option.some.inj about
      obtain ⟨journal, same⟩ := perform_removeFigure distinct there
      rw [same]
      exact ⟨by simp [FigureStore.others], rfl, rfl⟩
    | swapImage other asset =>
      obtain rfl := Option.some.inj about
      obtain ⟨-, journal, same⟩ := perform_swapImage there asset
      rw [same]
      exact ⟨rfl, rfl, rfl⟩
    | _ => cases about
  · obtain ⟨board, journal, same, -⟩ := perform_absent about (FigureStore.not_contains there)
    rw [same]
    exact ⟨rfl, rfl, rfl⟩

theorem Arises.figureCalls (arises : m.Arises) : m.FigureCalls where
  others _ _ about := perform_others arises.sound.distinct about
  edits := perform_editFigure arises.sound.distinct
  removes _ there := perform_removeFigure arises.sound.distinct there
  swaps _ asset there := perform_swapImage there asset
  absent _ _ about absent := perform_absent about (FigureStore.not_contains absent)
  refuses _ asset absent := perform_swapImage_absent (FigureStore.not_contains absent) asset

end Machine

theorem Engine.Reachable.arises [Surface S] {p : Program κ σ} {e : Engine κ σ S}
    (reached : Reachable p e) : e.machine.Arises := by
  have kept : Machine.Kept fun before after : Machine κ σ S => before.Arises → after.Arises :=
    ⟨fun _ => id, fun first second => second ∘ first, fun c _ arises => arises.called c⟩
  have routine : Routine p fun before after : Machine κ σ S => before.Arises → after.Arises :=
    .of_kept kept (fun _ _ entry arises => arises.noted entry) (fun _ f _ arises => arises.lent f)
      (fun _ id arises => arises.began id) fun _ id handler arises => arises.restored id handler
  induction reached with
  | new settings present memory => exact .new settings present memory
  | @step e _ call ih => exact routine.step (fun _ _ touch arises => arises.touched touch) e ih

namespace Machine

/-- Calls about one figure touch that figure only, on every machine that a stage can come to. -/
theorem figure_calls_touch_their_figure [Surface S] (p : Program κ σ) :
    (∀ e : Engine κ σ S, Engine.Reachable p e → e.machine.Arises) ∧
      ∀ m : Machine κ σ S, m.Arises → m.FigureCalls :=
  ⟨fun _ reached => reached.arises, fun _ arises => arises.figureCalls⟩

def trioStage : Engine Unit Unit RecordingSurface :=
  let register : Script Unit Unit Unit := do
    let _ ← Script.perform (.createFigure "a.png")
    let _ ← Script.perform (.createFigure "b.png")
    let _ ← Script.perform (.createFigure "c.png")
    let _ ← Script.perform (.onCollision 1 3 ())
    let _ ← Script.perform (.onCollision 2 3 ())
  (Engine.new .standard (fun _ => false) ()).after Engine.vanishing [.script register]

/-- Without its second figure the stage has the others and the pair of them, and a figure that was
never there has no image to swap. -/
theorem trio_loses_second : Engine.Reachable Engine.vanishing trioStage ∧
    trioStage.machine.Arises ∧
    (trioStage.machine.perform (.removeFigure 2)).2.context.figures.ids = [1, 3] ∧
    (trioStage.machine.perform (.removeFigure 2)).2.context.collisions.ids = [1] ∧
    (trioStage.machine.perform (.swapImage 7 "d.png")).2.context = trioStage.context ∧
    (trioStage.machine.perform (.swapImage 7 "d.png")).2.board.state 0 =
      .rejected (.asset (.missingFigure 7)) := by
  obtain ⟨stage, calls⟩ := figure_calls_touch_their_figure (S := RecordingSurface) Engine.vanishing
  have reached : Engine.Reachable Engine.vanishing trioStage :=
    Engine.reachable_after Engine.vanishing _ (.new ..)
  have arises := stage trioStage reached
  have there : 2 ∈ trioStage.machine.context.figures.ids := by decide
  have absent : 7 ∉ trioStage.machine.context.figures.ids := by decide
  obtain ⟨_, removed⟩ := (calls _ arises).removes 2 there
  obtain ⟨-, _, refused⟩ := (calls _ arises).refuses 7 "d.png" absent
  refine ⟨reached, arises, ?_⟩
  rw [removed, refused]
  exact ⟨rfl, rfl, rfl, rfl⟩

end Machine
end SpriteStage
