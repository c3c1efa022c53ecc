import SpriteStage.Proofs.Figure.Store
import SpriteStage.Proofs.Script.History

namespace SpriteStage

theorem Happening.isPlain_of_isRemark {κ σ : Type} {happening : Happening κ σ}
    (remark : happening.isRemark) : happening.isPlain :=
  isPlain_of_isMark (isMark_of_isRemark remark)

/-- What scripts have arranged on the stage: which figures there are, and what is registered. -/
structure Arrangement (κ : Type) where
  figures : List FigureId
  nextId : Nat
  collisions : CollisionRegistry κ
  handlers : Handlers κ
  stopRequested : Bool

def Context.arrangement {κ : Type} (c : Context κ) : Arrangement κ :=
  ⟨c.figures.ids, c.figures.nextId, c.collisions, c.handlers, c.stopRequested⟩

def Call.arranges {κ σ : Type} : Call κ σ → Bool
  | .createFigure _ | .removeFigure _ | .requestStop => true
  | .onStart _ | .onFrame _ | .onKey .. | .onCollision .. => true
  | _ => false

namespace Machine
variable {κ σ S : Type}

structure Idles (before after : Machine κ σ S) : Prop where
  journal : ∃ news, after.journal = before.journal ++ news ∧ ∀ happening ∈ news, happening.isPlain
  arrangement : after.context.arrangement = before.context.arrangement

section Idles
variable {before middle after m : Machine κ σ S}

theorem Idles.trans (first : before.Idles middle) (second : middle.Idles after) :
    before.Idles after where
  journal := by
    obtain ⟨news, journal, plain⟩ := first.journal
    obtain ⟨more, moreJournal, morePlain⟩ := second.journal
    refine ⟨news ++ more, by simp [journal, moreJournal], ?_⟩
    exact List.forall_mem_append.mpr ⟨plain, morePlain⟩
  arrangement := second.arrangement.trans first.arrangement

theorem idles_record {happening : Happening κ σ} (plain : happening.isPlain) :
    m.Idles (m.record happening) :=
  ⟨⟨[happening], rfl, by simpa using plain⟩, rfl⟩

theorem Idles.of_leads (leads : before.Leads (·.isRemark) after)
    (arrangement : after.context.arrangement = before.context.arrangement) :
    before.Idles after where
  journal := by
    obtain ⟨news, journal, remarks⟩ := leads.journal
    exact ⟨news, journal, fun happening member =>
      Happening.isPlain_of_isRemark (remarks happening member)⟩
  arrangement := arrangement

theorem Idles.refl (m : Machine κ σ S) : m.Idles m := ⟨⟨[], by simp, by simp⟩, rfl⟩

theorem Idles.of_same (journal : after.journal = before.journal)
    (arrangement : after.context.arrangement = before.context.arrangement) :
    before.Idles after :=
  ⟨⟨[], by simp [journal], by simp⟩, arrangement⟩

theorem idles_timers (timers : List Timer) (board : Board) :
    m.Idles ({ m with board := board }.onContext fun c => { c with timers := timers }) :=
  .of_same rfl rfl

theorem idles_dice (dice : Dice) : m.Idles { m with dice := dice } := .of_same rfl rfl

theorem idles_drawWith (call : DrawCall) (action : Draw S Unit) :
    m.Idles (m.drawWith call action) := by
  refine .of_leads (leads_drawWith call action) ?_
  unfold drawWith
  split
  · rfl
  · split <;> rfl

end Idles

section Stage
variable [Surface S] {m : Machine κ σ S}

theorem idles_completeLoads (m : Machine κ σ S) : m.Idles m.completeLoads := by
  refine .of_leads (leads_completeLoads m) ?_
  unfold completeLoads
  split
  · rfl
  · rename_i surface _
    obtain ⟨ids, nextId⟩ := Loading.complete_figures m.loadRules m.context.loads
      ⟨m.context.figures, m.board, surface, [], []⟩
    simp only [Context.arrangement, recordAll, onContext, ids, nextId]

theorem idles_beginFrame (now : Nat) (m : Machine κ σ S) : m.Idles (m.beginFrame now) := by
  have timed : m.Idles (m.setNow now) := .of_same rfl rfl
  have fired : (m.setNow now).completeLoads.Idles (m.beginFrame now) := .of_same rfl rfl
  exact (timed.trans (idles_completeLoads _)).trans fired

theorem idles_clearStage (m : Machine κ σ S) : m.Idles m.clearStage := idles_drawWith ..

theorem idles_drawFigures (m : Machine κ σ S) : m.Idles m.drawFigures := by
  refine .of_leads (leads_drawFigures m) ?_
  unfold drawFigures
  split <;> rfl

theorem idles_drawOverlay (m : Machine κ σ S) : m.Idles m.drawOverlay := by
  refine .of_leads (leads_drawOverlay m) ?_
  unfold drawOverlay
  split
  · rfl
  · dsimp only
    split <;> rfl

theorem idles_presentStage (m : Machine κ σ S) : m.Idles m.presentStage := .of_same rfl rfl

theorem idles_drawing (drawing : Drawing) : m.Idles (m.drawing drawing) := by
  cases drawing <;> exact idles_drawWith ..

theorem effect_arrangement {c : Call κ σ} (idle : c.arranges = false) (m : Machine κ σ S) :
    (m.effect c).2.context.arrangement = m.context.arrangement := by
  cases c with
  | editFigure figure change =>
    simp only [effect, withContext, Context.editFigure, Context.arrangement, FigureStore.edit_ids]
    rfl
  | swapImage figure asset =>
    simp only [effect, swapImage]
    split <;> rfl
  | draw drawing => exact (idles_drawing drawing).arrangement
  | playSound asset =>
    have played : (m.playSound asset).context = m.context := by
      unfold playSound
      split
      · rfl
      · split
        · rfl
        · split <;> rfl
    exact congrArg _ played
  | createFigure | removeFigure | requestStop | onStart | onFrame | onKey | onCollision =>
    cases idle
  | wait millis => exact (idles_timers ..).arrangement
  | random low high => exact (idles_dice _).arrangement
  | _ => rfl

end Stage
end Machine

namespace Aspect
variable {κ σ α S : Type} [Surface S] {aspect : Aspect κ σ α}

/-- A part of what scripts arrange: the journal tells what the arranging calls do to it, and nothing
else does anything to it but collisions and resets. -/
structure Arranged (aspect : Aspect κ σ α) (S : Type) [Surface S] : Prop where
  reads : ∀ {before after : Context κ}, after.arrangement = before.arrangement →
    aspect.read after = aspect.read before
  plain : ∀ state happening, happening.isPlain → aspect.step state happening state
  idle : ∀ (c : Call κ σ) (m : Machine κ σ S), c.arranges = false →
    aspect.step (aspect.read m.context) (.called c (m.effect c).1) (aspect.read m.context)
  arranges : ∀ (c : Call κ σ) (m : Machine κ σ S), c.arranges → aspect.step
    (aspect.read m.context) (.called c (m.effect c).1) (aspect.read (m.effect c).2.context)

theorem Arranged.call (arranged : aspect.Arranged S) (c : Call κ σ) (m : Machine κ σ S) :
    aspect.step (aspect.read m.context) (.called c (m.effect c).1)
      (aspect.read (m.effect c).2.context) := by
  cases kind : c.arranges with
  | true => exact arranged.arranges c m kind
  | false => exact arranged.reads (Machine.effect_arrangement kind m) ▸ arranged.idle c m kind

theorem Arranged.kept (arranged : aspect.Arranged S) :
    Machine.Kept (aspect.Follows (S := S)) where
  refl := .refl
  trans := .trans
  perform c m := by
    obtain ⟨remarks, journal, kinds⟩ := (Machine.leads_effect c m).journal
    have quiet : aspect.History (aspect.read m.context) remarks (aspect.read m.context) :=
      .silent fun happening member =>
        arranged.plain _ _ (Happening.isPlain_of_isRemark (kinds happening member))
    refine ⟨remarks ++ [.called c (m.effect c).1], ?_, ?_⟩
    · simp [Machine.perform, Machine.record, journal]
    · exact quiet.append (.cons (arranged.call c m) (.nil _))

/-- What a script does to the part, told by news among which there is nothing that no script writes
down. -/
theorem Arranged.told (arranged : aspect.Arranged S) {ρ β : Type} (script : Script κ σ ρ)
    (m : Machine κ σ S) {pick : Happening κ σ → Option β}
    (unpicked : ∀ {happening}, happening.isAside → pick happening = none) :
    ∃ news, (script.run m).2.journal = m.journal ++ news ∧ news.filterMap pick = [] ∧
      aspect.History (aspect.read m.context) news (aspect.read (script.run m).2.context) := by
  obtain ⟨news, journal, history⟩ := arranged.kept.run script m
  obtain ⟨told, same, asides⟩ := (Machine.kept_aside.run script m).journal
  obtain rfl : told = news := List.append_cancel_left (same.symm.trans journal)
  refine ⟨told, journal, ?_, history⟩
  exact List.filterMap_eq_nil_iff.mpr fun happening member => unpicked (asides happening member)

theorem Arranged.idles (arranged : aspect.Arranged S) {before after : Machine κ σ S}
    (idles : before.Idles after) : aspect.Follows before after := by
  obtain ⟨news, journal, plain⟩ := idles.journal
  refine ⟨news, journal, arranged.reads idles.arrangement ▸ .silent fun happening member => ?_⟩
  exact arranged.plain _ happening (plain happening member)

end Aspect
end SpriteStage
