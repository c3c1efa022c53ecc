import SpriteStage.Proofs.Engine.Loads
import SpriteStage.Proofs.Engine.Removal

namespace SpriteStage
variable {κ σ S : Type}

namespace Machine
variable [Surface S]

/-- Scripts put loads at the end of the queue, for figures that are on the stage. -/
theorem effect_loads (c : Call κ σ) (m : Machine κ σ S) : ∃ new,
    (m.effect c).2.context.loads = m.context.loads ++ new ∧
      ∀ request ∈ new, request.figure ∈ (m.effect c).2.context.figures.ids := by
  have still {m' : Machine κ σ S} (same : m'.context.loads = m.context.loads) : ∃ new,
      m'.context.loads = m.context.loads ++ new ∧
        ∀ request ∈ new, request.figure ∈ m'.context.figures.ids := ⟨[], by simp [same], by simp⟩
  cases c with
  | createFigure asset =>
    refine ⟨[⟨(m.context.createFigure asset).1, asset, .create⟩], rfl, ?_⟩
    refine List.forall_mem_singleton.mpr ?_
    change max m.context.figures.nextId 1 ∈ (m.context.figures.create _ _).2.ids
    rw [FigureStore.create_ids]
    exact List.mem_append_right _ (List.mem_singleton_self _)
  | swapImage figure asset =>
    simp only [effect, swapImage]
    split
    · rename_i there
      refine ⟨[⟨figure, asset, .swap m.board.slots.length⟩], rfl, ?_⟩
      exact List.forall_mem_singleton.mpr ((FigureStore.contains_iff _ _).mp there)
    · exact still rfl
  | removeFigure figure =>
    refine still ?_
    simp only [effect, withContext, Context.removeFigure]
    split <;> rfl
  | draw _ | playSound _ | random _ _ =>
    exact still (by rw [(effect_outward rfl m).1])
  | wait millis =>
    obtain ⟨deadline, _, same⟩ := wait_frame millis m
    exact still (by simp only [effect, same])
  | _ => exact still rfl

theorem effect_surface (c : Call κ σ) {m : Machine κ σ S} (faceless : m.surface = none) :
    (m.effect c).2.surface = none := by
  cases draws : c.drawing? with
  | none => exact ((effect_spares c m).surface draws).trans faceless
  | some drawing =>
    obtain rfl := Call.draw_of_drawing draws
    have undrawn (call : DrawCall) (action : Draw S Unit) : m.drawWith call action = m := by
      rw [drawWith, faceless]
    cases drawing <;> simpa only [effect, drawing, undrawn] using faceless

theorem Draws.surface {before after : Machine κ σ S} (draws : before.Draws after)
    (faceless : before.surface = none) : after.surface = none := by
  cases draws with
  | cleared => rwa [clearStage, drawWith, faceless]
  | figures => rwa [drawFigures, faceless]
  | overlay => rwa [drawOverlay, faceless]
  | presented => rw [presentStage, faceless]; rfl

def Waits (before after : Machine κ σ S) : Prop :=
  before.surface = none → after.surface = none ∧ before.context.loads <+: after.context.loads

/-- Every load in the queue is for a figure that is, or was, on the stage. -/
structure Enrolled (m : Machine κ σ S) : Prop where
  sound : m.context.cast.Sound
  loads : ∀ request ∈ m.context.loads, request.figure < m.context.cast.next

section Enrolled
variable {before after : Machine κ σ S}

omit [Surface S] in
theorem Enrolled.of_same (enrolled : before.Enrolled) (cast : after.context.cast = before.context.cast)
    (loads : after.context.loads ⊆ before.context.loads) : after.Enrolled where
  sound := cast ▸ enrolled.sound
  loads request member := cast ▸ enrolled.loads request (loads member)

theorem Enrolled.effect (enrolled : before.Enrolled) (c : Call κ σ) :
    (before.effect c).2.Enrolled := by
  have step := Aspect.cast_arranged.call c before
  have sound := Cast.Step.sound step enrolled.sound
  have counts : before.context.cast.next ≤ (before.effect c).2.context.cast.next := by
    rcases Cast.Step.created step with ⟨_, same⟩ | ⟨_, next⟩
    · exact Nat.le_of_eq same.symm
    · exact Nat.le_trans (Nat.le_succ _) (Nat.le_of_eq next.symm)
  obtain ⟨new, grown, present⟩ := effect_loads c before
  refine ⟨sound, fun request member => ?_⟩
  rw [grown, List.mem_append] at member
  rcases member with old | fresh
  · exact Nat.lt_of_lt_of_le (enrolled.loads request old) counts
  · exact sound.below _ (present request fresh)

end Enrolled

end Machine

namespace Engine
open Machine
variable [Surface S] {p : Program κ σ} {e : Engine κ σ S}

/-- By its own hand the engine takes loads out of the queue at the beginning of a frame alone. -/
theorem Touch.loads {call : HostCall κ σ S} {before after : Machine κ σ S}
    (touch : Touch call before after) : after.context.loads = before.context.loads ∨
      ∃ now, call = .frame now ∧ after = before.completeLoads := by
  cases touch with
  | loaded now => exact .inr ⟨now, rfl, rfl⟩
  | drawn now draws =>
    obtain ⟨_, prompt, same, _⟩ := draws.context
    exact .inl (by rw [same])
  | attached | placed | timed | hidden | heard | forgotten | fired | unguarded | untapped | pressed
  | typed | released | moused => exact .inl rfl

theorem Touch.loads_faceless {call : HostCall κ σ S} {before after : Machine κ σ S}
    (touch : Touch call before after) (faceless : before.surface = none) :
    after.context.loads = before.context.loads := by
  rcases touch.loads with same | ⟨_, _, rfl⟩
  · exact same
  · rw [completeLoads_none faceless]

theorem routine_queues (p : Program κ σ) :
    Routine p fun before after : Machine κ σ S => before.context.loads <+: after.context.loads := by
  refine .of_kept ⟨fun _ => List.prefix_rfl, .trans, fun c m => ?_⟩
    (fun _ _ _ => List.prefix_rfl) (fun _ _ _ => List.prefix_rfl) (fun _ _ => List.prefix_rfl)
    (fun _ _ _ => List.prefix_rfl)
  obtain ⟨new, grown, _⟩ := effect_loads c m
  exact ⟨new, grown.symm⟩

theorem routine_waits (p : Program κ σ) : Routine p (Waits (κ := κ) (σ := σ) (S := S)) := by
  have still {before after : Machine κ σ S} (surface : after.surface = before.surface)
      (loads : after.context.loads = before.context.loads) : before.Waits after :=
    fun faceless => ⟨surface.trans faceless, loads ▸ List.prefix_rfl⟩
  refine .of_kept ⟨fun _ => still rfl rfl, fun first second faceless => ?_,
    fun c m faceless => ⟨effect_surface c faceless, (routine_queues p).perform c m⟩⟩
    (fun _ _ _ => still rfl rfl) (fun _ _ _ => still rfl rfl) (fun _ _ => still rfl rfl)
    fun _ _ _ => still rfl rfl
  obtain ⟨between, early⟩ := first faceless
  obtain ⟨last, late⟩ := second between
  exact ⟨last, early.trans late⟩

theorem frame_waits (p : Program κ σ) (now : Nat) (faceless : e.machine.surface = none) :
    e.context.loads <+: (e.frame p now).2.context.loads := by
  have touched (before after : Machine κ σ S) (touch : Touch (.frame now) before after) :
      before.Waits after := by
    intro faceless
    refine ⟨?_, ?_⟩
    · cases touch with
      | loaded => rwa [completeLoads_none faceless]
      | drawn now draws => exact draws.surface faceless
      | _ => exact faceless
    · exact touch.loads_faceless faceless ▸ List.prefix_rfl
  have waits : e.machine.Waits (e.step p (.frame now)).2.machine :=
    (routine_waits p).step touched e
  exact (waits faceless).2

theorem step_queues (p : Program κ σ) (call : HostCall κ σ S)
    (waits : ∀ now, call = .frame now → e.machine.surface = none) :
    e.context.loads <+: (e.step p call).2.context.loads := by
  by_cases frame : ∃ now, call = .frame now
  · obtain ⟨now, rfl⟩ := frame
    exact frame_waits p now (waits now rfl)
  · refine (routine_queues p).step (fun before after touch => ?_) e
    rcases touch.loads with same | ⟨now, rfl, _⟩
    · exact same ▸ List.prefix_rfl
    · exact absurd ⟨now, rfl⟩ frame

/-- Whenever the calls give a frame, there is no surface. -/
def Unserved (p : Program κ σ) (e : Engine κ σ S) (calls : List (HostCall κ σ S)) : Prop :=
  ∀ before now after, calls = before ++ .frame now :: after →
    (e.after p before).machine.surface = none

/-- Loads stay in front of the queue until a frame with a surface. -/
theorem loads_wait (p : Program κ σ) (calls : List (HostCall κ σ S)) {e : Engine κ σ S}
    (unserved : e.Unserved p calls) : e.context.loads <+: (e.after p calls).context.loads := by
  induction calls generalizing e with
  | nil => exact List.prefix_rfl
  | cons call rest ih =>
    have first : e.context.loads <+: (e.step p call).2.context.loads :=
      step_queues p call fun now same => unserved [] now rest (by rw [same, List.nil_append])
    have later : (e.step p call).2.Unserved p rest := fun before now after same =>
      unserved (call :: before) now after (by rw [same, List.cons_append])
    exact first.trans (ih later)

theorem routine_enrolled (p : Program κ σ) :
    Routine p fun before after : Machine κ σ S => before.Enrolled → after.Enrolled := by
  refine .of_kept ⟨fun _ => id, fun first second enrolled => second (first enrolled),
    fun c m enrolled => ?_⟩ (fun m _ _ enrolled => enrolled.of_same rfl (List.Subset.refl _))
    (fun m _ _ enrolled => enrolled.of_same rfl (List.Subset.refl _))
    (fun m id enrolled => enrolled.of_same (setHandler_cast m id none) (List.Subset.refl _))
    fun m id handler enrolled =>
      enrolled.of_same (setHandler_cast m id (some handler)) (List.Subset.refl _)
  exact (enrolled.effect c).of_same rfl (List.Subset.refl _)

theorem Touch.enrolled {call : HostCall κ σ S} {before after : Machine κ σ S}
    (touch : Touch call before after) (enrolled : before.Enrolled) : after.Enrolled := by
  have loads : after.context.loads ⊆ before.context.loads := by
    cases here : before.surface with
    | none => exact touch.loads_faceless here ▸ List.Subset.refl _
    | some surface =>
      rcases touch.loads with same | ⟨_, _, rfl⟩
      · exact same ▸ List.Subset.refl _
      · rw [completeLoads_some here]
        exact List.nil_subset _
  rcases touch.idles with idles | rfl | ⟨-, rfl⟩
  · have cast : after.context.cast = before.context.cast :=
      (Aspect.cast_arranged (σ := σ) (S := S)).reads idles.arrangement
    exact enrolled.of_same cast loads
  · exact enrolled.of_same rfl loads
  · exact ⟨⟨List.nodup_nil, fun _ present => absurd present List.not_mem_nil⟩,
      enrolled.loads⟩

theorem Reachable.enrolled (reached : Reachable p e) : e.machine.Enrolled := by
  induction reached with
  | new => exact ⟨Cast.sound_start, fun _ member => absurd member List.not_mem_nil⟩
  | @step e _ call ih =>
    have kept : e.machine.Enrolled → (e.step p call).2.machine.Enrolled :=
      (routine_enrolled p).step (fun _ _ touch => touch.enrolled) e
    exact kept ih

end Engine
end SpriteStage
