import SpriteStage.Proofs.Engine.Pledges
import SpriteStage.Proofs.Engine.Startup

namespace SpriteStage.Engine
open Machine
variable {κ σ S : Type} [Surface S] {p : Program κ σ} {e : Engine κ σ S}

/-- A frame is done with all loads that were asked for before it. -/
structure LoadsDone (p : Program κ σ) (e : Engine κ σ S) (now : Nat) : Prop where
  completes : ∀ surface, e.machine.surface = some surface →
    let begun := (e.machine.setNow now).completeLoads
    let done := Loading.complete e.machine.loadRules e.context.loads
      ⟨e.context.figures, e.machine.board, surface, [], []⟩
    begun.context.loads = [] ∧ begun.context.figures = done.figures ∧ begun.board = done.board ∧
      begun.surface = some done.surface
  swapped : ∀ figure asset (done : DeferredId),
    .called (.swapImage figure asset) done ∈ e.machine.journal →
    done < (e.frame p now).2.machine.board.slots.length ∧
      (e.frame p now).2.machine.board.isPending done = false

/-- After the loads at its beginning, a frame settles no value anew. -/
theorem frame_goesOn (p : Program κ σ) (now : Nat) (e : Engine κ σ S) :
    (e.machine.setNow now).completeLoads.board.Extends (e.frame p now).2.machine.board := by
  have routine := routine_deals (S := S) p
  have touched (before after : Machine κ σ S) (touch : Touch (.frame now) before after) :
      before.Deals after := touch.deals
  have fired := touched _ _ (.fired now (e.machine.setNow now).completeLoads)
  have unguarded := touched _ _ (.unguarded rfl (e.machine.setNow now).completeLoads.fireTimers)
  obtain ⟨news, _, history⟩ :=
    (fired.trans unguarded).trans (routine.frame touched e)
  exact history.board

theorem Reachable.loads_done (reached : Reachable p e) (surface : e.machine.surface.isSome)
    (now : Nat) : e.LoadsDone p now := by
  obtain ⟨s, here⟩ := Option.isSome_iff_exists.mp surface
  have timed : (e.machine.setNow now).surface = some s := here
  constructor
  · intro t there
    obtain rfl : s = t := Option.some.inj (here.symm.trans there)
    rw [completeLoads_some timed]
    exact ⟨rfl, rfl, rfl, rfl⟩
  · intro figure asset done handed
    obtain ⟨made, waits⟩ := reached.pledges_sound.swapped figure asset done handed
    have goesOn := frame_goesOn p now e
    have serves := (e.machine.setNow now).completeLoads_served
    have settled : (e.machine.setNow now).completeLoads.board.state done ≠ .pending := by
      by_cases isOpen : e.machine.board.state done = .pending
      · rw [completeLoads_some timed]
        exact Loading.complete_settled _ _ _ done (waits isOpen) made
      · exact serves.board.kept done isOpen ▸ isOpen
    have final := goesOn.settled done settled
    refine ⟨?_, ?_⟩
    · exact Nat.lt_of_lt_of_le (serves.board.made ▸ made) goesOn.made
    · simp [Board.isPending, final, settled]

end SpriteStage.Engine
