import SpriteStage.Proofs.Engine.Steady
import SpriteStage.Proofs.Script.Pledges

namespace SpriteStage

theorem LoadRequest.verdict_settled {S : Type} [Surface S] (rules : LoadRules) (st : Loading S)
    (request : LoadRequest) : request.verdict rules st ≠ .pending := by
  unfold verdict
  split <;> simp

/-- No load leaves its value open. -/
theorem Loading.complete_settled {S : Type} [Surface S] (rules : LoadRules)
    (requests : List LoadRequest) (st : Loading S) :
    ∀ id ∈ requests.filterMap (·.kind.done?), id < st.board.slots.length →
      (complete rules requests st).board.state id ≠ .pending := by
  induction requests generalizing st with
  | nil => simp
  | cons request rest ih =>
    intro id member made
    have first := completeOne_completion rules request st
    have others := complete_board rules rest (completeOne rules st request)
    obtain ⟨other, there, swaps⟩ := List.mem_filterMap.mp member
    rcases List.mem_cons.mp there with rfl | there
    · have done : (completeOne rules st other).board.state id ≠ .pending := by
        by_cases isOpen : st.board.state id = .pending
        · rw [first.told id (LoadKind.swap_of_done swaps) (Board.slot_of_pending made isOpen)]
          exact LoadRequest.verdict_settled rules st other
        · exact first.board.kept id isOpen ▸ isOpen
      exact others.kept id done ▸ done
    · exact ih _ id (List.mem_filterMap.mpr ⟨other, there, swaps⟩) (first.board.made ▸ made)

theorem Timer.ring_settles (due : List Timer) (board : Board) :
    board.Settles (due.map (·.done))
      (due.foldl (fun board t => (board.fulfil t.done .unit).2) board) := by
  induction due generalizing board with
  | nil => exact .refl _ board
  | cons t rest ih =>
    exact Board.Settles.append (.settle board t.done (.fulfilled .unit)) (ih _)

theorem Timer.fire_settles (timers : List Timer) (board : Board) (now : Nat) :
    board.Settles ((timers.filter (·.isDue now)).map (·.done)) (fire timers board now).2 :=
  ring_settles _ board

theorem Prompt.commit_board (p : Prompt) (board : Board) : (p.commit board).2.2 =
    p.answer.elim board fun answer => (board.fulfil answer (.text p.buffer)).2 := by
  unfold commit
  cases p.answer <;> cases p.queue <;> rfl

theorem Prompt.commit_served (p : Prompt) (board : Board) :
    board.Settles (p.requests.map (·.answer)) (p.commit board).2.2 ∧
      (p.commit board).2.1.requests.map (·.answer) ⊆ p.requests.map (·.answer) := by
  constructor
  · rw [commit_board]
    cases shown : p.answer with
    | none => exact .refl _ board
    | some answer =>
      refine (Board.Settles.settle board answer _).mono ?_
      simp [requests, shown]
  · cases queue : p.queue with
    | nil => simp [commit, queue, requests]
    | cons next rest => simp [commit, queue, requests, activate]

theorem Prompt.handleKey_served (key : String) (p : Prompt) (board : Board) :
    board.Settles (p.requests.map (·.answer)) (p.handleKey key board).2.2 ∧
      (p.handleKey key board).2.1.requests.map (·.answer) ⊆ p.requests.map (·.answer) := by
  unfold handleKey
  split
  · exact ⟨.refl _ board, List.Subset.refl _⟩
  · split
    · exact p.commit_served board
    · exact ⟨.refl _ board, List.Subset.refl _⟩

namespace Machine
open Pledges
variable {κ σ S : Type}

theorem fireTimers_served (m : Machine κ σ S) [Surface S] :
    m.pledges.Served m.fireTimers.pledges where
  board := (Timer.fire_settles m.context.timers m.board m.context.now).mono (by
    intro id member
    have set := List.map_subset Timer.done (List.filter_subset_self _) member
    simp only [List.mem_append]
    exact .inl (.inr set))
  swaps := .inl rfl
  timers := List.map_subset _ (List.filter_subset_self _)
  answers := List.Subset.refl _

theorem promptKey_served (key : String) (m : Machine κ σ S) :
    m.pledges.Served (m.promptKey key).pledges := by
  obtain ⟨settles, fewer⟩ := m.context.prompt.handleKey_served key m.board
  exact ⟨settles.mono (List.subset_append_right _ _), .inl rfl, List.Subset.refl _, fewer⟩

variable [Surface S]

theorem completeLoads_settles (m : Machine κ σ S) :
    m.board.Settles m.pledges.swaps m.completeLoads.board := by
  cases here : m.surface with
  | none =>
    rw [completeLoads_none here]
    exact .refl _ m.board
  | some surface =>
    rw [completeLoads_some here]
    exact Loading.complete_board m.loadRules m.context.loads
      ⟨m.context.figures, m.board, surface, [], []⟩

theorem completeLoads_served (m : Machine κ σ S) : m.pledges.Served m.completeLoads.pledges := by
  have settles := m.completeLoads_settles
  cases here : m.surface with
  | none =>
    rw [completeLoads_none here]
    exact .refl m.pledges
  | some surface =>
    rw [completeLoads_some here] at settles ⊢
    have settled := Loading.complete_settled m.loadRules m.context.loads
      ⟨m.context.figures, m.board, surface, [], []⟩
    refine ⟨settles.mono ?_, .inr ⟨rfl, settled⟩, List.Subset.refl _, List.Subset.refl _⟩
    rw [List.append_assoc]
    exact List.subset_append_left _ _

theorem draws_pledges {before after : Machine κ σ S} (draws : before.Draws after) :
    after.pledges = before.pledges := by
  obtain ⟨board, prompt, context, same | ticked⟩ := draws.context
  · simp only [pledges, board, context, same]
  · obtain ⟨visible, timer, ended, retouched⟩ :=
      before.context.prompt.tickCaret_retouch before.context.settings.caretInterval
    simp only [pledges, board, context, ticked, retouched]
    rfl

end Machine

namespace Engine
open Machine Pledges
variable {κ σ S : Type} [Surface S] {p : Program κ σ} {e : Engine κ σ S}

theorem Touch.deals {call : HostCall κ σ S} {before after : Machine κ σ S}
    (touch : Touch call before after) : before.Deals after := by
  cases touch with
  | forgotten =>
    have forgets : before.pledges.Served (before.onContext (·.clearWorld)).pledges :=
      ⟨.refl _ _, .inl rfl, List.Subset.refl _, List.nil_subset _⟩
    exact ⟨[.notice .reset], rfl, .served forgets (.silent (by simp [Happening.pledges]))⟩
  | loaded =>
    obtain ⟨news, journal, plain⟩ := (idles_completeLoads before).journal
    exact ⟨news, journal, .served before.completeLoads_served (.silent fun happening member =>
      Happening.pledges_plain (plain happening member))⟩
  | fired => exact .of_served rfl before.fireTimers_served
  | drawn now draws =>
    obtain ⟨news, journal, plain⟩ := (idles_draws draws).journal
    refine ⟨news, journal, draws_pledges draws ▸ .silent fun happening member => ?_⟩
    exact Happening.pledges_plain (plain happening member)
  | typed key => exact .of_served rfl (before.promptKey_served key)
  | attached | placed | timed | hidden | heard | unguarded | untapped | pressed | released
  | moused => exact .of_same rfl rfl

theorem routine_deals (p : Program κ σ) : Routine p (Deals (κ := κ) (σ := σ) (S := S)) :=
  .of_kept ⟨.refl, .trans, deals_perform⟩
    (fun _ _ entry => deals_record (Happening.pledges_plain (Happening.isPlain_of_isEntry entry)))
    (fun _ _ _ => .of_same rfl rfl)
    (fun _ _ => ⟨[.collided _], rfl, .silent (by simp [Happening.pledges])⟩)
    fun _ _ _ => .of_same rfl rfl

theorem deals_after (p : Program κ σ) (calls : List (HostCall κ σ S)) (e : Engine κ σ S) :
    e.machine.Deals (e.after p calls).machine := by
  induction calls generalizing e with
  | nil => exact .refl e.machine
  | cons call rest ih =>
    have first : e.machine.Deals (e.step p call).2.machine :=
      (routine_deals p).step (fun _ _ touch => touch.deals) e
    exact first.trans (ih (e.step p call).2)

/-- In every run the pledges are as the journal tells. -/
theorem Reachable.pledges_sound (reached : Reachable p e) :
    Sound e.machine.journal e.machine.pledges := by
  induction reached with
  | new =>
    have none {happening : Happening κ σ} : happening ∉ ([] : List (Happening κ σ)) :=
      List.not_mem_nil
    exact ⟨fun _ member => absurd member List.not_mem_nil,
      fun _ member => absurd member List.not_mem_nil, List.nodup_nil,
      fun _ _ _ told => absurd told none, fun _ _ told => absurd told none⟩
  | @step e _ call ih =>
    obtain ⟨news, journal, history⟩ : e.machine.Deals (e.step p call).2.machine :=
      (routine_deals p).step (fun _ _ touch => touch.deals) e
    exact journal ▸ history.sound ih

end Engine
end SpriteStage
