import Mathlib.Data.List.Nodup
import SpriteStage.Proofs.Asset.Loading
import SpriteStage.Proofs.Prompt.Session
import SpriteStage.Proofs.Script.Effects
import SpriteStage.Proofs.Script.Idle

/-! Pledges: the deferred values that the engine is to settle, for image loads, timers and prompts.
What scripts are handed and what they settle themselves is in the journal; in between the engine
settles what it has pledged, and nothing else. -/

namespace SpriteStage
variable {κ σ S : Type}

/-- The values on a board, and those of them that the engine is to settle. -/
structure Pledges where
  board : Board
  swaps : List DeferredId
  timers : List DeferredId
  answers : List DeferredId

def Machine.pledges (m : Machine κ σ S) : Pledges where
  board := m.board
  swaps := m.context.loads.filterMap (·.kind.done?)
  timers := m.context.timers.map (·.done)
  answers := m.context.prompt.requests.map (·.answer)

def Happening.pledges : Happening κ σ → Bool
  | .called (.swapImage ..) _ | .called (.wait _) _ | .called (.ask _) _ => true
  | .called .defer _ | .called (.fulfil ..) _ | .called (.reject ..) _ => true
  | _ => false

def Happening.settles (id : DeferredId) : Happening κ σ → Bool
  | .called (.fulfil other _) done | .called (.reject other _) done => other = id && done
  | _ => false

theorem Happening.pledges_plain {happening : Happening κ σ} (plain : happening.isPlain) :
    happening.pledges = false := by
  cases happening with
  | called => cases plain
  | _ => rfl

namespace Pledges

def next (p : Pledges) : DeferredId := p.board.slots.length

def add (state : Settled) (p : Pledges) : Pledges := { p with board := (p.board.add state).2 }

inductive Step : Pledges → Happening κ σ → Pledges → Prop
  | swapped (p : Pledges) (figure : FigureId) (asset : String) :
      Step p (.called (.swapImage figure asset) p.next)
        { p.add .pending with swaps := p.swaps ++ [p.next] }
  | refused (p : Pledges) (figure : FigureId) (asset : String) {state : Settled}
      (settled : state ≠ .pending) :
      Step p (.called (.swapImage figure asset) p.next) (p.add state)
  | timed (p : Pledges) (millis : Nat) : Step p (.called (.wait millis) p.next)
      { p.add .pending with timers := p.timers ++ [p.next] }
  | asked (p : Pledges) (question : String) {answers : List DeferredId}
      (known : ∀ id ∈ answers, id ∈ p.answers ∨ id = p.next) :
      Step p (.called (.ask question) p.next) { p.add .pending with answers := answers }
  | deferred (p : Pledges) : Step p (.called .defer p.next) (p.add .pending)
  | fulfilled (p : Pledges) (id : DeferredId) (value : Value) :
      Step p (.called (.fulfil id value) (p.board.fulfil id value).1)
        { p with board := (p.board.fulfil id value).2 }
  | rejected (p : Pledges) (id : DeferredId) (error : RuntimeError) :
      Step p (.called (.reject id error) (p.board.reject id error).1)
        { p with board := (p.board.reject id error).2 }
  | other (p : Pledges) {happening : Happening κ σ} (silent : happening.pledges = false) :
      Step p happening p

/-- The engine settles some of what it has pledged, and may forget about the rest. -/
structure Served (before after : Pledges) : Prop where
  board : before.board.Settles (before.swaps ++ before.timers ++ before.answers) after.board
  swaps : after.swaps = before.swaps ∨ after.swaps = [] ∧
    ∀ id ∈ before.swaps, id < before.next → after.board.state id ≠ .pending
  timers : after.timers ⊆ before.timers
  answers : after.answers ⊆ before.answers

theorem Served.refl (p : Pledges) : p.Served p :=
  ⟨.refl _ _, .inl rfl, List.Subset.refl _, List.Subset.refl _⟩

/-- The pledges over happenings, between which the engine may serve some of them. -/
inductive History : Pledges → List (Happening κ σ) → Pledges → Prop
  | nil (p : Pledges) : History p [] p
  | told {before between after : Pledges} {happening : Happening κ σ}
      {news : List (Happening κ σ)} (step : Step before happening between)
      (rest : History between news after) : History before (happening :: news) after
  | served {before between after : Pledges} {news : List (Happening κ σ)}
      (serves : Served before between) (rest : History between news after) :
      History before news after

section History
variable {before between after p : Pledges} {news more : List (Happening κ σ)}

theorem History.append (first : History before news between)
    (second : History between more after) : History before (news ++ more) after := by
  induction first with
  | nil => exact second
  | told step rest ih => exact .told step (ih second)
  | served serves rest ih => exact .served serves (ih second)

theorem History.silent (silent : ∀ happening ∈ news, happening.pledges = false) :
    History p news p := by
  induction news with
  | nil => exact .nil p
  | cons happening news ih =>
    obtain ⟨first, others⟩ := List.forall_mem_cons.mp silent
    exact .told (.other p first) (ih others)

/-- A value that scripts have, and that no load and no prompt is to settle. -/
structure Free (id : DeferredId) (p : Pledges) : Prop where
  made : id < p.next
  swaps : id ∉ p.swaps
  answers : id ∉ p.answers

/-- A value that scripts have, and that the engine has not pledged to settle. -/
structure Unheld (id : DeferredId) (p : Pledges) : Prop where
  made : id < p.next
  swaps : id ∉ p.swaps
  timers : id ∉ p.timers
  answers : id ∉ p.answers

theorem Unheld.free {id : DeferredId} (unheld : p.Unheld id) : p.Free id :=
  ⟨unheld.made, unheld.swaps, unheld.answers⟩

section Free
variable {id : DeferredId} {happening : Happening κ σ}

theorem Free.add (free : p.Free id) (state : Settled) : (p.add state).Free id ∧
    (p.add state).board.state id = p.board.state id := by
  refine ⟨{ free with made := ?_ }, Board.add_state_old state free.made⟩
  exact Nat.lt_of_lt_of_le free.made (Board.Extends.add p.board state).made

theorem Free.fresh (free : p.Free id) {ids : List DeferredId} (old : id ∉ ids) :
    id ∉ ids ++ [p.next] := by
  simp [old, Nat.ne_of_lt free.made]

theorem Step.free (step : Step before happening after) (free : before.Free id) :
    after.Free id ∧
      (happening.settles id = false → after.board.state id = before.board.state id) := by
  have settled (other : DeferredId) (outcome : Settled) :
      Free id { before with board := (before.board.settle other outcome).2 } :=
    { free with made := by simpa [next] using free.made }
  have kept {other : DeferredId} {outcome : Settled}
      (missed : (decide (other = id) && (before.board.settle other outcome).1) = false) :
      (before.board.settle other outcome).2.state id = before.board.state id :=
    Board.settle_elsewhere (by simpa using missed)
  cases step with
  | swapped =>
    obtain ⟨still, same⟩ := free.add .pending
    exact ⟨{ still with swaps := free.fresh free.swaps }, fun _ => same⟩
  | refused =>
    obtain ⟨still, same⟩ := free.add _
    exact ⟨still, fun _ => same⟩
  | timed | deferred =>
    obtain ⟨still, same⟩ := free.add .pending
    exact ⟨{ still with }, fun _ => same⟩
  | asked question known =>
    obtain ⟨still, same⟩ := free.add .pending
    refine ⟨{ still with answers := fun member => ?_ }, fun _ => same⟩
    rcases known id member with old | new
    · exact free.answers old
    · exact Nat.ne_of_lt free.made new
  | fulfilled other value => exact ⟨settled other _, fun elsewhere => kept elsewhere⟩
  | rejected other error => exact ⟨settled other _, fun elsewhere => kept elsewhere⟩
  | other => exact ⟨free, fun _ => rfl⟩

structure Bounded (p : Pledges) : Prop where
  swaps : ∀ id ∈ p.swaps, id < p.next
  answers : ∀ id ∈ p.answers, id < p.next

theorem next_add (state : Settled) : p.next < (p.add state).next := by
  simp [next, Pledges.add]

theorem Bounded.add (bounded : p.Bounded) (state : Settled) : (p.add state).Bounded where
  swaps id member := Nat.lt_trans (bounded.swaps id member) (next_add state)
  answers id member := Nat.lt_trans (bounded.answers id member) (next_add state)

theorem Step.bounded (step : Step before happening after) (bounded : before.Bounded) :
    after.Bounded := by
  have settled (id : DeferredId) (outcome : Settled) :
      Bounded { before with board := (before.board.settle id outcome).2 } :=
    ⟨by simpa [next] using bounded.swaps, by simpa [next] using bounded.answers⟩
  cases step with
  | swapped =>
    refine { bounded.add .pending with swaps := fun id member => ?_ }
    rcases List.mem_append.mp member with old | new
    · exact (bounded.add .pending).swaps id old
    · exact List.mem_singleton.mp new ▸ next_add .pending
  | refused | deferred => exact bounded.add _
  | timed => exact { bounded.add .pending with }
  | asked question known =>
    refine { bounded.add .pending with answers := fun id member => ?_ }
    rcases known id member with old | rfl
    · exact (bounded.add .pending).answers id old
    · exact next_add .pending
  | fulfilled | rejected => exact settled _ _
  | other => exact bounded

end Free

section Unheld
variable {id : DeferredId} {happening : Happening κ σ}

theorem Served.unheld (serves : Served before after) (unheld : before.Unheld id) :
    after.Unheld id ∧ after.board.state id = before.board.state id := by
  have kept := serves.board.others id (by simp [unheld.swaps, unheld.timers, unheld.answers])
  refine ⟨⟨?_, ?_, ?_, ?_⟩, kept⟩
  · exact Nat.lt_of_lt_of_eq unheld.made serves.board.made.symm
  · rcases serves.swaps with same | ⟨none, _⟩
    · exact same ▸ unheld.swaps
    · exact none ▸ List.not_mem_nil
  · exact fun member => unheld.timers (serves.timers member)
  · exact fun member => unheld.answers (serves.answers member)

theorem Step.unheld (step : Step before happening after) (unheld : before.Unheld id) :
    after.Unheld id ∧
      (happening.settles id = false → after.board.state id = before.board.state id) := by
  obtain ⟨free, same⟩ := Step.free step unheld.free
  refine ⟨{ free with timers := ?_ }, same⟩
  cases step with
  | timed => exact unheld.free.fresh unheld.timers
  | _ => exact unheld.timers

/-- What the engine has not pledged to settle, scripts alone can settle. -/
theorem History.unheld (history : History before news after) (unheld : before.Unheld id) :
    after.Unheld id ∧ ((∀ happening ∈ news, happening.settles id = false) →
      after.board.state id = before.board.state id) := by
  induction history with
  | nil => exact ⟨unheld, fun _ => rfl⟩
  | told step rest ih =>
    obtain ⟨between, first⟩ := Step.unheld step unheld
    obtain ⟨last, second⟩ := ih between
    refine ⟨last, fun none => ?_⟩
    obtain ⟨silent, others⟩ := List.forall_mem_cons.mp none
    exact (second others).trans (first silent)
  | served serves rest ih =>
    obtain ⟨between, first⟩ := serves.unheld unheld
    obtain ⟨last, second⟩ := ih between
    exact ⟨last, fun none => (second none).trans first⟩

end Unheld

section Board

theorem Step.board {happening : Happening κ σ} (step : Step before happening after) :
    before.board.Extends after.board := by
  cases step with
  | swapped | refused | timed | asked | deferred => exact .add before.board _
  | fulfilled | rejected => exact .settle before.board _ _
  | other => exact .refl before.board

theorem History.board (history : History before news after) : before.board.Extends after.board := by
  induction history with
  | nil p => exact .refl p.board
  | told step rest ih => exact (Step.board step).trans ih
  | served serves rest ih => exact serves.board.goesOn.trans ih

end Board

/-- What has been pledged over a journal: every image swap that is not settled is in the queue, and
no answer is pledged by anything but the prompt. -/
structure Sound (journal : List (Happening κ σ)) (p : Pledges) : Prop where
  swaps : ∀ id ∈ p.swaps, id < p.next
  timers : ∀ id ∈ p.timers, id < p.next ∧ id ∉ p.swaps
  distinct : p.swaps.Nodup
  swapped : ∀ figure asset (id : DeferredId), .called (.swapImage figure asset) id ∈ journal →
    id < p.next ∧ (p.board.state id = .pending → id ∈ p.swaps)
  asked : ∀ question (id : DeferredId), .called (.ask question) id ∈ journal →
    id < p.next ∧ id ∉ p.swaps ∧ id ∉ p.timers

section Sound
variable {journal : List (Happening κ σ)} {happening : Happening κ σ}

theorem Sound.grown (sound : Sound journal before) (board : before.board.Extends after.board)
    {swaps timers : List DeferredId} (swapped : after.swaps = before.swaps ++ swaps)
    (timed : after.timers = before.timers ++ timers) (distinct : swaps.Nodup)
    (fresh : ∀ id, id ∈ swaps ∨ id ∈ timers → before.next ≤ id ∧ id < after.next)
    (apart : ∀ id ∈ timers, id ∉ swaps) : Sound journal after := by
  have grows : before.next ≤ after.next := board.made
  have notNew {id : DeferredId} (old : id < before.next) : id ∉ swaps ∧ id ∉ timers :=
    ⟨fun new => Nat.not_lt.mpr (fresh id (.inl new)).1 old,
      fun new => Nat.not_lt.mpr (fresh id (.inr new)).1 old⟩
  have old {id : DeferredId} (member : id ∈ before.swaps) : id < before.next :=
    sound.swaps id member
  constructor
  · intro id member
    rw [swapped, List.mem_append] at member
    rcases member with known | new
    · exact Nat.lt_of_lt_of_le (old known) grows
    · exact (fresh id (.inl new)).2
  · intro id member
    rw [timed, List.mem_append] at member
    rw [swapped, List.mem_append]
    rcases member with known | new
    · obtain ⟨made, unswapped⟩ := sound.timers id known
      exact ⟨Nat.lt_of_lt_of_le made grows, not_or.mpr ⟨unswapped, (notNew made).1⟩⟩
    · obtain ⟨late, made⟩ := fresh id (.inr new)
      exact ⟨made, not_or.mpr ⟨fun known => Nat.not_lt.mpr late (old known), apart id new⟩⟩
  · rw [swapped]
    refine List.nodup_append.mpr ⟨sound.distinct, distinct, fun id known other new => ?_⟩
    rintro rfl
    exact (notNew (old known)).1 new
  · intro figure asset id member
    obtain ⟨made, waits⟩ := sound.swapped figure asset id member
    refine ⟨Nat.lt_of_lt_of_le made grows, fun isOpen => ?_⟩
    have still : before.board.state id = .pending := by
      by_contra done
      exact done ((board.settled id done).symm.trans isOpen)
    rw [swapped]
    exact List.mem_append_left _ (waits still)
  · intro question id member
    obtain ⟨made, unswapped, untimed⟩ := sound.asked question id member
    rw [swapped, timed, List.mem_append, List.mem_append]
    exact ⟨Nat.lt_of_lt_of_le made grows, not_or.mpr ⟨unswapped, (notNew made).1⟩,
      not_or.mpr ⟨untimed, (notNew made).2⟩⟩

theorem Sound.told (sound : Sound journal p)
    (swapped : ∀ figure asset (id : DeferredId), happening = .called (.swapImage figure asset) id →
      id < p.next ∧ (p.board.state id = .pending → id ∈ p.swaps))
    (asked : ∀ question (id : DeferredId), happening = .called (.ask question) id →
      id < p.next ∧ id ∉ p.swaps ∧ id ∉ p.timers) : Sound (journal ++ [happening]) p where
  swaps := sound.swaps
  timers := sound.timers
  distinct := sound.distinct
  swapped figure asset id member := by
    rcases List.mem_append.mp member with old | new
    · exact sound.swapped figure asset id old
    · exact swapped figure asset id (List.mem_singleton.mp new).symm
  asked question id member := by
    rcases List.mem_append.mp member with old | new
    · exact sound.asked question id old
    · exact asked question id (List.mem_singleton.mp new).symm

theorem Step.sound (step : Step before happening after) (sound : Sound journal before) :
    Sound (journal ++ [happening]) after := by
  have unpledged (state : Settled) : Sound journal (before.add state) :=
    sound.grown (.add before.board state) (List.append_nil _).symm (List.append_nil _).symm .nil
      (by simp) (by simp)
  have settled (id : DeferredId) (outcome : Settled) :
      Sound journal { before with board := (before.board.settle id outcome).2 } :=
    sound.grown (.settle before.board id outcome) (List.append_nil _).symm
      (List.append_nil _).symm .nil (by simp) (by simp)
  cases step with
  | swapped figure asset =>
    have pledged : Sound journal
        { before.add .pending with swaps := before.swaps ++ [before.next] } :=
      sound.grown (.add before.board .pending) rfl (List.append_nil _).symm
        (List.nodup_singleton _) (by simp [next, Pledges.add]) (by simp)
    refine pledged.told ?_ (by rintro _ _ ⟨⟩)
    rintro _ _ _ ⟨⟩
    exact ⟨next_add .pending, fun _ => List.mem_append_right _ (List.mem_singleton_self _)⟩
  | @refused _ _ state done =>
    refine (unpledged state).told ?_ (by rintro _ _ ⟨⟩)
    rintro _ _ _ ⟨⟩
    exact ⟨next_add state, fun isOpen =>
      absurd ((Board.add_state_new _ state).symm.trans isOpen) done⟩
  | timed =>
    have pledged : Sound journal
        { before.add .pending with timers := before.timers ++ [before.next] } :=
      sound.grown (.add before.board .pending) (List.append_nil _).symm rfl .nil
        (by simp [next, Pledges.add]) (by simp)
    exact pledged.told (by rintro _ _ _ ⟨⟩) (by rintro _ _ ⟨⟩)
  | asked question =>
    have pledged := unpledged .pending
    refine Sound.told ⟨pledged.swaps, pledged.timers, pledged.distinct, pledged.swapped,
      pledged.asked⟩ (by rintro _ _ _ ⟨⟩) ?_
    rintro _ _ ⟨⟩
    refine ⟨next_add .pending, fun member => ?_, fun member => ?_⟩
    · exact Nat.lt_irrefl _ (sound.swaps _ member)
    · exact Nat.lt_irrefl _ (sound.timers _ member).1
  | deferred => exact (unpledged .pending).told (by rintro _ _ _ ⟨⟩) (by rintro _ _ ⟨⟩)
  | fulfilled id value => exact (settled id _).told (by rintro _ _ _ ⟨⟩) (by rintro _ _ ⟨⟩)
  | rejected id error => exact (settled id _).told (by rintro _ _ _ ⟨⟩) (by rintro _ _ ⟨⟩)
  | other silent =>
    refine sound.told ?_ ?_
    · rintro _ _ _ rfl
      cases silent
    · rintro _ _ rfl
      cases silent

theorem Served.sound (serves : Served before after) (sound : Sound journal before) :
    Sound journal after := by
  have made : after.next = before.next := serves.board.made
  have fewer : ∀ id ∈ after.swaps, id ∈ before.swaps := by
    rcases serves.swaps with same | ⟨none, _⟩
    · exact fun id member => same ▸ member
    · exact fun id member => absurd (none ▸ member) List.not_mem_nil
  constructor
  · exact fun id member => made ▸ sound.swaps id (fewer id member)
  · intro id member
    obtain ⟨old, unswapped⟩ := sound.timers id (serves.timers member)
    exact ⟨made ▸ old, fun swapped => unswapped (fewer id swapped)⟩
  · rcases serves.swaps with same | ⟨none, _⟩
    · exact same ▸ sound.distinct
    · exact none ▸ List.nodup_nil
  · intro figure asset id member
    obtain ⟨old, waits⟩ := sound.swapped figure asset id member
    refine ⟨made ▸ old, fun isOpen => ?_⟩
    have still : before.board.state id = .pending := by
      by_contra done
      exact done ((serves.board.kept id done).symm.trans isOpen)
    rcases serves.swaps with same | ⟨_, done⟩
    · exact same ▸ waits still
    · exact absurd isOpen (done id (waits still) old)
  · intro question id member
    obtain ⟨old, unswapped, untimed⟩ := sound.asked question id member
    exact ⟨made ▸ old, fun swapped => unswapped (fewer id swapped),
      fun timed => untimed (serves.timers timed)⟩

theorem History.sound (history : History before news after) (sound : Sound journal before) :
    Sound (journal ++ news) after := by
  induction history generalizing journal with
  | nil => rwa [List.append_nil]
  | @told _ _ _ happening news step rest ih =>
    rw [← List.singleton_append, ← List.append_assoc]
    exact ih (Step.sound step sound)
  | served serves rest ih => exact ih (serves.sound sound)

end Sound

end History
end Pledges

theorem Prompt.accept_answers (request : PromptRequest) (p : Prompt) (id : DeferredId)
    (member : id ∈ (p.accept request).requests.map (·.answer)) :
    id ∈ p.requests.map (·.answer) ∨ id = request.answer := by
  unfold accept at member
  split at member
  · simpa [requests, or_assoc] using member
  · have known : id = request.answer ∨ id ∈ p.queue.map (·.answer) := by
      simpa [requests, activate] using member
    rcases known with new | old
    · exact .inr new
    · exact .inl (by simpa [requests] using .inr (by simpa using old))

namespace Machine
open Pledges

section Deals
variable {before middle after m : Machine κ σ S}

/-- One machine comes after another, and the journal tells what scripts did to the pledges. -/
def Deals (before after : Machine κ σ S) : Prop :=
  ∃ news, after.journal = before.journal ++ news ∧
    History before.pledges news after.pledges

theorem Deals.refl (m : Machine κ σ S) : m.Deals m := ⟨[], by simp, .nil _⟩

theorem Deals.trans (first : before.Deals middle) (second : middle.Deals after) :
    before.Deals after := by
  obtain ⟨news, journal, early⟩ := first
  obtain ⟨more, moreJournal, late⟩ := second
  exact ⟨news ++ more, by simp [journal, moreJournal], early.append late⟩

theorem Deals.of_same (journal : after.journal = before.journal)
    (same : after.pledges = before.pledges) : before.Deals after :=
  ⟨[], by simp [journal], same ▸ .nil _⟩

theorem Deals.of_served (journal : after.journal = before.journal)
    (serves : before.pledges.Served after.pledges) : before.Deals after :=
  ⟨[], by simp [journal], .served serves (.nil _)⟩

theorem deals_record {happening : Happening κ σ} (silent : happening.pledges = false) :
    m.Deals (m.record happening) :=
  ⟨[happening], rfl, .silent (List.forall_mem_singleton.mpr silent)⟩

end Deals

theorem swaps_push (loads : List LoadRequest) (request : LoadRequest) :
    (loads ++ [request]).filterMap (·.kind.done?) =
      loads.filterMap (·.kind.done?) ++ request.kind.done?.toList := by
  obtain ⟨figure, asset, kind⟩ := request
  rw [List.filterMap_append]
  cases kind with
  | create => rfl
  | swap done => rfl

theorem swapImage_step (figure : FigureId) (asset : String) (m : Machine κ σ S) :
    Step m.pledges (.called (.swapImage figure asset) (m.swapImage figure asset).1 : Happening κ σ)
      (m.swapImage figure asset).2.pledges := by
  unfold swapImage
  split
  · have swaps : _ = m.pledges.swaps ++ [m.pledges.next] :=
      swaps_push m.context.loads ⟨figure, asset, .swap m.board.slots.length⟩
    have made := Step.swapped (κ := κ) (σ := σ) m.pledges figure asset
    rw [← swaps] at made
    exact made
  · exact .refused m.pledges figure asset (by simp)

variable [Surface S]

theorem outward_pledges {c : Call κ σ} (outward : c.isOutward) (m : Machine κ σ S) :
    (m.effect c).2.pledges = m.pledges := by
  obtain ⟨context, board⟩ := effect_outward outward m
  simp only [pledges, context, board]

theorem effect_step (c : Call κ σ) (m : Machine κ σ S) :
    Step m.pledges (.called c (m.effect c).1) (m.effect c).2.pledges := by
  cases c with
  | swapImage figure asset => exact m.swapImage_step figure asset
  | ask question =>
    exact .asked m.pledges question fun id member => Prompt.accept_answers _ _ id member
  | wait millis =>
    obtain ⟨deadline, number, same⟩ := wait_frame millis m
    have timers : (m.context.timers ++ [Timer.mk deadline m.board.slots.length]).map (·.done) =
        m.pledges.timers ++ [m.pledges.next] := List.map_append
    have made := Step.timed (κ := κ) (σ := σ) m.pledges millis
    rw [← timers] at made
    simp only [effect, same, number]
    exact made
  | defer => exact .deferred m.pledges
  | fulfil value result => exact .fulfilled m.pledges value result
  | reject value error => exact .rejected m.pledges value error
  | createFigure asset =>
    have swaps := swaps_push m.context.loads ⟨(m.context.createFigure asset).1, asset, .create⟩
    have same : (m.effect (.createFigure asset)).2.pledges = m.pledges :=
      congrArg (Pledges.mk _ · _ _) (swaps.trans (List.append_nil _))
    exact same ▸ .other m.pledges rfl
  | removeFigure figure =>
    have same : (m.effect (.removeFigure figure)).2.pledges = m.pledges := by
      simp only [effect, withContext, Context.removeFigure]
      split <;> rfl
    exact same ▸ .other m.pledges rfl
  | draw _ | playSound _ | random _ _ =>
    rw [outward_pledges rfl m]
    exact .other m.pledges rfl
  | _ => exact .other m.pledges rfl

theorem deals_perform (c : Call κ σ) (m : Machine κ σ S) : m.Deals (m.perform c).2 := by
  obtain ⟨remarks, journal, kinds⟩ := (leads_effect c m).journal
  have quiet : History m.pledges remarks m.pledges := .silent fun happening member =>
    Happening.pledges_plain (Happening.isPlain_of_isRemark (kinds happening member))
  refine ⟨remarks ++ [.called c (m.effect c).1], ?_, ?_⟩
  · simp [perform, record, journal]
  · exact quiet.append (.told (effect_step c m) (.nil _))

end Machine
end SpriteStage
