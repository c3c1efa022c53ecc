import SpriteStage.Proofs.Script.Pledges

namespace SpriteStage
variable {κ σ S : Type}

def Happening.isCall : Happening κ σ → Bool
  | .called .. => true
  | _ => false

def Happening.timer? (now : Nat) : Happening κ σ → Option Timer
  | .called (.wait millis) done => some ⟨now + nanosOfMillis millis, done⟩
  | _ => none

def Journal.timers (now : Nat) (news : List (Happening κ σ)) : List Timer :=
  news.filterMap (·.timer? now)

theorem Happening.timer?_none {happening : Happening κ σ} (silent : happening.pledges = false)
    (now : Nat) : happening.timer? now = none := by
  cases happening with
  | called c reply =>
    cases c with
    | wait => cases silent
    | _ => rfl
  | _ => rfl

theorem Timer.filter_done {timers : List Timer} (once : (timers.map (·.done)).Nodup)
    {timer : Timer} (member : timer ∈ timers) :
    timers.filter (·.done = timer.done) = [timer] := by
  induction timers with
  | nil => cases member
  | cons first rest ih =>
    obtain ⟨apart, distinct⟩ := List.nodup_cons.mp once
    rcases List.mem_cons.mp member with rfl | later
    · have others : rest.filter (·.done = timer.done) = [] := by
        apply List.filter_eq_nil_iff.mpr
        intro other there same
        exact apart (List.mem_map.mpr ⟨other, there, of_decide_eq_true same⟩)
      rw [List.filter_cons_of_pos (by simp), others]
    · have different : first.done ≠ timer.done := fun same =>
        apart (List.mem_map.mpr ⟨timer, later, same.symm⟩)
      rw [List.filter_cons_of_neg (by simpa using different)]
      exact ih distinct later

structure Timing where
  now : Nat
  timers : List Timer
  pledges : Pledges

def Machine.timing (m : Machine κ σ S) : Timing := ⟨m.context.now, m.context.timers, m.pledges⟩

namespace Timing

abbrev state (t : Timing) (id : DeferredId) : Settled := t.pledges.board.state id

/-- A script that looks at the clock or at a value sees it as it is. -/
def Shows (t : Timing) : Happening κ σ → Prop
  | .called .view context => context.now = t.now
  | .called (.peek id) seen => seen = t.state id
  | _ => True

structure Step (before : Timing) (happening : Happening κ σ) (after : Timing) : Prop where
  now : after.now = before.now
  timers : after.timers = before.timers ++ (happening.timer? before.now).toList
  pledges : before.pledges.Step happening after.pledges
  shows : before.Shows happening

/-- The engine settles what it owes to loads and prompts. -/
structure Spared (before after : Timing) : Prop where
  now : after.now = before.now
  timers : after.timers = before.timers
  board : before.pledges.board.Settles (before.pledges.swaps ++ before.pledges.answers)
    after.pledges.board
  swaps : after.pledges.swaps ⊆ before.pledges.swaps
  answers : after.pledges.answers ⊆ before.pledges.answers

/-- What becomes of timers over happenings while none fires. -/
inductive History : Timing → List (Happening κ σ) → Timing → Prop
  | nil (t : Timing) : History t [] t
  | told {before between after : Timing} {happening : Happening κ σ}
      {news : List (Happening κ σ)} (step : Step before happening between)
      (rest : History between news after) : History before (happening :: news) after
  | spared {before between after : Timing} {news : List (Happening κ σ)}
      (spares : Spared before between) (rest : History between news after) :
      History before news after

/-- What is to be settled is on the board, and each timer has a value for itself. -/
structure Sound (t : Timing) : Prop where
  free : ∀ timer ∈ t.timers, t.pledges.Free timer.done
  bounded : t.pledges.Bounded
  once : (t.timers.map (·.done)).Nodup

section Step
variable {before after t : Timing} {happening : Happening κ σ} {id : DeferredId}

theorem Step.rest (t : Timing) (silent : happening.isCall = false) : t.Step happening t := by
  cases happening with
  | called c reply => cases silent
  | _ => exact ⟨rfl, (List.append_nil _).symm, .other _ rfl, trivial⟩

theorem Step.plain (t : Timing) (plain : happening.isPlain) : t.Step happening t := by
  apply Step.rest
  cases happening with
  | called => cases plain
  | _ => rfl

theorem Step.sets (step : before.Step happening after) (bounded : before.pledges.Bounded)
    {timer : Timer} (set : happening.timer? before.now = some timer) :
    timer.done = before.pledges.next ∧
      after.pledges.Free timer.done ∧ after.state timer.done = .pending := by
  obtain ⟨_, _, pledges, _⟩ := step
  obtain ⟨now, timers, pledged⟩ := after
  cases pledges with
  | timed millis =>
    have same : before.pledges.next = timer.done := congrArg Timer.done (Option.some.inj set)
    refine ⟨same.symm, ?_, ?_⟩
    · rw [← same]
      exact ⟨Pledges.next_add .pending, fun member => Nat.lt_irrefl _ (bounded.swaps _ member),
        fun member => Nat.lt_irrefl _ (bounded.answers _ member)⟩
    · rw [← same]
      exact Board.add_state_new before.pledges.board .pending
  | other silent =>
    rw [Happening.timer?_none silent] at set
    cases set
  | _ => cases set

theorem Step.sound (step : before.Step happening after) (sound : before.Sound) : after.Sound where
  free timer member := by
    rw [step.timers] at member
    rcases List.mem_append.mp member with old | new
    · exact (Pledges.Step.free step.pledges (sound.free timer old)).1
    · exact (step.sets sound.bounded (Option.mem_toList.mp new)).2.1
  bounded := Pledges.Step.bounded step.pledges sound.bounded
  once := by
    rw [step.timers]
    cases set : happening.timer? before.now with
    | none => simpa using sound.once
    | some timer =>
      obtain ⟨fresh, _⟩ := step.sets sound.bounded set
      rw [Option.toList_some, List.map_append]
      refine List.nodup_append.mpr ⟨sound.once, List.nodup_singleton timer.done, ?_⟩
      intro id old other new same
      obtain ⟨early, there, rfl⟩ := List.mem_map.mp old
      have late : early.done = before.pledges.next :=
        same.trans ((List.mem_singleton.mp new).trans fresh)
      exact Nat.lt_irrefl _ (late ▸ (sound.free early there).made)

theorem Spared.free (spares : before.Spared after) (free : before.pledges.Free id) :
    after.pledges.Free id ∧ after.state id = before.state id := by
  refine ⟨⟨?_, ?_, ?_⟩, ?_⟩
  · exact Nat.lt_of_lt_of_eq free.made spares.board.made.symm
  · exact fun member => free.swaps (spares.swaps member)
  · exact fun member => free.answers (spares.answers member)
  · exact spares.board.others id (by simp [free.swaps, free.answers])

theorem Spared.sound (spares : before.Spared after) (sound : before.Sound) : after.Sound where
  free timer member := (spares.free (sound.free timer (spares.timers ▸ member))).1
  bounded :=
    { swaps := fun id member =>
        Nat.lt_of_lt_of_eq (sound.bounded.swaps id (spares.swaps member)) spares.board.made.symm
      answers := fun id member =>
        Nat.lt_of_lt_of_eq (sound.bounded.answers id (spares.answers member))
          spares.board.made.symm }
  once := by
    rw [spares.timers]
    exact sound.once

end Step

namespace History
variable {before between after t : Timing} {news more : List (Happening κ σ)} {id : DeferredId}

theorem append (first : History before news between) (second : History between more after) :
    History before (news ++ more) after := by
  induction first with
  | nil => exact second
  | told step rest ih => exact .told step (ih second)
  | spared spares rest ih => exact .spared spares (ih second)

theorem silent (silent : ∀ happening ∈ news, t.Step happening t) : History t news t := by
  induction news with
  | nil => exact .nil t
  | cons happening news ih =>
    obtain ⟨first, others⟩ := List.forall_mem_cons.mp silent
    exact .told first (ih others)

theorem now (history : History before news after) : after.now = before.now := by
  induction history with
  | nil => rfl
  | told step rest ih => exact ih.trans step.now
  | spared spares rest ih => exact ih.trans spares.now

theorem timers (history : History before news after) :
    after.timers = before.timers ++ Journal.timers before.now news := by
  induction history with
  | nil => exact (List.append_nil _).symm
  | @told before _ _ happening news step rest ih =>
    have one : Journal.timers before.now (happening :: news) =
        (happening.timer? before.now).toList ++ Journal.timers before.now news := by
      cases set : happening.timer? before.now <;> simp [Journal.timers, set]
    rw [ih, step.timers, step.now, one, List.append_assoc]
  | spared spares rest ih => rw [ih, spares.timers, spares.now]

theorem board (history : History before news after) :
    before.pledges.board.Extends after.pledges.board := by
  induction history with
  | nil t => exact .refl t.pledges.board
  | told step rest ih => exact (Pledges.Step.board step.pledges).trans ih
  | spared spares rest ih => exact spares.board.goesOn.trans ih

theorem sound (history : History before news after) (sound : before.Sound) : after.Sound := by
  induction history with
  | nil => exact sound
  | told step rest ih => exact ih (step.sound sound)
  | spared spares rest ih => exact ih (spares.sound sound)

/-- What no load and no prompt is to settle, scripts alone settle while no timer fires. -/
theorem free (history : History before news after) (free : before.pledges.Free id) :
    after.pledges.Free id ∧ ((∀ happening ∈ news, happening.settles id = false) →
      after.state id = before.state id) := by
  induction history with
  | nil => exact ⟨free, fun _ => rfl⟩
  | told step rest ih =>
    obtain ⟨between, first⟩ := Pledges.Step.free step.pledges free
    obtain ⟨last, second⟩ := ih between
    refine ⟨last, fun unsettled => ?_⟩
    obtain ⟨head, others⟩ := List.forall_mem_cons.mp unsettled
    exact (second others).trans (first head)
  | spared spares rest ih =>
    obtain ⟨between, first⟩ := spares.free free
    obtain ⟨last, second⟩ := ih between
    exact ⟨last, fun unsettled => (second unsettled).trans first⟩

theorem viewed (history : History before news after) {context : Context κ}
    (viewed : .called .view context ∈ news) : context.now = before.now := by
  induction history with
  | nil => cases viewed
  | told step rest ih =>
    rcases List.mem_cons.mp viewed with rfl | later
    · exact step.shows
    · exact (ih later).trans step.now
  | spared spares rest ih => exact (ih viewed).trans spares.now

/-- Whoever looks at a value sees it settled as it was before, and pending if it is so after. -/
theorem peeked (history : History before news after) {seen : Settled}
    (peeked : .called (.peek id) seen ∈ news) :
    (before.state id ≠ .pending → seen = before.state id) ∧
      (after.state id = .pending → seen = .pending) := by
  induction history with
  | nil => cases peeked
  | @told before between after happening news step rest ih =>
    have grows := Pledges.Step.board step.pledges
    rcases List.mem_cons.mp peeked with rfl | later
    · have same : seen = before.state id := step.shows
      refine ⟨fun _ => same, fun isOpen => ?_⟩
      by_contra done
      have settled : before.state id ≠ .pending := fun still => done (same.trans still)
      have whole := (grows.trans rest.board).settled id settled
      exact settled (whole.symm.trans isOpen)
    · obtain ⟨settled, isOpen⟩ := ih later
      refine ⟨fun done => ?_, isOpen⟩
      have kept : between.state id = before.state id := grows.settled id done
      exact (settled (kept.symm ▸ done)).trans kept
  | @spared before between after news spares rest ih =>
    obtain ⟨settled, isOpen⟩ := ih peeked
    refine ⟨fun done => ?_, isOpen⟩
    have kept : between.state id = before.state id := spares.board.kept id done
    exact (settled (kept.symm ▸ done)).trans kept

theorem sets (history : History before news after) (sound : before.Sound) {timer : Timer}
    (set : timer ∈ Journal.timers before.now news) : before.pledges.next ≤ timer.done ∧
      after.pledges.Free timer.done ∧
      ((∀ happening ∈ news, happening.settles timer.done = false) →
        after.state timer.done = .pending) := by
  induction history with
  | nil => cases set
  | @told before between after happening news step rest ih =>
    have grows : before.pledges.next ≤ between.pledges.next :=
      (Pledges.Step.board step.pledges).made
    obtain ⟨other, member, told⟩ := List.mem_filterMap.mp set
    rcases List.mem_cons.mp member with rfl | later
    · obtain ⟨fresh, unpledged, isOpen⟩ := step.sets sound.bounded told
      obtain ⟨still, same⟩ := rest.free unpledged
      refine ⟨Nat.le_of_eq fresh.symm, still, fun unsettled => ?_⟩
      exact (same (List.forall_mem_cons.mp unsettled).2).trans isOpen
    · have among : timer ∈ Journal.timers between.now news := by
        rw [step.now]
        exact List.mem_filterMap.mpr ⟨other, later, told⟩
      obtain ⟨fresh, unpledged, isOpen⟩ := ih (step.sound sound) among
      refine ⟨Nat.le_trans grows fresh, unpledged, fun unsettled => ?_⟩
      exact isOpen (List.forall_mem_cons.mp unsettled).2
  | @spared before between after news spares rest ih =>
    rw [← spares.now] at set
    obtain ⟨fresh, held⟩ := ih (spares.sound sound) set
    exact ⟨Nat.le_trans (Nat.le_of_eq spares.board.made.symm) fresh, held⟩

end History

/-- What comes before any script of a call: the clock is set, and the timers that are due fire. -/
structure Rings (clock : Nat) (due : Timer → Bool) (before after : Timing) : Prop where
  now : after.now = clock
  timers : after.timers = before.timers.filter (!due ·)
  board : before.pledges.board.Extends after.pledges.board
  swaps : after.pledges.swaps ⊆ before.pledges.swaps
  answers : after.pledges.answers ⊆ before.pledges.answers
  rests : ∀ id, before.pledges.Free id → (∀ timer ∈ before.timers, due timer → timer.done ≠ id) →
    after.state id = before.state id
  rings : ∀ timer ∈ before.timers, due timer → before.pledges.Free timer.done →
    before.state timer.done = .pending → after.state timer.done = .fulfilled .unit

theorem rings_set (t : Timing) (clock : Nat) {due : Timer → Bool}
    (early : ∀ timer ∈ t.timers, due timer = false) :
    t.Rings clock due { t with now := clock } where
  now := rfl
  timers := (List.filter_eq_self.mpr fun timer member => by simp [early timer member]).symm
  board := .refl t.pledges.board
  swaps := List.Subset.refl _
  answers := List.Subset.refl _
  rests _ _ _ := rfl
  rings timer member past := by simp [early timer member] at past

def outcome (rung : Bool) : Settled := if rung then .fulfilled .unit else .pending

/-- A timer is set until it has rung, and it is there once. -/
structure Keeps (timer : Timer) (rung : Bool) (t : Timing) : Prop where
  listed : t.timers.filter (·.done = timer.done) = if rung then [] else [timer]
  free : t.pledges.Free timer.done

section Keeps
variable {before after : Timing} {news : List (Happening κ σ)} {timer : Timer} {rung : Bool}
  {clock : Nat} {due : Timer → Bool}

theorem Rings.free (rings : Rings clock due before after) {id : DeferredId}
    (free : before.pledges.Free id) : after.pledges.Free id where
  made := Nat.lt_of_lt_of_le free.made rings.board.made
  swaps := fun member => free.swaps (rings.swaps member)
  answers := fun member => free.answers (rings.answers member)

theorem Rings.sound (rings : Rings clock due before after) (sound : before.Sound) :
    after.Sound where
  free timer member := by
    rw [rings.timers] at member
    exact rings.free (sound.free timer (List.mem_of_mem_filter member))
  bounded :=
    { swaps := fun id member =>
        Nat.lt_of_lt_of_le (sound.bounded.swaps id (rings.swaps member)) rings.board.made
      answers := fun id member =>
        Nat.lt_of_lt_of_le (sound.bounded.answers id (rings.answers member)) rings.board.made }
  once := by
    rw [rings.timers]
    exact sound.once.sublist (List.filter_sublist.map _)

theorem Rings.settles (rings : Rings clock due before after) (sound : before.Sound)
    (member : timer ∈ before.timers) (past : due timer) : after.state timer.done ≠ .pending := by
  by_cases isOpen : before.state timer.done = .pending
  · rw [rings.rings timer member past (sound.free timer member) isOpen]
    exact nofun
  · have kept : after.state timer.done = before.state timer.done :=
      rings.board.settled timer.done isOpen
    rwa [kept]

theorem Keeps.there (keeps : Keeps timer false before) : timer ∈ before.timers := by
  have member : timer ∈ before.timers.filter (·.done = timer.done) := by
    rw [keeps.listed]
    exact List.mem_singleton_self timer
  exact List.mem_of_mem_filter member

theorem Rings.keeps (rings : Rings clock due before after) (keeps : Keeps timer rung before) :
    Keeps timer (rung || due timer) after ∧ (before.state timer.done = outcome rung →
      after.state timer.done = outcome (rung || due timer)) := by
  constructor
  · refine ⟨?_, rings.free keeps.free⟩
    rw [rings.timers, List.filter_comm, keeps.listed]
    cases rung with
    | true => rfl
    | false => cases ends : due timer <;> simp [ends]
  · intro known
    cases rung with
    | true =>
      have settled : before.state timer.done ≠ .pending := by simp [known, outcome]
      exact (rings.board.settled timer.done settled).trans known
    | false =>
      cases ends : due timer with
      | true => exact rings.rings timer keeps.there ends keeps.free known
      | false =>
        refine (rings.rests timer.done keeps.free ?_).trans known
        intro other member past same
        have alone : other ∈ before.timers.filter (·.done = timer.done) :=
          List.mem_filter.mpr ⟨member, by simpa using same⟩
        rw [keeps.listed] at alone
        rw [List.mem_singleton.mp alone, ends] at past
        cases past

theorem History.keeps (history : History before news after) (sound : before.Sound)
    (keeps : Keeps timer rung before) : Keeps timer rung after ∧
      ((∀ happening ∈ news, happening.settles timer.done = false) →
        after.state timer.done = before.state timer.done) := by
  obtain ⟨free, same⟩ := history.free keeps.free
  refine ⟨⟨?_, free⟩, same⟩
  have others : (Journal.timers before.now news).filter (·.done = timer.done) = [] := by
    apply List.filter_eq_nil_iff.mpr
    intro other set same
    have below : timer.done < other.done :=
      Nat.lt_of_lt_of_le keeps.free.made (history.sets sound set).1
    exact Nat.ne_of_gt below (of_decide_eq_true same)
  rw [history.timers, List.filter_append, others, List.append_nil, keeps.listed]

theorem History.keeps_set (history : History before news after) (sound : before.Sound)
    (set : timer ∈ Journal.timers before.now news) : Keeps timer false after := by
  refine ⟨?_, (history.sets sound set).2.1⟩
  have there : timer ∈ after.timers := by
    rw [history.timers]
    exact List.mem_append_right _ set
  exact Timer.filter_done (history.sound sound).once there

end Keeps

end Timing
end SpriteStage
