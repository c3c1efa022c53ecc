import SpriteStage.Proofs.Engine.Startup
import SpriteStage.Proofs.Engine.Pledges
import SpriteStage.Proofs.Script.Timing

/-! Timers in every run. The clock goes with frames and with starts that take effect, and only
frames fire timers, before anything else: a timer rings with the first frame after its wait that has
reached its deadline, in whatever order calls and times come. -/

namespace SpriteStage
variable {κ σ S : Type}

theorem Timer.fire_due {timers : List Timer} {board : Board} {now : Nat} {timer : Timer}
    (member : timer ∈ timers) (due : timer.isDue now) (made : timer.done < board.slots.length)
    (isOpen : board.state timer.done = .pending) :
    (fire timers board now).2.state timer.done = .fulfilled .unit := by
  have rings (due : List Timer) (board : Board) (member : timer ∈ due)
      (made : timer.done < board.slots.length) (isOpen : board.state timer.done = .pending) :
      (due.foldl (fun board t => (board.fulfil t.done .unit).2) board).state timer.done =
        .fulfilled .unit := by
    induction due generalizing board with
    | nil => cases member
    | cons t rest ih =>
      by_cases same : t.done = timer.done
      · have first : (board.fulfil t.done .unit).2.state timer.done = .fulfilled .unit := by
          rw [same]
          exact Board.settle_pending _ made isOpen
        -- Once it is settled, no other timer for the same value makes a difference.
        have others := Timer.ring_settles rest (board.fulfil t.done .unit).2
        exact (others.kept _ (by simp [first])).trans first
      · have later : timer ∈ rest := by
          rcases List.mem_cons.mp member with rfl | later
          · exact absurd rfl same
          · exact later
        have untouched : (board.fulfil t.done .unit).2.state timer.done = .pending :=
          (Board.settle_other _ (Ne.symm same)).trans isOpen
        have grown : timer.done < (board.fulfil t.done .unit).2.slots.length := by
          rwa [Board.fulfil, Board.settle_length]
        exact ih _ later grown untouched
  exact rings _ board (List.mem_filter.mpr ⟨member, due⟩) made isOpen

namespace Machine

theorem wait_timing (millis : Nat) (m : Machine κ σ S) :
    (m.wait millis).2.context.now = m.context.now ∧
      (m.wait millis).2.context.timers = m.context.timers ++
        [⟨m.context.now + nanosOfMillis millis, (m.wait millis).1⟩] := by
  unfold wait Timer.schedule
  exact ⟨rfl, rfl⟩

variable [Surface S]

theorem effect_timers (c : Call κ σ) (m : Machine κ σ S) :
    (m.effect c).2.context.now = m.context.now ∧
      (m.effect c).2.context.timers = m.context.timers ++
        ((.called c (m.effect c).1 : Happening κ σ).timer? m.context.now).toList := by
  have unset {after : Machine κ σ S} (now : after.context.now = m.context.now)
      (timers : after.context.timers = m.context.timers) :
      after.context.now = m.context.now ∧ after.context.timers = m.context.timers ++ [] :=
    ⟨now, timers.trans (List.append_nil _).symm⟩
  cases c with
  | wait millis => exact m.wait_timing millis
  | draw _ | playSound _ | random _ _ =>
    exact unset (by rw [(effect_outward rfl m).1]) (by rw [(effect_outward rfl m).1])
  | removeFigure figure =>
    simp only [effect, withContext, Context.removeFigure]
    split
    · exact unset rfl rfl
    · exact unset rfl rfl
  | swapImage figure asset =>
    simp only [effect, swapImage]
    split
    · exact unset rfl rfl
    · exact unset rfl rfl
  | _ => exact unset rfl rfl

theorem effect_timing (c : Call κ σ) (m : Machine κ σ S) :
    m.timing.Step (.called c (m.effect c).1) (m.effect c).2.timing where
  now := (effect_timers c m).1
  timers := (effect_timers c m).2
  pledges := effect_step c m
  shows := by
    cases c with
    | view | peek => exact rfl
    | _ => exact trivial

section Paces
variable {before middle after m : Machine κ σ S}

/-- One machine comes after another without a timer firing, and the journal tells what became of
timers. -/
def Paces (before after : Machine κ σ S) : Prop :=
  ∃ news, after.journal = before.journal ++ news ∧
    Timing.History before.timing news after.timing

omit [Surface S] in
theorem Paces.refl (m : Machine κ σ S) : m.Paces m := ⟨[], (List.append_nil _).symm, .nil _⟩

omit [Surface S] in
theorem Paces.trans (first : before.Paces middle) (second : middle.Paces after) :
    before.Paces after := by
  obtain ⟨news, journal, early⟩ := first
  obtain ⟨more, moreJournal, late⟩ := second
  refine ⟨news ++ more, ?_, early.append late⟩
  rw [moreJournal, journal, List.append_assoc]

omit [Surface S] in
theorem Paces.of_same (journal : after.journal = before.journal)
    (same : after.timing = before.timing) : before.Paces after :=
  ⟨[], by simp [journal], same ▸ .nil _⟩

omit [Surface S] in
theorem Paces.of_spared (journal : after.journal = before.journal)
    (spares : before.timing.Spared after.timing) : before.Paces after :=
  ⟨[], by simp [journal], .spared spares (.nil _)⟩

omit [Surface S] in
theorem Paces.of_plain {news : List (Happening κ σ)}
    (journal : after.journal = before.journal ++ news)
    (plain : ∀ happening ∈ news, happening.isPlain) (same : after.timing = before.timing) :
    before.Paces after :=
  ⟨news, journal, same ▸ .silent fun happening member => .plain _ (plain happening member)⟩

omit [Surface S] in
theorem paces_record {happening : Happening κ σ} (step : m.timing.Step happening m.timing) :
    m.Paces (m.record happening) := ⟨[happening], rfl, .told step (.nil _)⟩

theorem paces_perform (c : Call κ σ) (m : Machine κ σ S) : m.Paces (m.perform c).2 := by
  obtain ⟨remarks, journal, kinds⟩ := (leads_effect c m).journal
  have quiet : Timing.History m.timing remarks m.timing := .silent fun happening member =>
    .plain _ (Happening.isPlain_of_isRemark (kinds happening member))
  refine ⟨remarks ++ [.called c (m.effect c).1], ?_, ?_⟩
  · simp [perform, record, journal]
  · exact quiet.append (.told (effect_timing c m) (.nil _))

theorem draws_timing (draws : before.Draws after) : after.timing = before.timing := by
  have pledges := draws_pledges draws
  obtain ⟨board, prompt, context, _⟩ := draws.context
  simp only [timing, pledges, context]

theorem completeLoads_spared (m : Machine κ σ S) : m.timing.Spared m.completeLoads.timing := by
  have serves := m.completeLoads_served
  have settles := m.completeLoads_settles
  obtain ⟨_, _, _, _, _, same⟩ := m.completeLoads_frame
  refine ⟨by rw [same]; rfl, by rw [same]; rfl, ?_, ?_, serves.answers⟩
  · exact settles.mono (List.subset_append_left _ _)
  · rcases serves.swaps with kept | ⟨none, _⟩
    · exact fun id member => kept ▸ member
    · exact fun id member => absurd (none ▸ member) List.not_mem_nil

/-- A frame begins with the clock and the loads, and then fires the timers that are due. -/
theorem beginFrame_rings (now : Nat) (m : Machine κ σ S) :
    m.timing.Rings now (·.isDue now) (m.beginFrame now).timing := by
  have spares := (m.setNow now).completeLoads_spared
  have fires := Timer.fire_settles m.context.timers (m.setNow now).completeLoads.board now
  have timers : (m.setNow now).completeLoads.context.timers = m.context.timers := spares.timers
  have clock : (m.setNow now).completeLoads.context.now = now := spares.now
  have same : (m.beginFrame now).board =
      (Timer.fire m.context.timers (m.setNow now).completeLoads.board now).2 := by
    rw [← timers]
    exact congrArg (fun at_ => (Timer.fire _ _ at_).2) clock
  have left : (m.beginFrame now).context.timers = m.context.timers.filter (!·.isDue now) := by
    rw [← timers]
    exact congrArg (fun at_ => (Timer.fire _ (m.setNow now).completeLoads.board at_).1) clock
  constructor
  · exact clock
  · exact left
  · change m.board.Extends (m.beginFrame now).board
    rw [same]
    exact spares.board.goesOn.trans fires.goesOn
  · exact spares.swaps
  · exact spares.answers
  · intro id free resting
    have undue : id ∉ (m.context.timers.filter (·.isDue now)).map (·.done) := by
      intro member
      obtain ⟨timer, there, done⟩ := List.mem_map.mp member
      obtain ⟨set, past⟩ := List.mem_filter.mp there
      exact resting timer set past done
    change (m.beginFrame now).board.state id = m.board.state id
    rw [same]
    exact (fires.others id undue).trans (spares.free free).2
  · intro timer member due free isOpen
    obtain ⟨still, kept⟩ := spares.free free
    change (m.beginFrame now).board.state timer.done = .fulfilled .unit
    rw [same]
    exact Timer.fire_due member due still.made (kept.trans isOpen)

end Paces

end Machine

def HostCall.reaches (deadline : Nat) : HostCall κ σ S → Bool
  | .frame now => deadline ≤ now
  | _ => false

namespace Engine
open Machine
variable {e : Engine κ σ S}

/-- The time to which a call sets the clock: a frame always does, a start if it takes effect. -/
def ticks (e : Engine κ σ S) : HostCall κ σ S → Option Nat
  | .frame now => some now
  | .start now _ => if !e.running && e.machine.surface.isSome then some now else none
  | _ => none

/-- The clock in a call, as its scripts see it. -/
def clockIn (e : Engine κ σ S) (call : HostCall κ σ S) : Nat := (e.ticks call).getD e.context.now

variable [Surface S] {p : Program κ σ}

theorem routine_paces (p : Program κ σ) : Routine p (Paces (κ := κ) (σ := σ) (S := S)) :=
  .of_kept ⟨.refl, .trans, paces_perform⟩
    (fun _ _ entry => paces_record (.plain _ (Happening.isPlain_of_isEntry entry)))
    (fun _ _ _ => .of_same rfl rfl)
    (fun m id => ⟨[.collided id], rfl, .told (.rest m.timing rfl) (.nil _)⟩)
    fun _ _ _ => .of_same rfl rfl

theorem paces_draws {before after : Machine κ σ S} (draws : before.Draws after) :
    before.Paces after := by
  obtain ⟨news, journal, plain⟩ := (idles_draws draws).journal
  exact .of_plain journal plain (draws_timing draws)

/-- In a call that brings no time, the engine's own hand fires no timers. -/
theorem Touch.paces {call : HostCall κ σ S} {before after : Machine κ σ S}
    (touch : Touch call before after) (timeless : call.time? = none) : before.Paces after := by
  cases touch with
  | timed brings =>
    rw [timeless] at brings
    cases brings
  | loaded | fired | untapped | drawn => cases timeless
  | forgotten =>
    have forgets : before.timing.Spared (before.onContext (·.clearWorld)).timing :=
      ⟨rfl, rfl, .refl _ _, List.Subset.refl _, List.nil_subset _⟩
    exact ⟨[.notice .reset], rfl, .spared forgets (.told (.rest _ rfl) (.nil _))⟩
  | typed key =>
    have serves := before.promptKey_served key
    refine .of_spared rfl ⟨rfl, rfl, ?_, List.Subset.refl _, serves.answers⟩
    exact (before.context.prompt.handleKey_served key before.board).1.mono
      (List.subset_append_right _ _)
  | attached | placed | hidden | heard | unguarded | pressed | released | moused =>
    exact .of_same rfl rfl

theorem paces_stop (before after : Machine κ σ S) (touch : Touch .stop before after) :
    before.Paces after := touch.paces rfl

theorem news_timing {call : HostCall κ σ S} {begun : Machine κ σ S} {early : List (Happening κ σ)}
    (journal : begun.journal = e.machine.journal ++ early)
    (plain : ∀ happening ∈ early, happening.isPlain)
    (paces : begun.Paces (e.step p call).2.machine) :
    Timing.History begun.timing (e.news p call) (e.step p call).2.machine.timing := by
  obtain ⟨late, grown, history⟩ := paces
  have whole : (e.step p call).2.machine.journal = e.machine.journal ++ (early ++ late) := by
    rw [grown, journal, List.append_assoc]
  rw [news_eq whole]
  exact .append (.silent fun happening member => .plain _ (plain happening member)) history

/-- Before the scripts of a call, the clock is set and due timers fire; from then on none does. -/
theorem step_timing (p : Program κ σ) (e : Engine κ σ S) (call : HostCall κ σ S) : ∃ begun,
    e.machine.timing.Rings (e.clockIn call) (fun timer => call.reaches timer.deadline) begun ∧
      Timing.History begun (e.news p call) (e.step p call).2.machine.timing := by
  have silent : ∀ happening ∈ ([] : List (Happening κ σ)), happening.isPlain :=
    fun _ member => nomatch member
  have still (timeless : e.ticks call = none) (never : ∀ timer, call.reaches timer = false)
      (paces : e.machine.Paces (e.step p call).2.machine) : ∃ begun,
      e.machine.timing.Rings (e.clockIn call) (fun timer => call.reaches timer.deadline) begun ∧
        Timing.History begun (e.news p call) (e.step p call).2.machine.timing := by
    have clock : e.clockIn call = e.context.now := congrArg (·.getD e.context.now) timeless
    refine ⟨e.machine.timing, ?_, news_timing (List.append_nil _).symm silent paces⟩
    rw [clock]
    exact e.machine.timing.rings_set e.context.now fun timer _ => never timer.deadline
  have others (timeless : call.time? = none) : e.machine.Paces (e.step p call).2.machine :=
    (routine_paces p).step (fun _ _ touch => touch.paces timeless) e
  cases call with
  | frame now =>
    obtain ⟨early, journal, plain⟩ := (idles_beginFrame now e.machine).journal
    have paces := (routine_paces p).frame_begun paces_stop (fun _ _ => paces_draws)
      (fun _ => .of_same rfl rfl) now e
    exact ⟨_, e.machine.beginFrame_rings now, news_timing journal plain paces⟩
  | start now clock =>
    by_cases effective : (!e.running && e.machine.surface.isSome) = true
    · obtain ⟨halted, surface⟩ : e.running = false ∧ e.machine.surface.isSome := by
        simpa using effective
      have clocked : e.clockIn (.start now clock) = now := by simp [clockIn, ticks, effective]
      have paces := (routine_paces p).starts paces_stop now clock halted surface
      refine ⟨(e.machine.setNow now).timing, ?_, news_timing (List.append_nil _).symm silent paces⟩
      rw [clocked]
      exact e.machine.timing.rings_set now fun _ _ => rfl
    · apply still (if_neg effective) fun _ => rfl
      cases running : e.running with
      | true => simpa [Engine.step, Engine.start, running] using Paces.refl e.machine
      | false =>
        have bare : e.machine.surface = none := by simpa [running] using effective
        have refused : e.machine.Paces (e.note .surfaceMissing).machine :=
          paces_record (.rest _ rfl)
        simpa [Engine.step, Engine.start, running, bare] using refused
  | attach | setDisplay | stop | reset | input | script =>
    exact still rfl (fun _ => rfl) (others rfl)

section Step
variable (p) {timer : Timer} {rung : Bool}

theorem step_sound (sound : e.machine.timing.Sound) (call : HostCall κ σ S) :
    (e.step p call).2.machine.timing.Sound := by
  obtain ⟨begun, rings, history⟩ := step_timing p e call
  exact history.sound (rings.sound sound)

theorem step_now (e : Engine κ σ S) (call : HostCall κ σ S) :
    (e.step p call).2.context.now = e.clockIn call := by
  obtain ⟨begun, rings, history⟩ := step_timing p e call
  exact history.now.trans rings.now

theorem step_keeps (sound : e.machine.timing.Sound)
    (keeps : Timing.Keeps timer rung e.machine.timing) (call : HostCall κ σ S) :
    Timing.Keeps timer (rung || call.reaches timer.deadline) (e.step p call).2.machine.timing ∧
      ((∀ happening ∈ e.news p call, happening.settles timer.done = false) →
        e.machine.board.state timer.done = Timing.outcome rung →
        (e.step p call).2.machine.board.state timer.done =
          Timing.outcome (rung || call.reaches timer.deadline)) := by
  obtain ⟨begun, rings, history⟩ := step_timing p e call
  obtain ⟨kept, rang⟩ := rings.keeps keeps
  obtain ⟨still, same⟩ := history.keeps (rings.sound sound) kept
  exact ⟨still, fun unsettled known => (same unsettled).trans (rang known)⟩

theorem after_sound (sound : e.machine.timing.Sound) (calls : List (HostCall κ σ S)) :
    (e.after p calls).machine.timing.Sound := by
  induction calls generalizing e with
  | nil => exact sound
  | cons call rest ih => exact ih (step_sound p sound call)

/-- A timer is kept over calls until the first frame among them that has reached the deadline. -/
theorem after_keeps (sound : e.machine.timing.Sound)
    (keeps : Timing.Keeps timer rung e.machine.timing) (calls : List (HostCall κ σ S)) :
    Timing.Keeps timer (rung || calls.any (·.reaches timer.deadline))
        (e.after p calls).machine.timing ∧
      ∀ news, (e.after p calls).machine.journal = e.machine.journal ++ news →
        (∀ happening ∈ news, happening.settles timer.done = false) →
        e.machine.board.state timer.done = Timing.outcome rung →
        (e.after p calls).machine.board.state timer.done =
          Timing.outcome (rung || calls.any (·.reaches timer.deadline)) := by
  induction calls generalizing e rung with
  | nil =>
    rw [List.any_nil, Bool.or_false]
    exact ⟨keeps, fun _ _ _ known => known⟩
  | cons call rest ih =>
    obtain ⟨kept, rang⟩ := step_keeps p sound keeps call
    obtain ⟨last, outcome⟩ := ih (step_sound p sound call) kept
    rw [List.any_cons, ← Bool.or_assoc]
    refine ⟨last, fun news journal unsettled known => ?_⟩
    obtain ⟨early, late, rfl, first, second⟩ := after_split [call] _ journal
    obtain ⟨unsettledFirst, unsettledRest⟩ := List.forall_mem_append.mp unsettled
    rw [← news_eq first] at unsettledFirst
    exact outcome late second unsettledRest (rang unsettledFirst known)

theorem step_seen (sound : e.machine.timing.Sound)
    (keeps : Timing.Keeps timer rung e.machine.timing)
    (known : e.machine.board.state timer.done = Timing.outcome rung) (call : HostCall κ σ S)
    (unsettled : ∀ happening ∈ e.news p call, happening.settles timer.done = false)
    {seen : Settled} (peeked : .called (.peek timer.done) seen ∈ e.news p call) :
    seen = Timing.outcome (rung || call.reaches timer.deadline) := by
  have final := (step_keeps p sound keeps call).2 unsettled known
  obtain ⟨begun, rings, history⟩ := step_timing p e call
  have rang := (rings.keeps keeps).2 known
  obtain ⟨settled, isOpen⟩ := history.peeked peeked
  cases past : rung || call.reaches timer.deadline with
  | true =>
    rw [past] at rang
    have done : begun.state timer.done ≠ .pending := by simp [rang, Timing.outcome]
    exact (settled done).trans rang
  | false =>
    rw [past] at final
    exact isOpen final

theorem step_sets (sound : e.machine.timing.Sound) {call : HostCall κ σ S} {millis : Nat}
    {done : DeferredId} (waits : .called (.wait millis) done ∈ e.news p call) :
    let timer : Timer := ⟨e.clockIn call + nanosOfMillis millis, done⟩
    Timing.Keeps timer false (e.step p call).2.machine.timing ∧
      ((∀ happening ∈ e.news p call, happening.settles done = false) →
        (e.step p call).2.machine.board.state done = .pending) := by
  intro timer
  obtain ⟨begun, rings, history⟩ := step_timing p e call
  have set : timer ∈ Journal.timers begun.now (e.news p call) := by
    rw [rings.now]
    exact List.mem_filterMap.mpr ⟨_, waits, rfl⟩
  exact ⟨history.keeps_set (rings.sound sound) set, (history.sets (rings.sound sound) set).2.2⟩

end Step

end Engine

def StartTask.awaits (value : DeferredId) : StartTask κ → Bool
  | .waitFor other | .after other _ => other = value
  | .custom _ => false

namespace Machine
variable [Surface S] (p : Program κ σ)

theorem pollTask_ready {task : StartTask κ} {value : DeferredId} (awaits : task.awaits value)
    {m : Machine κ σ S} (settled : m.board.state value ≠ .pending) :
    (m.pollTask p task).1 ≠ .pending := by
  cases task with
  | waitFor other =>
    obtain rfl : other = value := of_decide_eq_true awaits
    cases known : m.board.state other with
    | pending => exact absurd known settled
    | fulfilled | rejected => simp [pollTask, known]
  | after other next =>
    obtain rfl : other = value := of_decide_eq_true awaits
    cases known : m.board.state other with
    | pending => exact absurd known settled
    | rejected => simp [pollTask, known]
    | fulfilled => cases next <;> simp [pollTask, known]
  | custom => cases awaits

theorem pollAll_serials {tasks : List (Waiting κ)} (distinct : (tasks.map (·.serial)).Nodup)
    (m : Machine κ σ S) : (pollAll p tasks m).1.map (·.serial) ⊆ tasks.map (·.serial) := by
  obtain ⟨news, _, round⟩ := (pollAll_round p tasks m).journal
  rw [round.left distinct]
  exact List.filter_subset_self _

theorem pollAll_releases {tasks : List (Waiting κ)} (distinct : (tasks.map (·.serial)).Nodup)
    {m : Machine κ σ S} {w : Waiting κ} (member : w ∈ tasks) {value : DeferredId}
    (awaits : w.task.awaits value) (settled : m.board.state value ≠ .pending) :
    w.serial ∉ (pollAll p tasks m).1.map (·.serial) := by
  have kept := (Engine.routine_paces (S := S) p).toKept
  induction tasks generalizing m with
  | nil => cases member
  | cons first rest ih =>
    obtain ⟨apart, others⟩ := List.nodup_cons.mp distinct
    -- Whatever a poll does, the value stays settled for the polls after it.
    have stays {m' : Machine κ σ S} (paces : m.Paces m') : m'.board.state value ≠ .pending := by
      obtain ⟨_, _, history⟩ := paces
      have same : m'.board.state value = m.board.state value :=
        history.board.settled value settled
      rwa [same]
    have asks : m.Paces (m.record (.polled first.serial)) := paces_record (.rest _ rfl)
    have polls := asks.trans (kept.pollTask p first.task _)
    have ready : w = first → (pollTask p first.task (m.record (.polled first.serial))).1 ≠
        .pending := fun same => pollTask_ready p (same ▸ awaits) (stays asks)
    have gone {m' : Machine κ σ S} (paces : m.Paces m') :
        w.serial ∉ (pollAll p rest m').1.map (·.serial) := by
      rcases List.mem_cons.mp member with rfl | later
      · exact fun left => apart (pollAll_serials p others m' left)
      · exact ih others later (stays paces)
    rw [pollAll]
    split
    · rename_i task m' ran
      rw [ran] at polls ready
      have later : w ∈ rest := by
        rcases List.mem_cons.mp member with same | later
        · exact absurd rfl (ready same)
        · exact later
      have different : w.serial ≠ first.serial := fun same =>
        apart (List.mem_map.mpr ⟨w, later, same⟩)
      rw [List.map_cons, List.mem_cons]
      exact not_or.mpr ⟨different, gone polls⟩
    · rename_i task m' ran
      rw [ran] at polls
      exact gone (polls.trans (paces_record (.rest _ rfl)))
    · rename_i error task m' ran
      rw [ran] at polls
      have answers : m'.Paces (m'.record (.answered first.serial)) := paces_record (.rest _ rfl)
      exact gone ((polls.trans answers).trans (paces_record (.rest _ rfl)))

end Machine

namespace Engine
open Machine
variable [Surface S] {p : Program κ σ} {e : Engine κ σ S}

/-- The polls of a frame let go of each task whose timer fires at its beginning. -/
theorem Barred.rung (barred : e.Barred) (sound : e.machine.timing.Sound) (running : e.running)
    {now : Nat} {timer : Timer} (set : timer ∈ e.context.timers) (past : timer.deadline ≤ now)
    {w : Waiting κ} (waits : w ∈ e.barrier.getD []) (awaits : w.task.awaits timer.done) :
    .answered w.serial ∈ e.news p (.frame now) ∧ w.serial ∉ (e.step p (.frame now)).2.due := by
  let begun : Engine κ σ S := { e.onMachine (·.beginFrame now) with lastTick := some now }
  have settled : begun.machine.board.state timer.done ≠ .pending :=
    (e.machine.beginFrame_rings now).settles sound set (decide_eq_true past)
  obtain ⟨tasks, up⟩ : ∃ tasks, e.barrier = some tasks := by
    cases up : e.barrier with
    | none => simp [up] at waits
    | some tasks => exact ⟨tasks, rfl⟩
  have owed : e.due = tasks.map (·.serial) := by simp [due, up]
  have member : w ∈ tasks := by simpa [up] using waits
  have left := pollAll_releases p (owed ▸ barred.due_nodup) member awaits settled
  have polled : (begun.pollBarrier p).due = (pollAll p tasks begun.machine).1.map (·.serial) := by
    have raised : begun.barrier = some tasks := up
    simp only [pollBarrier, raised, due]
    split
    · rename_i empty
      simp [List.isEmpty_iff.mp empty]
    · rfl
  have clears : (begun.pollBarrier p).CarriesOn (e.polledAt p now) :=
    carriesOn_aside (leads_clearStage _).aside
  have same : (e.frame p now).2.due = (begun.pollBarrier p).due := by
    rw [frame_running p now running]
    exact (clears.trans (carriesOn_afterPolls p _ _)).due
  have released : w.serial ∉ (e.frame p now).2.due := by
    rw [same, polled]
    exact left
  refine ⟨?_, released⟩
  obtain ⟨news, journal, round⟩ := frame_round p now running
  have grown : (e.step p (.frame now)).2.machine.journal = e.machine.journal ++ news := journal
  rw [news_eq grown]
  rw [round.left barred.due_nodup] at released
  have asked : w.serial ∈ e.due := owed ▸ List.mem_map.mpr ⟨w, member, rfl⟩
  by_contra silent
  exact released (List.mem_filter.mpr ⟨asked, by simpa [Journal.mem_answers] using silent⟩)

/-- A new engine whose clock shows the time of its creation. -/
def newAt (birth : Nat) (settings : Settings) (present : String → Bool) (memory : σ) :
    Engine κ σ S := (new settings present memory).onMachine (·.setNow birth)

def latest (p : Program κ σ) (e : Engine κ σ S) : List (HostCall κ σ S) → Option Nat
  | [] => none
  | call :: rest => ((e.step p call).2.latest p rest).or (e.ticks call)

theorem after_now (p : Program κ σ) (e : Engine κ σ S) (calls : List (HostCall κ σ S)) :
    (e.after p calls).context.now = (e.latest p calls).getD e.context.now := by
  induction calls generalizing e with
  | nil => rfl
  | cons call rest ih =>
    refine (ih (e.step p call).2).trans ?_
    rw [step_now, latest, clockIn]
    cases (e.step p call).2.latest p rest with
    | none => rfl
    | some now => rfl

/-- What can be relied on of timers from a state of a run on. Times may stand still or go back. -/
structure TimersTrue (p : Program κ σ) (e : Engine κ σ S) : Prop where
  kept : ∀ call, (e.step p call).2.context.timers =
    e.context.timers.filter (fun timer => !call.reaches timer.deadline) ++
      Journal.timers (e.clockIn call) (e.news p call)
  clock : ∀ call context, .called .view context ∈ e.news p call → context.now = e.clockIn call
  /-- After a wait its timer is there once, until the first later frame that has reached the
  deadline, and never again from then on. -/
  once : ∀ call millis (done : DeferredId) later, .called (.wait millis) done ∈ e.news p call →
    let deadline := e.clockIn call + nanosOfMillis millis
    ((e.step p call).2.after p later).context.timers.filter (·.done = done) =
      if later.any (·.reaches deadline) then [] else [⟨deadline, done⟩]
  fires : ∀ call millis (done : DeferredId) later news,
    .called (.wait millis) done ∈ e.news p call →
    ((e.step p call).2.after p later).machine.journal = e.machine.journal ++ news →
    (∀ happening ∈ news, happening.settles done = false) →
    let deadline := e.clockIn call + nanosOfMillis millis
    ((e.step p call).2.after p later).machine.board.state done =
      if later.any (·.reaches deadline) then .fulfilled .unit else .pending
  seen : ∀ call millis (done : DeferredId) later next news seen,
    .called (.wait millis) done ∈ e.news p call →
    ((e.step p call).2.after p (later ++ [next])).machine.journal = e.machine.journal ++ news →
    (∀ happening ∈ news, happening.settles done = false) →
    .called (.peek done) seen ∈ ((e.step p call).2.after p later).news p next →
    let deadline := e.clockIn call + nanosOfMillis millis
    seen = if (later ++ [next]).any (·.reaches deadline) then .fulfilled .unit else .pending
  awaited : ∀ call millis (done : DeferredId) seen, .called (.wait millis) done ∈ e.news p call →
    (∀ happening ∈ e.news p call, happening.settles done = false) →
    .called (.peek done) seen ∈ e.news p call → seen = .pending
  /-- In a running program the polls of a frame let go of all startup tasks that wait for a timer
  which the frame fires. -/
  released : ∀ now timer w, e.running → timer ∈ e.context.timers → timer.deadline ≤ now →
    w ∈ e.barrier.getD [] → w.task.awaits timer.done →
    .answered w.serial ∈ e.news p (.frame now) ∧ w.serial ∉ (e.step p (.frame now)).2.due

theorem after_sets (sound : e.machine.timing.Sound) {call : HostCall κ σ S} {millis : Nat}
    {done : DeferredId} (waits : .called (.wait millis) done ∈ e.news p call)
    (later : List (HostCall κ σ S)) :
    let timer : Timer := ⟨e.clockIn call + nanosOfMillis millis, done⟩
    Timing.Keeps timer (later.any (·.reaches timer.deadline))
        ((e.step p call).2.after p later).machine.timing ∧
      ∀ news, ((e.step p call).2.after p later).machine.journal = e.machine.journal ++ news →
        (∀ happening ∈ news, happening.settles done = false) →
        ((e.step p call).2.after p later).machine.board.state done =
          Timing.outcome (later.any (·.reaches timer.deadline)) := by
  intro timer
  obtain ⟨set, isOpen⟩ := step_sets p sound waits
  obtain ⟨keeps, rang⟩ := after_keeps p (step_sound p sound call) set later
  rw [Bool.false_or] at keeps rang
  refine ⟨keeps, fun news journal unsettled => ?_⟩
  obtain ⟨early, late, rfl, first, second⟩ := after_split [call] _ journal
  obtain ⟨unsettledFirst, unsettledRest⟩ := List.forall_mem_append.mp unsettled
  rw [← news_eq first] at unsettledFirst
  exact rang late second unsettledRest (isOpen unsettledFirst)

theorem Barred.timed (barred : e.Barred) (sound : e.machine.timing.Sound) :
    e.TimersTrue p where
  kept call := by
    obtain ⟨begun, rings, history⟩ := step_timing p e call
    refine history.timers.trans ?_
    rw [rings.timers, rings.now]
    rfl
  clock call context viewed := by
    obtain ⟨begun, rings, history⟩ := step_timing p e call
    exact (history.viewed viewed).trans rings.now
  once call millis done later waits := (after_sets sound waits later).1.listed
  fires call millis done later news waits journal unsettled :=
    (after_sets sound waits later).2 news journal unsettled
  seen call millis done later next news seen waits journal unsettled peeked := by
    obtain ⟨keeps, rang⟩ := after_sets sound waits later
    obtain ⟨early, late, rfl, first, second⟩ := after_split (call :: later) [next] journal
    obtain ⟨unsettledFirst, unsettledLast⟩ := List.forall_mem_append.mp unsettled
    have last : (((e.step p call).2.after p later).step p next).2.machine.journal =
        ((e.step p call).2.after p later).machine.journal ++ late := by
      rw [← after_concat]
      exact second
    rw [← news_eq last] at unsettledLast
    have shown := step_seen p (after_sound p (step_sound p sound call) later) keeps
      (rang early first unsettledFirst) next unsettledLast peeked
    intro deadline
    have both : (later ++ [next]).any (·.reaches deadline) =
        (later.any (·.reaches deadline) || next.reaches deadline) := by simp
    rw [both]
    exact shown
  awaited call millis done seen waits unsettled peeked := by
    have final := (step_sets p sound waits).2 unsettled
    obtain ⟨begun, rings, history⟩ := step_timing p e call
    exact (history.peeked peeked).2 final
  released now timer w running set past waits awaits :=
    barred.rung sound running set past waits awaits

section Run
variable (p : Program κ σ) (birth : Nat) (settings : Settings) (present : String → Bool)
  (memory : σ) (calls : List (HostCall κ σ S))

theorem barred_run :
    ((newAt birth settings present memory : Engine κ σ S).after p calls).Barred := by
  have born : (newAt birth settings present memory : Engine κ σ S).Barred :=
    (barred_new settings present memory).carriesOn ⟨.of_same rfl rfl, rfl, rfl⟩
  generalize (newAt birth settings present memory : Engine κ σ S) = e at born
  induction calls generalizing e with
  | nil => exact born
  | cons call rest ih => exact ih _ (born.step p call)

theorem sound_run :
    ((newAt birth settings present memory : Engine κ σ S).after p calls).machine.timing.Sound := by
  have born : (newAt birth settings present memory : Engine κ σ S).machine.timing.Sound :=
    { free := nofun
      bounded := ⟨nofun, nofun⟩
      once := List.nodup_nil }
  exact after_sound p born calls

/-- Timers fire exactly when they are due, in every run: the clock is that of the latest frame or
effective start, else the time of creation, and timers are set and fired by it. -/
theorem timers_true :
    let created : Engine κ σ S := newAt birth settings present memory
    (created.after p calls).context.now = (created.latest p calls).getD birth ∧
      (created.after p calls).TimersTrue p :=
  ⟨after_now p _ calls, (barred_run p birth settings present memory calls).timed
    (sound_run p birth settings present memory calls)⟩

end Run

/-- A program that takes a breath at its start; its other handlers do nothing. -/
def sleepy : Program Unit Unit := { blank with
  onStart := fun _ => do
    let rested ← Script.perform (.wait 0)
    return some (.waitFor rested) }

def sleepyRun : List (HostCall Unit Unit RecordingSurface) :=
  let register : Script Unit Unit Unit := do
    let _ ← Script.perform (.onStart ())
  [.attach (.ofSize 640 480), .script register, .start 50 "12:00:00", .frame 40]

def sleepyStage : Engine Unit Unit RecordingSurface :=
  (newAt 5 .standard (fun _ => false) ()).after sleepy sleepyRun

/-- It sleeps on until a frame is as late as the start was. -/
theorem sleepy_wakes : sleepyStage.TimersTrue sleepy ∧ sleepyStage.context.now = 40 ∧
    sleepyStage.due = [0] ∧ .answered 0 ∈ sleepyStage.news sleepy (.frame 50) := by
  obtain ⟨clock, timers⟩ := timers_true sleepy 5 .standard (fun _ => false) () sleepyRun
  have rung := timers.released 50 ⟨50, 0⟩ ⟨0, .waitFor 0⟩ (by rfl) (List.mem_singleton_self _)
    (by decide) (List.mem_singleton_self _) (by rfl)
  exact ⟨timers, clock, by rfl, rung.1⟩

end Engine
end SpriteStage
