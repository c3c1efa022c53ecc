import SpriteStage.Proofs.Engine.Calls

namespace SpriteStage.Engine
open Journal
variable {κ σ S : Type}

/-- The barrier waits for what is owed. -/
structure Barred (e : Engine κ σ S) : Prop where
  waits : owed e.machine.journal = e.due
  /-- A start without startup handlers cannot find the barrier of an earlier one. -/
  handlers : e.barrier.isSome → e.context.handlers.start ≠ []
  numbered : (promises e.machine.journal).Pairwise (· < ·)
  fresh : ∀ task ∈ promises e.machine.journal, task < e.tasksMade
  spent : ∀ task ∈ answers e.machine.journal, task ∈ promises e.machine.journal ∧ task ∉ e.due
  settled : SettledBeforePlay e.machine.journal

section Barred
variable {e before after : Engine κ σ S}

theorem barred_new (settings : Settings) (present : String → Bool) (memory : σ) :
    (new settings present memory : Engine κ σ S).Barred where
  waits := rfl
  handlers := by simp [new]
  numbered := .nil
  fresh := by simp [new, Machine.new, promises]
  spent := by simp [new, Machine.new, answers]
  settled := by simp [SettledBeforePlay, new, Machine.new]

theorem Barred.due_nodup (barred : e.Barred) : e.due.Nodup :=
  barred.waits ▸ (barred.numbered.imp Nat.ne_of_lt).sublist (owed_sublist _)

theorem Barred.due_promised (barred : e.Barred) {task : Nat} (member : task ∈ e.due) :
    task ∈ promises e.machine.journal :=
  (owed_sublist _).subset (barred.waits ▸ member)

theorem Barred.carriesOn (barred : before.Barred) (carries : before.CarriesOn after) :
    after.Barred := by
  obtain ⟨news, journal, kinds⟩ := carries.machine.journal
  have neutral : ∀ happening ∈ news, happening.Neutral := fun happening member =>
    (kinds happening member).1
  have same : promises after.machine.journal = promises before.machine.journal := by
    simp [journal, promises_neutral neutral]
  constructor
  · rw [journal, owed_neutral neutral, barred.waits, carries.due]
  · intro up none
    have prefixed := carries.machine.starters
    exact barred.handlers (carries.barrier ▸ up) (List.prefix_nil.mp (none ▸ prefixed))
  · exact same ▸ barred.numbered
  · rw [same, carries.tasksMade]
    exact barred.fresh
  · rw [same, carries.due, journal, answers_append, answers_neutral neutral, List.append_nil]
    exact barred.spent
  · rw [journal]
    refine barred.settled.append_neutral neutral fun happening member play => ?_
    rw [barred.waits, due, (kinds happening member).2 play]
    rfl

/-- A round of polls keeps the barrier in step with what is owed. -/
theorem Barred.round (barred : before.Barred)
    (writes : before.machine.Writes (QuietRound before.due after.due) after.machine)
    (barrier : after.barrier.isSome → before.barrier.isSome)
    (tasksMade : after.tasksMade = before.tasksMade) : after.Barred := by
  obtain ⟨news, journal, round⟩ := writes.journal
  have left := round.left barred.due_nodup
  have same : promises after.machine.journal = promises before.machine.journal := by
    simp [journal, round.promises]
  constructor
  · rw [journal, owed_append round.closed round.promises, barred.waits, left]
  · intro up none
    exact barred.handlers (barrier up) (List.prefix_nil.mp (none ▸ writes.starters))
  · exact same ▸ barred.numbered
  · rw [same, tasksMade]
    exact barred.fresh
  · intro task member
    rw [same, left]
    rw [journal, answers_append] at member
    rcases List.mem_append.mp member with old | new
    · obtain ⟨promised, answered⟩ := barred.spent task old
      exact ⟨promised, fun still => answered (List.mem_of_mem_filter still)⟩
    · exact ⟨barred.due_promised (round.answers.subset new), by simp [new]⟩
  · rw [journal]
    exact barred.settled.append_rest round.rest

/-- After a start or a reset only the tasks that its handlers left are owed. -/
theorem Barred.opening (barred : before.Barred) {notice : Notice} {news : List (Happening κ σ)}
    {tickets : List Nat} (made : Nat)
    (journal : after.machine.journal = before.machine.journal ++ .notice notice :: news)
    (opens : (.notice notice : Happening κ σ).opens) (opening : Opening tickets after.due news)
    (serials : after.due = List.range' before.tasksMade made)
    (tasksMade : after.tasksMade = before.tasksMade + made)
    (handlers : after.barrier.isSome → after.context.handlers.start ≠ []) : after.Barred := by
  have promised : promises after.machine.journal =
      promises before.machine.journal ++ List.range' before.tasksMade made := by
    rw [journal, promises_append, ← serials, ← opening.promises]
    rfl
  have answered : answers after.machine.journal = answers before.machine.journal := by
    rw [journal, answers_append]
    exact (congrArg _ opening.unanswered).trans (List.append_nil _)
  constructor
  · rw [journal, owed_opened opens opening.closed opening.unanswered, opening.promises]
  · exact handlers
  · rw [promised, List.pairwise_append]
    refine ⟨barred.numbered, List.pairwise_lt_range', fun task old task' new => ?_⟩
    have early := barred.fresh task old
    have late := (List.mem_range'_1.mp new).1
    omega
  · intro task member
    rw [promised] at member
    rw [tasksMade]
    rcases List.mem_append.mp member with old | new
    · exact Nat.lt_add_right made (barred.fresh task old)
    · exact (List.mem_range'_1.mp new).2
  · intro task member
    rw [answered] at member
    obtain ⟨old, _⟩ := barred.spent task member
    refine ⟨promised ▸ List.mem_append_left _ old, fun new => ?_⟩
    rw [serials] at new
    have early := barred.fresh task old
    have late := (List.mem_range'_1.mp new).1
    omega
  · rw [journal]
    refine barred.settled.append_rest fun happening member => ?_
    rcases List.mem_cons.mp member with rfl | new
    · rfl
    · exact opening.rest happening new

theorem Barred.reset (barred : e.Barred) : e.reset.Barred := by
  have stopped := barred.carriesOn (carriesOn_stop e)
  have journal : e.reset.machine.journal = e.stop.machine.journal ++ .notice .reset :: [] := rfl
  exact stopped.opening 0 journal rfl (.of_quiet (by simp)) rfl rfl
    (by simp [Engine.reset, note, onMachine])

end Barred

variable [Surface S] {e : Engine κ σ S}

theorem pollBarrier_round (p : Program κ σ) (e : Engine κ σ S) :
    e.machine.Writes (QuietRound e.due (e.pollBarrier p).due) (e.pollBarrier p).machine := by
  unfold pollBarrier
  split
  · exact .of_same (by simpa [due, *] using QuietRound.of_quiet (by simp)) rfl rfl
  · rename_i tasks up
    have polled := Machine.pollAll_round p tasks e.machine
    have before : e.due = tasks.map (·.serial) := by simp [due, up]
    dsimp only
    split
    · rename_i empty
      rw [List.isEmpty_iff.mp empty] at polled
      exact before ▸ polled
    · exact before ▸ polled

theorem pollBarrier_isSome (p : Program κ σ) (e : Engine κ σ S) :
    (e.pollBarrier p).barrier.isSome ↔ (e.pollBarrier p).due ≠ [] := by
  unfold pollBarrier
  split
  · simp [due, *]
  · dsimp only
    split <;> simp_all [due]

theorem Barred.polledAt (barred : e.Barred) (p : Program κ σ) (now : Nat) :
    (e.polledAt p now).Barred := by
  let begun : Engine κ σ S := { e.onMachine (·.beginFrame now) with lastTick := some now }
  have ticks : (e.onMachine (·.beginFrame now)).CarriesOn begun := ⟨.refl _, rfl, rfl⟩
  have ready : begun.Barred := barred.carriesOn ((carriesOn_beginFrame now e).trans ticks)
  have polled : (begun.pollBarrier p).Barred := by
    refine ready.round (pollBarrier_round p begun) ?_ ?_
    · unfold pollBarrier
      split <;> simp_all
    · unfold pollBarrier
      split <;> rfl
  exact polled.carriesOn (carriesOn_aside (Machine.leads_clearStage _).aside)

theorem Barred.frame (barred : e.Barred) (p : Program κ σ) (now : Nat) :
    (e.frame p now).2.Barred := by
  cases running : e.running with
  | false =>
    rw [frame_halted p now running]
    exact barred.carriesOn (carriesOn_beginFrame now e)
  | true =>
    rw [frame_running p now running]
    exact (barred.polledAt p now).carriesOn (carriesOn_afterPolls p _ _)

def opened (now : Nat) (clock : String) (e : Engine κ σ S) : Engine κ σ S :=
  ({ e with running := true, lastTick := some now, startedAt := some clock }.onMachine
    (·.setNow now)).note (.started clock)

theorem start_halted (p : Program κ σ) (now : Nat) (clock : String) (halted : e.running = false)
    (surface : e.machine.surface.isSome) :
    e.start p now clock = (.ok (), ((e.opened now clock).runStartHandlers p).obeyStopRequest) := by
  have present : e.machine.surface.isNone = false := by simpa using surface
  simp only [start, halted, present, Bool.false_eq_true, if_false]
  rfl

def startPass (p : Program κ σ) (e : Engine κ σ S) : List (Waiting κ) × Machine κ σ S :=
  Machine.startPass p e.tasksMade e.context.handlers.start
    (e.machine.onHandlers fun _ => e.context.handlers.takeStart.2)

theorem runStartHandlers_due (p : Program κ σ) (e : Engine κ σ S)
    (handlers : e.barrier.isSome → e.context.handlers.start ≠ []) :
    (e.runStartHandlers p).due = (e.startPass p).1.map (·.serial) := by
  cases table : e.context.handlers.start with
  | nil =>
    have down : e.barrier = none := by
      cases up : e.barrier with
      | none => rfl
      | some tasks => exact absurd table (handlers (by simp [up]))
    simp [due, runStartHandlers, startPass, Handlers.takeStart, table, down, Machine.startPass]
  | cons h rest => simp [due, runStartHandlers, startPass, Handlers.takeStart, table]

theorem runStartHandlers_opening (p : Program κ σ) (e : Engine κ σ S)
    (handlers : e.barrier.isSome → e.context.handlers.start ≠ []) :
    ∃ news made, (e.runStartHandlers p).machine.journal = e.machine.journal ++ news ∧
      Opening (e.context.handlers.start.map (·.ticket)) (e.runStartHandlers p).due news ∧
      (e.runStartHandlers p).due = List.range' e.tasksMade made ∧
      (e.runStartHandlers p).tasksMade = e.tasksMade + made ∧
      ((e.runStartHandlers p).barrier.isSome →
        (e.runStartHandlers p).context.handlers.start ≠ []) := by
  have due := runStartHandlers_due p e handlers
  obtain ⟨news, journal, opening⟩ := (Machine.startPass_opening p e.tasksMade
    e.context.handlers.start (e.machine.onHandlers fun _ => e.context.handlers.takeStart.2)).journal
  refine ⟨news, (e.startPass p).1.length, journal, due ▸ opening, ?_, rfl, ?_⟩
  · exact due.trans (Machine.startPass_serials ..)
  · intro up none
    have empty : e.context.handlers.start = [] := (List.append_eq_nil_iff.mp none).1
    have old : e.barrier.isSome := by
      simpa [runStartHandlers, Handlers.takeStart, empty] using up
    exact handlers old empty

theorem Barred.start (barred : e.Barred) (p : Program κ σ) (now : Nat) (clock : String) :
    (e.start p now clock).2.Barred := by
  cases running : e.running with
  | true => simpa [Engine.start, running] using barred
  | false =>
    cases surface : e.machine.surface with
    | none =>
      have refused := barred.carriesOn (carriesOn_note .surfaceMissing rfl)
      simpa [Engine.start, running, surface] using refused
    | some =>
      obtain ⟨news, made, journal, opening, serials, tasksMade, handlers⟩ :=
        runStartHandlers_opening p (e.opened now clock) barred.handlers
      have grown : ((e.opened now clock).runStartHandlers p).machine.journal =
          e.machine.journal ++ .notice (.started clock) :: news := by
        rw [journal]
        exact List.append_assoc ..
      have ran : ((e.opened now clock).runStartHandlers p).Barred :=
        barred.opening made grown rfl opening serials tasksMade handlers
      rw [start_halted p now clock running (by simp [surface])]
      exact ran.carriesOn (carriesOn_obeyStopRequest _)

theorem Barred.step (barred : e.Barred) (p : Program κ σ) (call : HostCall κ σ S) :
    (e.step p call).2.Barred := by
  cases call with
  | attach surface => exact barred.carriesOn (carriesOn_attach surface e)
  | setDisplay display => exact barred.carriesOn (carriesOn_aside (Machine.leads_onInput _))
  | start now clock => exact barred.start p now clock
  | stop => exact barred.carriesOn (carriesOn_stop e)
  | reset => exact barred.reset
  | frame now => exact barred.frame p now
  | input event => exact barred.carriesOn (carriesOn_handleInput p event e)
  | script script => exact barred.carriesOn (carriesOn_runScript script e)

theorem Reachable.barred {p : Program κ σ} (reached : Reachable p e) : e.Barred := by
  induction reached with
  | new settings present memory => exact barred_new settings present memory
  | step reached call ih => exact ih.step p call

end SpriteStage.Engine
