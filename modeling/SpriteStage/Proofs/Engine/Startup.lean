import SpriteStage.Proofs.Engine.Barrier
import SpriteStage.Surface.Recording

namespace SpriteStage.Engine
open Journal
variable {κ σ S : Type}

theorem CarriesOn.tally {before after : Engine κ σ S} (carries : before.CarriesOn after) :
    ∃ news, after.machine.journal = before.machine.journal ++ news ∧ Tally [] [] news := by
  obtain ⟨news, journal, kinds⟩ := carries.machine.journal
  exact ⟨news, journal, .of_neutral fun happening member => (kinds happening member).1⟩

theorem reset_tally (e : Engine κ σ S) :
    ∃ news, e.reset.machine.journal = e.machine.journal ++ news ∧ Tally [] [] news := by
  obtain ⟨news, journal, tally⟩ := (carriesOn_stop e).tally
  have forgets : Tally [] [] [(.notice .reset : Happening κ σ)] := ⟨rfl, rfl, List.nil_sublist _⟩
  refine ⟨news ++ [.notice .reset], ?_, tally.append forgets⟩
  rw [← List.append_assoc, ← journal]
  rfl

/-- The startup handlers that a call runs: all there are, if it starts a program that is halted. -/
def launches (e : Engine κ σ S) : HostCall κ σ S → List Nat
  | .start .. =>
    if !e.running && e.machine.surface.isSome then e.context.handlers.start.map (·.ticket) else []
  | _ => []

/-- The tasks that a call polls: those that are owed, if it is a frame of a running program. -/
def asks (e : Engine κ σ S) : HostCall κ σ S → List Nat
  | .frame _ => if e.running then owed e.machine.journal else []
  | _ => []

theorem Barred.asks_owed {e : Engine κ σ S} (barred : e.Barred) (call : HostCall κ σ S) :
    (e.asks call).Sublist e.due := by
  unfold asks
  split
  · split
    · exact barred.waits ▸ .refl _
    · exact List.nil_sublist _
  · exact List.nil_sublist _

variable [Surface S] {p : Program κ σ} {e : Engine κ σ S}

def news (p : Program κ σ) (e : Engine κ σ S) (call : HostCall κ σ S) : List (Happening κ σ) :=
  (e.step p call).2.machine.journal.drop e.machine.journal.length

/-- What startup handlers and their tasks can rely on. -/
structure StartupHeld (p : Program κ σ) (e : Engine κ σ S) : Prop where
  settled : ∀ before play later, e.machine.journal = before ++ play :: later → play.isPlay →
    ∀ task, .promised task ∈ sinceStart before → .answered task ∈ sinceStart before
  numbered : (promises e.machine.journal).Pairwise (· < ·)
  grows : ∀ call, (e.step p call).2.machine.journal = e.machine.journal ++ e.news p call
  launched : ∀ call, starters (e.news p call) = e.launches call
  polled : ∀ call, polls (e.news p call) = e.asks call
  once : ∀ call, (e.asks call).Nodup
  answered : ∀ call, (answers (e.news p call)).Sublist (e.asks call)
  spent : ∀ call task, .answered task ∈ e.machine.journal → task ∉ e.asks call
  /-- Handlers that end or fail hold nothing up: no more tasks are owed after a start than there are
  handlers that can leave one. -/
  left : ∀ now clock (leaves : Registered κ → Bool), e.running = false →
    e.machine.surface.isSome → (∀ h ∈ e.context.handlers.start, ∀ (m : Machine κ σ S) task,
      ((p.onStart h.handler).run m).1 = .ok (some task) → leaves h) →
    (owed (e.step p (.start now clock)).2.machine.journal).length ≤
      e.context.handlers.start.countP leaves
  released : ∀ now, e.running → ((e.step p (.frame now)).2.barrier = none ↔
    owed (e.step p (.frame now)).2.machine.journal = [])
  resumes : ∀ now h, e.running → owed (e.step p (.frame now)).2.machine.journal = [] →
    (e.polledAt p now).promptActive = false →
    (e.polledAt p now).context.handlers.frame.head? = some h →
    (e.polledAt p now).machine.journal ++ [.framed h.ticket (e.elapsedAt now)] <+:
      (e.step p (.frame now)).2.machine.journal

theorem Barred.start_tally (barred : e.Barred) (p : Program κ σ) (now : Nat) (clock : String) :
    ∃ news, (e.start p now clock).2.machine.journal = e.machine.journal ++ news ∧
      Tally (e.launches (.start now clock)) [] news := by
  cases running : e.running with
  | true =>
    have still := (CarriesOn.refl e).tally
    simpa [Engine.start, launches, running] using still
  | false =>
    cases surface : e.machine.surface with
    | none =>
      have refused := (carriesOn_note (e := e) .surfaceMissing rfl).tally
      simpa [Engine.start, launches, running, surface] using refused
    | some =>
      obtain ⟨news, made, journal, opening, _⟩ :=
        runStartHandlers_opening p (e.opened now clock) barred.handlers
      obtain ⟨late, lateJournal, lateTally⟩ :=
        (carriesOn_obeyStopRequest ((e.opened now clock).runStartHandlers p)).tally
      have launched : Tally (e.context.handlers.start.map (·.ticket)) [] news := opening.toTally
      have opens : Tally [] [] [(.notice (.started clock) : Happening κ σ)] :=
        ⟨rfl, rfl, List.nil_sublist _⟩
      rw [start_halted p now clock running (by simp [surface])]
      refine ⟨[.notice (.started clock)] ++ news ++ late, ?_, ?_⟩
      · rw [lateJournal, journal]
        simp [opened, note, onMachine, Machine.note, Machine.record, Machine.setNow,
          Machine.onContext]
      · simpa [launches, running, surface] using
          (opens.append launched).append lateTally

/-- A frame of a running program is a round of polls, whatever else happens in it. -/
theorem frame_round (p : Program κ σ) (now : Nat) (running : e.running) :
    ∃ news, (e.frame p now).2.machine.journal = e.machine.journal ++ news ∧
      Round e.due (e.frame p now).2.due news := by
  let begun : Engine κ σ S := { e.onMachine (·.beginFrame now) with lastTick := some now }
  have clears : (begun.pollBarrier p).CarriesOn (e.polledAt p now) :=
    carriesOn_aside (Machine.leads_clearStage _).aside
  have rest := clears.trans (carriesOn_afterPolls p (e.elapsedAt now) (e.polledAt p now))
  obtain ⟨early, earlyJournal, earlyKinds⟩ := (carriesOn_beginFrame now e).machine.journal
  obtain ⟨polled, journal, round⟩ := (pollBarrier_round p begun).journal
  obtain ⟨late, lateJournal, lateKinds⟩ := rest.machine.journal
  rw [frame_running p now running]
  refine ⟨early ++ polled ++ late, ?_, ?_⟩
  · rw [lateJournal, journal, ← List.append_assoc, ← List.append_assoc, ← earlyJournal]
  · rw [rest.due]
    exact round.toRound.between (fun happening member => (earlyKinds happening member).1)
      fun happening member => (lateKinds happening member).1

theorem Barred.step_tally (barred : e.Barred) (p : Program κ σ) (call : HostCall κ σ S) :
    ∃ news, (e.step p call).2.machine.journal = e.machine.journal ++ news ∧
      Tally (e.launches call) (e.asks call) news := by
  cases call with
  | attach surface => exact (carriesOn_attach surface e).tally
  | setDisplay display => exact (carriesOn_aside (Machine.leads_onInput _)).tally
  | start now clock => exact barred.start_tally p now clock
  | stop => exact (carriesOn_stop e).tally
  | reset => exact reset_tally e
  | frame now =>
    cases running : e.running with
    | false =>
      have begins := (carriesOn_beginFrame now e).tally
      simpa [Engine.step, launches, asks, running, frame_halted p now running] using begins
    | true =>
      obtain ⟨news, journal, round⟩ := frame_round p now running
      refine ⟨news, journal, ?_⟩
      simpa [launches, asks, running, barred.waits] using round.toTally
  | input event => exact (carriesOn_handleInput p event e).tally
  | script script => exact (carriesOn_runScript script e).tally

theorem news_eq {call : HostCall κ σ S} {news : List (Happening κ σ)}
    (journal : (e.step p call).2.machine.journal = e.machine.journal ++ news) :
    e.news p call = news := by
  simp [Engine.news, journal]

theorem Barred.news_tally (barred : e.Barred) (p : Program κ σ) (call : HostCall κ σ S) :
    Tally (e.launches call) (e.asks call) (e.news p call) := by
  obtain ⟨news, journal, tally⟩ := barred.step_tally p call
  exact news_eq journal ▸ tally

theorem Barred.owed_length_le (barred : e.Barred) (p : Program κ σ) (now : Nat) (clock : String)
    (leaves : Registered κ → Bool) (halted : e.running = false)
    (surface : e.machine.surface.isSome)
    (known : ∀ h ∈ e.context.handlers.start, ∀ (m : Machine κ σ S) task,
      ((p.onStart h.handler).run m).1 = .ok (some task) → leaves h) :
    (owed (e.start p now clock).2.machine.journal).length ≤
      e.context.handlers.start.countP leaves := by
  have due := runStartHandlers_due p (e.opened now clock) barred.handlers
  rw [(barred.start p now clock).waits, start_halted p now clock halted surface,
    (carriesOn_obeyStopRequest _).due, due, List.length_map]
  exact Machine.startPass_length_le p e.tasksMade e.context.handlers.start _ leaves known

theorem polledAt_barrier (p : Program κ σ) (now : Nat) (e : Engine κ σ S) :
    (e.polledAt p now).barrier = none ↔ (e.polledAt p now).due = [] := by
  let begun : Engine κ σ S := { e.onMachine (·.beginFrame now) with lastTick := some now }
  have up := pollBarrier_isSome p begun
  rw [← Option.not_isSome_iff_eq_none]
  exact (not_congr up).trans not_not

theorem Barred.released (barred : e.Barred) (p : Program κ σ) (now : Nat) (running : e.running) :
    (e.polledAt p now).barrier = none ↔ owed (e.frame p now).2.machine.journal = [] := by
  rw [(barred.frame p now).waits, frame_running p now running, (carriesOn_afterPolls ..).due]
  exact polledAt_barrier p now e

theorem playFrame_first (p : Program κ σ) (elapsed : Float32) (down : e.barrier = none)
    {h : Registered κ} (first : e.context.handlers.frame.head? = some h) :
    e.machine.journal ++ [.framed h.ticket elapsed] <+:
      (e.playFrame p elapsed).2.machine.journal := by
  obtain ⟨rest, table⟩ := List.head?_eq_some_iff.mp first
  exact (Machine.runFrameHandlers_first p elapsed table).trans
    (carriesOn_framed p elapsed down).machine.grows

/-- Startup handlers are settled before the program plays, in every run. -/
theorem Reachable.startupHeld (reached : Reachable p e) : e.StartupHeld p where
  settled before play later same plays :=
    owed_eq_nil_iff.mp (reached.barred.settled before play later same plays)
  numbered := reached.barred.numbered
  grows call := by
    obtain ⟨news, journal, _⟩ := reached.barred.step_tally p call
    rw [journal, news_eq journal]
  launched call := (reached.barred.news_tally p call).starters
  polled call := (reached.barred.news_tally p call).polls
  once call := reached.barred.due_nodup.sublist (reached.barred.asks_owed call)
  answered call := (reached.barred.news_tally p call).answers
  spent call task answered asked :=
    (reached.barred.spent task (mem_answers.mpr answered)).2
      ((reached.barred.asks_owed call).subset asked)
  left now clock leaves halted surface known :=
    reached.barred.owed_length_le p now clock leaves halted surface known
  released now running := by
    have kept : (e.frame p now).2.barrier = (e.polledAt p now).barrier := by
      rw [frame_running p now running]
      exact (carriesOn_afterPolls ..).barrier
    exact (Eq.congr_left kept).trans (reached.barred.released p now running)
  resumes now h running owed idle first := by
    have down := (reached.barred.released p now running).mpr owed
    have plays : e.frame p now = (e.polledAt p now).playFrame p (e.elapsedAt now) := by
      rw [frame_running p now running, afterPolls, down, idle]
      rfl
    have goesOn := playFrame_first p (e.elapsedAt now) down first
    change _ <+: (e.frame p now).2.machine.journal
    rw [plays]
    exact goesOn

theorem after_append (p : Program κ σ) (e : Engine κ σ S) (calls later : List (HostCall κ σ S)) :
    e.after p (calls ++ later) = (e.after p calls).after p later := List.foldl_append

theorem after_concat (p : Program κ σ) (e : Engine κ σ S) (calls : List (HostCall κ σ S))
    (call : HostCall κ σ S) :
    e.after p (calls ++ [call]) = ((e.after p calls).step p call).2 := by
  simp [Engine.after]

theorem reachable_after (p : Program κ σ) (calls : List (HostCall κ σ S)) {e : Engine κ σ S}
    (reached : Reachable p e) : Reachable p (e.after p calls) := by
  induction calls generalizing e with
  | nil => exact reached
  | cons call rest ih => exact ih (reached.step call)

/-- A program that waits at its start for a value nobody fulfils; its other handlers do nothing. -/
def patient : Program Unit Unit where
  onStart _ := do
    let value ← Script.perform .defer
    return some (.waitFor value)
  onFrame _ _ := return ()
  onKey _ := return ()
  onCollision _ := return ()
  onSettled _ _ := return ()
  onPoll _ := return .done

def patientStage : Engine Unit Unit RecordingSurface :=
  let register : Script Unit Unit Unit := do
    let _ ← Script.perform (.onStart ())
    let _ ← Script.perform (.onKey "a" ())
  (new .standard (fun _ => false) ()).after patient [.attach (.ofSize 640 480), .script register]

theorem reachable_patientStage : Reachable patient patientStage :=
  reachable_after patient _ (.new ..)

theorem awaited_value_is_polled :
    let stage := patientStage.after patient [.start 0 "12:00:00"]
    Reachable patient stage ∧ stage.StartupHeld patient ∧
      polls (stage.news patient (.frame 16)) = [0] := by
  intro stage
  have reached : Reachable patient stage := reachable_after patient _ reachable_patientStage
  have asked : stage.asks (.frame 16) = [0] := by rfl
  have held := reached.startupHeld
  exact ⟨reached, held, (held.polled (.frame 16)).trans asked⟩

end SpriteStage.Engine
