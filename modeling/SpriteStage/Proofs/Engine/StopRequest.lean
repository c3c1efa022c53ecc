import Mathlib.Data.List.Induction
import SpriteStage.Proofs.Engine.Steady

/-! What becomes of stop requests. A request is followed at the end of a call that brings handlers
to their turn: a start, a frame in which the program plays, a key stroke. Where a handler fails, or
where the barrier or a prompt ends the frame, the request stays open, and it stops the engine at the
next such end, be it after another start. -/

namespace SpriteStage

section Requests
variable {κ σ S : Type}

def Happening.isStopRequest : Happening κ σ → Bool
  | .called .requestStop _ => true
  | _ => false

def Journal.asksToStop (news : List (Happening κ σ)) : Bool := news.any (·.isStopRequest)

theorem Happening.isStopRequest_plain {happening : Happening κ σ} (plain : happening.isPlain) :
    happening.isStopRequest = false := by
  cases happening with
  | called => simp [isPlain] at plain
  | _ => rfl

theorem Journal.asksToStop_plain {news : List (Happening κ σ)}
    (plain : ∀ happening ∈ news, happening.isPlain) : asksToStop news = false := by
  refine List.any_eq_false.mpr fun happening member => ?_
  simp [Happening.isStopRequest_plain (plain happening member)]

def Aspect.stopRequest : Aspect κ σ Bool where
  read c := c.stopRequested
  step before happening after := after = (before || happening.isStopRequest)

namespace Aspect

theorem stopRequest_arranged [Surface S] : (stopRequest (κ := κ) (σ := σ)).Arranged S where
  reads same := congrArg Arrangement.stopRequested same
  plain state happening plain := by simp [stopRequest, Happening.isStopRequest_plain plain]
  idle c m idle := by
    cases c with
    | requestStop => cases idle
    | _ => exact (Bool.or_false _).symm
  arranges c m arranges := by
    cases c with
    | requestStop => simp [stopRequest, Machine.effect, Machine.onContext, Happening.isStopRequest]
    | removeFigure figure =>
      simp only [stopRequest, Machine.effect, Machine.withContext, Context.removeFigure]
      split <;> simp [Happening.isStopRequest]
    | createFigure | onStart | onFrame | onKey | onCollision => exact (Bool.or_false _).symm
    | _ => cases arranges

theorem stopRequest_history {before after : Bool} {news : List (Happening κ σ)}
    (history : stopRequest.History before news after) :
    after = (before || Journal.asksToStop news) := by
  induction history with
  | nil state => exact (Bool.or_false state).symm
  | cons step rest ih =>
    rw [ih, show _ = _ from step, Bool.or_assoc]
    rfl

end Aspect
end Requests

/-- Handlers can have their turn in the call. -/
def HostCall.isTurn {κ σ S : Type} : HostCall κ σ S → Bool
  | .start .. | .frame _ | .input _ => true
  | _ => false

def HostCall.isReset {κ σ S : Type} : HostCall κ σ S → Bool
  | .reset => true
  | _ => false

def HostReply.isOk : HostReply → Bool
  | .none => true
  | .started result => result.isOk
  | .framed result => result.isOk
  | .handled result => result.isOk
  | .ran result => result.isOk

namespace Engine
open Journal
variable {κ σ S : Type}

theorem obeyStopRequest_running (e : Engine κ σ S) :
    e.obeyStopRequest.running = (e.running && !e.context.stopRequested) := by
  cases requested : e.context.stopRequested with
  | false => simp [obeyStopRequest_none requested]
  | true => simp [obeyStopRequest_requested requested]

theorem obeyStopRequest_stopRequested (e : Engine κ σ S) :
    e.obeyStopRequest.context.stopRequested = false := by
  cases requested : e.context.stopRequested with
  | false => rwa [obeyStopRequest_none requested]
  | true =>
    rw [obeyStopRequest_requested requested]
    exact congrArg Arrangement.stopRequested (idles_stop e.heard).arrangement

theorem obeyStopRequest_journal (e : Engine κ σ S) : ∃ news,
    e.obeyStopRequest.machine.journal = e.machine.journal ++ news ∧ asksToStop news = false := by
  cases requested : e.context.stopRequested with
  | false => exact ⟨[], by simp [obeyStopRequest_none requested], rfl⟩
  | true =>
    obtain ⟨news, journal, plain⟩ := (idles_stop e.heard).journal
    exact ⟨news, by rw [obeyStopRequest_requested requested]; exact journal, asksToStop_plain plain⟩

variable [Surface S] {p : Program κ σ} {e : Engine κ σ S}

theorem steady_stopRequest (p : Program κ σ) :
    Steady p (Aspect.stopRequest.Follows (κ := κ) (σ := σ) (S := S)) :=
  .of_arranged Aspect.stopRequest_arranged (fun _ _ => rfl)
    (fun _ id _ _ _ => ⟨[.collided id], rfl, .cons (Bool.or_false _).symm (.nil _)⟩)
    fun _ _ _ => rfl

def plays (p : Program κ σ) (e : Engine κ σ S) : HostCall κ σ S → Bool
  | .start .. => !e.running
  | .frame now =>
    e.running && !((e.polledAt p now).barrier.isSome || (e.polledAt p now).promptActive)
  | .input event => (e.keyOf event).isSome
  | _ => false

/-- Handlers have their turn in the call and none fails, so it ends with a look at stop requests. -/
def hears (p : Program κ σ) (e : Engine κ σ S) (call : HostCall κ σ S) : Bool :=
  e.plays p call && (e.step p call).1.isOk

/-- Whether the engine is running at the end of a call if nobody stops it. -/
def runsOn (e : Engine κ σ S) : HostCall κ σ S → Bool
  | .start .. => true
  | _ => e.running

theorem polledAt_running (p : Program κ σ) (now : Nat) (e : Engine κ σ S) :
    (e.polledAt p now).running = e.running := by
  simp only [polledAt, pollBarrier, onMachine]
  split <;> rfl

theorem hears_step {call : HostCall κ σ S} (hears : e.hears p call) :
    ∃ ended : Engine κ σ S, Aspect.stopRequest.Follows e.machine ended.machine ∧
      ended.running = e.runsOn call ∧ (e.step p call).2 = ended.obeyStopRequest := by
  obtain ⟨plays, ok⟩ := Bool.and_eq_true_iff.mp hears
  cases call with
  | start now clock =>
    have halted : e.running = false := by simpa [Engine.plays] using plays
    cases surface : e.machine.surface with
    | none => simp [Engine.step, Engine.start, halted, surface, HostReply.isOk, Except.isOk,
        Except.toBool] at ok
    | some =>
      refine ⟨_, (steady_stopRequest p).launched now clock e, rfl, ?_⟩
      exact congrArg Prod.snd (start_halted p now clock halted (by simp [surface]))
  | frame now =>
    simp only [Engine.plays, Bool.and_eq_true, Bool.not_eq_true', Bool.or_eq_false_iff] at plays
    obtain ⟨running, down, hidden⟩ := plays
    have played := frame_playing p now running down hidden
    have ending := (steady_stopRequest p).playFrame (e.elapsedAt now) (e.polledAt p now)
    obtain ⟨ended, ran, running, same⟩ := (played ▸ ending).of_ok ok
    have polled := (steady_stopRequest p).polledAt now e
    exact ⟨ended, polled.trans ran, running.trans (polledAt_running p now e), same⟩
  | input event =>
    obtain ⟨key, brings⟩ := Option.isSome_iff_exists.mp plays
    have ending := (steady_stopRequest p).dispatch key e
    exact (handleInput_some brings ▸ ending).of_ok ok
  | attach | setDisplay | stop | reset | script => cases plays

theorem fails_of_plays {call : HostCall κ σ S} (deaf : e.hears p call = false)
    (plays : e.plays p call) : (e.step p call).1.isOk = false := by
  simpa [hears, plays] using deaf

/-- What becomes of stop requests in a call that does not look at them: they stay open. -/
structure Unheard (e : Engine κ σ S) (call : HostCall κ σ S) (reply : HostReply)
    (after : Engine κ σ S) : Prop where
  follows : Aspect.stopRequest.Follows e.machine after.machine
  running : call.isTurn → after.running = (e.running && reply.isOk)

theorem unheard_start {now : Nat} {clock : String}
    (deaf : e.hears p (.start now clock) = false) :
    e.Unheard (.start now clock) (e.step p (.start now clock)).1
      (e.step p (.start now clock)).2 := by
  have steady := steady_stopRequest (S := S) p
  cases running : e.running with
  | true =>
    have same : e.start p now clock = (.ok (), e) := if_pos running
    simp only [Engine.step, same]
    exact ⟨.refl _, fun _ => (Bool.and_true _).symm⟩
  | false =>
    cases surface : e.machine.surface with
    | none =>
      have same : e.start p now clock = (.error .surfaceMissing, e.note .surfaceMissing) := by
        simp [Engine.start, running, surface]
      simp only [Engine.step, same]
      exact ⟨steady.idles (Machine.idles_record rfl),
        fun _ => running.trans (Bool.and_false _).symm⟩
    | some =>
      have started := start_halted p now clock running (by simp [surface])
      simp [hears, plays, running, Engine.step, started, HostReply.isOk, Except.isOk,
        Except.toBool] at deaf

theorem unheard_frame {now : Nat} (deaf : e.hears p (.frame now) = false) :
    e.Unheard (.frame now) (e.step p (.frame now)).1 (e.step p (.frame now)).2 := by
  have steady := steady_stopRequest (S := S) p
  -- tasks may ask before anything decides how the frame goes on
  have polled := steady.polledAt now e
  cases running : e.running with
  | false =>
    simp only [Engine.step, frame_halted p now running]
    exact ⟨steady.idles (Machine.idles_beginFrame now _), fun _ => by simp [running, onMachine]⟩
  | true =>
    by_cases rests : (e.polledAt p now).barrier.isSome ∨ (e.polledAt p now).promptActive
    · obtain ⟨m, same, idles⟩ := idles_afterPolls p (e.elapsedAt now) rests
      simp only [Engine.step, frame_running p now running, same]
      refine ⟨polled.trans (steady.idles idles), fun _ => ?_⟩
      exact (polledAt_running p now e).trans (Bool.and_true _).symm
    · obtain ⟨down, hidden⟩ := not_or.mp rests
      have played := frame_playing p now running (by simpa using down) (by simpa using hidden)
      have failed : (e.frame p now).1.isOk = false := by
        have plays : e.plays p (.frame now) := by simpa [plays, running] using rests
        exact fails_of_plays deaf plays
      have ending := steady.playFrame (e.elapsedAt now) (e.polledAt p now)
      obtain ⟨ran, halted⟩ := steady.of_error (played ▸ ending) failed
      refine ⟨polled.trans ran, fun _ => halted.trans ?_⟩
      simp [Engine.step, HostReply.isOk, failed]

theorem unheard_input {event : InputEvent} (deaf : e.hears p (.input event) = false) :
    e.Unheard (.input event) (e.step p (.input event)).1 (e.step p (.input event)).2 := by
  have steady := steady_stopRequest (S := S) p
  cases brings : e.keyOf event with
  | none =>
    obtain ⟨⟨outcome, reply⟩, idles, running⟩ := unmoved_handleInput (p := p) brings
    refine ⟨steady.idles idles, fun _ => running.trans ?_⟩
    simp [Engine.step, reply, HostReply.isOk, Except.isOk, Except.toBool]
  | some key =>
    have failed : (e.handleInput p event).1.isOk = false := by
      have plays : e.plays p (.input event) := by simp [plays, brings]
      exact fails_of_plays deaf plays
    have ending := steady.dispatch key e
    obtain ⟨ran, halted⟩ := steady.of_error (handleInput_some brings ▸ ending) failed
    refine ⟨ran, fun _ => halted.trans ?_⟩
    simp [Engine.step, HostReply.isOk, failed]

theorem unheard_step {call : HostCall κ σ S} (deaf : e.hears p call = false)
    (kept : call.isReset = false) :
    e.Unheard call (e.step p call).1 (e.step p call).2 := by
  have steady := steady_stopRequest (S := S) p
  cases call with
  | attach surface => exact ⟨steady.idles (idles_attach surface e), nofun⟩
  | setDisplay display => exact ⟨.of_same rfl rfl, nofun⟩
  | stop => exact ⟨steady.idles (idles_stop e), nofun⟩
  | script script => exact ⟨steady.run script e.machine, nofun⟩
  | reset => cases kept
  | start => exact unheard_start deaf
  | frame => exact unheard_frame deaf
  | input => exact unheard_input deaf

/-- After the call no stop request is open, whoever made one. -/
def settles (p : Program κ σ) (e : Engine κ σ S) (call : HostCall κ σ S) : Bool :=
  e.hears p call || call.isReset

/-- Scripts that ask to stop leave a request open, which a call that hears it or a reset closes. -/
theorem stopRequested_step (p : Program κ σ) (e : Engine κ σ S) (call : HostCall κ σ S) :
    (e.step p call).2.context.stopRequested =
      (!e.settles p call && (e.context.stopRequested || asksToStop (e.news p call))) := by
  cases hears : e.hears p call with
  | true =>
    obtain ⟨ended, _, _, same⟩ := hears_step hears
    rw [same, obeyStopRequest_stopRequested]
    simp [settles, hears]
  | false =>
    cases reset : call.isReset with
    | true =>
      cases call with
      | reset => rfl
      | _ => cases reset
    | false =>
      obtain ⟨news, journal, history⟩ := (unheard_step hears reset).follows
      rw [news_eq journal]
      simp only [settles, hears, reset, Bool.or_self, Bool.not_false, Bool.true_and]
      exact Aspect.stopRequest_history history

theorem hears_running {call : HostCall κ σ S} (hears : e.hears p call) :
    (e.step p call).2.running =
      (e.runsOn call && !(e.context.stopRequested || asksToStop (e.news p call))) := by
  obtain ⟨ended, ⟨news, journal, history⟩, running, same⟩ := hears_step hears
  obtain ⟨rest, restJournal, quiet⟩ := obeyStopRequest_journal ended
  have grown : (e.step p call).2.machine.journal = e.machine.journal ++ (news ++ rest) := by
    rw [same, restJournal, journal, List.append_assoc]
  have asked : asksToStop (e.news p call) = asksToStop news := by
    rw [news_eq grown, asksToStop, List.any_append]
    exact (congrArg _ quiet).trans (Bool.or_false _)
  rw [same, obeyStopRequest_running, running, asked]
  exact congrArg (e.runsOn call && !·) (Aspect.stopRequest_history history)

/-- Scripts asked to stop in a call that did not look at stop requests, and no call has done so
since, nor was there a reset. -/
def Stranded (p : Program κ σ) (start : Engine κ σ S) (calls : List (HostCall κ σ S)) : Prop :=
  ∃ before call later, calls = before ++ call :: later ∧
    asksToStop ((start.after p before).news p call) ∧
    (start.after p before).settles p call = false ∧
    ∀ early next late, later = early ++ next :: late →
      (start.after p (before ++ call :: early)).settles p next = false

theorem stranded_concat (p : Program κ σ) (start : Engine κ σ S) (calls : List (HostCall κ σ S))
    (call : HostCall κ σ S) : Stranded p start (calls ++ [call]) ↔
      (start.after p calls).settles p call = false ∧
        (Stranded p start calls ∨ asksToStop ((start.after p calls).news p call)) := by
  constructor
  · rintro ⟨before, asked, later, same, asks, deaf, quiet⟩
    -- the stranded request is of the last call, or of a call before it
    rcases List.eq_nil_or_concat later with rfl | ⟨later, last, rfl⟩
    · obtain ⟨rfl, only⟩ := List.append_inj' same rfl
      rw [List.singleton_inj.mp only]
      exact ⟨deaf, .inr asks⟩
    · rw [List.concat_eq_append] at same quiet
      rw [← List.cons_append, ← List.append_assoc] at same
      obtain ⟨rfl, only⟩ := List.append_inj' same rfl
      rw [List.singleton_inj.mp only]
      refine ⟨quiet later last [] rfl, .inl ⟨before, asked, later, rfl, asks, deaf, ?_⟩⟩
      intro early next late split
      exact quiet early next (late ++ [last]) (by simp [split])
  · rintro ⟨deaf, ⟨before, asked, later, rfl, asks, ignored, quiet⟩ | asks⟩
    · refine ⟨before, asked, later ++ [call], by simp, asks, ignored, ?_⟩
      intro early next late split
      rcases List.eq_nil_or_concat late with rfl | ⟨late, last, rfl⟩
      · obtain ⟨rfl, only⟩ := List.append_inj' split rfl
        rwa [← List.singleton_inj.mp only]
      · rw [List.concat_eq_append, ← List.cons_append, ← List.append_assoc] at split
        obtain ⟨rfl, -⟩ := List.append_inj' split rfl
        exact quiet early next late rfl
    · exact ⟨calls, call, [], rfl, asks, deaf, by simp⟩

theorem stopRequested_iff_stranded (p : Program κ σ) (settings : Settings)
    (present : String → Bool) (memory : σ) (calls : List (HostCall κ σ S)) :
    ((new settings present memory).after p calls).context.stopRequested ↔
      Stranded p (new settings present memory) calls := by
  induction calls using List.reverseRecOn with
  | nil => simp [Stranded, Engine.after, new, context, Machine.new, Context.new]
  | append_singleton calls call ih =>
    rw [after_concat, stopRequested_step, stranded_concat, ← ih]
    simp

/-- What becomes of stop requests in a call, on an engine that has one open or not. -/
structure Heeds (p : Program κ σ) (e : Engine κ σ S) (call : HostCall κ σ S) : Prop where
  heard : e.hears p call → (e.step p call).2.context.stopRequested = false ∧
    (e.step p call).2.running =
      (e.runsOn call && !(e.context.stopRequested || asksToStop (e.news p call)))
  unheard : e.settles p call = false → (e.step p call).2.context.stopRequested =
    (e.context.stopRequested || asksToStop (e.news p call))
  ignored : e.settles p call = false → call.isTurn →
    (e.step p call).2.running = (e.running && (e.step p call).1.isOk)
  asked : call.isTurn → asksToStop (e.news p call) →
    ((e.step p call).2.running = false ∧ (e.step p call).2.context.stopRequested = false ↔
      e.hears p call)

theorem heeds (p : Program κ σ) (e : Engine κ σ S) (call : HostCall κ σ S) : e.Heeds p call where
  heard hears := by
    rw [stopRequested_step, hears_running hears]
    simp [settles, hears]
  unheard deaf := by simp [stopRequested_step, deaf]
  ignored deaf turn := by
    obtain ⟨silent, kept⟩ := Bool.or_eq_false_iff.mp deaf
    exact (unheard_step silent kept).running turn
  asked turn asks := by
    have kept : call.isReset = false := by
      cases call with
      | reset => cases turn
      | _ => rfl
    cases hears : e.hears p call with
    | true => simp [stopRequested_step, hears_running hears, settles, hears, asks]
    | false => simp [stopRequested_step, settles, hears, kept, asks]

/-- In every run, a stop request is followed in the call in which a script makes it if that call
hears it; otherwise it stays open, and a start in which nobody asks leaves the engine running
exactly if no request of an earlier call is left over. -/
theorem stop_requests_exact (p : Program κ σ) (settings : Settings) (present : String → Bool)
    (memory : σ) (calls : List (HostCall κ σ S)) :
    let start : Engine κ σ S := new settings present memory
    let e := start.after p calls
    (e.context.stopRequested ↔ Stranded p start calls) ∧ (∀ call, e.Heeds p call) ∧
      ∀ now clock, e.hears p (.start now clock) →
        asksToStop (e.news p (.start now clock)) = false →
        ((e.start p now clock).2.running ↔ ¬ Stranded p start calls) := by
  intro start e
  have stranded := stopRequested_iff_stranded p settings present memory calls
  refine ⟨stranded, heeds p e, fun now clock hears quiet => ?_⟩
  have running := ((heeds p e _).heard hears).2
  rw [← stranded, show (e.start p now clock).2.running = _ from running, quiet]
  simp [runsOn, e, start]

def hasty : Program Unit Unit where
  onStart _ := return none
  onFrame _ _ := do
    Script.perform .requestStop
    .fail ⟨"lost"⟩
  onKey _ := return ()
  onCollision _ := return ()
  onSettled _ _ := return ()
  onPoll _ := return .done

def hastyStage : Engine Unit Unit RecordingSurface :=
  let register : Script Unit Unit Unit := do
    let _ ← Script.perform (.onFrame ())
  (new .standard (fun _ => false) ()).after hasty
    [.attach (.ofSize 640 480), .script register, .start 0 "12:00:00"]

/-- The request of a handler that fails is left over, and it stops the next start, in which nobody
asks. -/
theorem failed_frame_leaves_request :
    let failed := hastyStage.after hasty [.frame 16]
    asksToStop (hastyStage.news hasty (.frame 16)) ∧ failed.context.stopRequested ∧
      asksToStop (failed.news hasty (.start 32 "12:00:01")) = false ∧
      (failed.start hasty 32 "12:00:01").2.running = false :=
  ⟨by rfl, by rfl, by rfl, by rfl⟩

end Engine
end SpriteStage
