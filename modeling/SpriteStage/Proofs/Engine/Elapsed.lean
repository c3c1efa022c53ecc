import SpriteStage.Proofs.Engine.Invariant
import SpriteStage.Proofs.Engine.KeyHistory
import SpriteStage.Proofs.Engine.Timers

/-! The time between frames. Frames measure from the latest beat: a frame that came while the engine
was running, whichever way it went, or the start that set the engine going. An engine that is
stopped has no beats, and the start that ends the stop is one, so that the time in between is never
measured. -/

namespace SpriteStage

theorem Number.secondsOfNanos_zero : secondsOfNanos 0 = 0 := by decide +kernel

/-- A moment from which the next frame measures. -/
inductive Beat where
  | started (now : Nat)
  | framed (now : Nat)
  deriving DecidableEq, Repr

namespace Beat

def time : Beat → Nat
  | .started now | .framed now => now

/-- Seconds from a beat to a time, none if the clock went back. -/
def secondsTo (now : Nat) (beat : Beat) : Float32 :=
  if now < beat.time then 0 else Number.secondsOfNanos (now - beat.time)

/-- A frame measures the span from the beat before it; a start measures nothing. -/
def spanTo (base : Beat) : Beat → List (Nat × Nat)
  | .started _ => []
  | .framed now => [(base.time, now)]

def spans : List Beat → List (Nat × Nat)
  | base :: next :: rest => base.spanTo next ++ spans (next :: rest)
  | _ => []

theorem spans_concat (past : List Beat) (base next : Beat) :
    spans (past ++ [base] ++ [next]) = spans (past ++ [base]) ++ base.spanTo next := by
  induction past with
  | nil => simp [spans]
  | cons first past ih =>
    cases past with
    | nil => simp [spans]
    | cons second past =>
      simp only [List.cons_append, spans] at ih ⊢
      rw [ih, List.append_assoc]

theorem secondsTo_eq (now : Nat) (beat : Beat) :
    beat.secondsTo now = Number.secondsOfNanos (now - beat.time) := by
  unfold secondsTo
  split
  · rename_i back
    rw [Nat.sub_eq_zero_of_le (Nat.le_of_lt back), Number.secondsOfNanos_zero]
  · rfl

/-- While the clock does not go back, no span begins before the first of the beats, nor ends before
it begins. -/
theorem span_forward {beats : List Beat} (sorted : (beats.map time).Pairwise (· ≤ ·))
    {span : Nat × Nat} (measured : span ∈ spans beats) :
    (∀ first ∈ beats.head?, first.time ≤ span.1) ∧ span.1 ≤ span.2 := by
  induction beats with
  | nil => cases measured
  | cons base rest ih =>
    cases rest with
    | nil => cases measured
    | cons next rest =>
      obtain ⟨least, sorted⟩ := List.pairwise_cons.mp sorted
      have ahead : base.time ≤ next.time := least _ (List.mem_cons_self ..)
      rcases List.mem_append.mp measured with here | later
      · cases next with
        | started now => cases here
        | framed now =>
          obtain rfl := List.mem_singleton.mp here
          exact ⟨by simp, ahead⟩
      · obtain ⟨begins, forward⟩ := ih sorted later
        exact ⟨by simpa using ahead.trans (begins next rfl), forward⟩

theorem spans_apart {beats : List Beat} (sorted : (beats.map time).Pairwise (· ≤ ·)) :
    (spans beats).Pairwise fun earlier later => earlier.2 ≤ later.1 := by
  induction beats with
  | nil => exact .nil
  | cons base rest ih =>
    cases rest with
    | nil => exact .nil
    | cons next rest =>
      have sortedRest := (List.pairwise_cons.mp sorted).2
      cases next with
      | started now => exact ih sortedRest
      | framed now =>
        refine List.pairwise_cons.mpr ⟨fun later measured => ?_, ih sortedRest⟩
        exact (span_forward sortedRest measured).1 _ rfl

end Beat

def Happening.Tells {κ σ : Type} (elapsed : Float32) : Happening κ σ → Prop
  | .framed _ told => told = elapsed
  | _ => True

namespace Happening
variable {κ σ : Type} {elapsed : Float32} {happening : Happening κ σ}

theorem tells_of_isAside (aside : happening.isAside) : happening.Tells elapsed := by
  cases happening with
  | framed => cases aside
  | _ => trivial

theorem tells_of_isReport (report : happening.isReport) : happening.Tells elapsed := by
  cases happening with
  | framed => cases report
  | _ => trivial

end Happening

namespace Machine
variable {κ σ S : Type}

theorem Leads.tells {elapsed : Float32} {before after : Machine κ σ S}
    (leads : before.Leads (·.isRemark) after) : before.Leads (·.Tells elapsed) after :=
  leads.aside.mono fun _ => Happening.tells_of_isAside

variable [Surface S] (p : Program κ σ) (other : κ → Float32 → Script κ σ Unit)

theorem pollAll_onFrame (tasks : List (Waiting κ)) (m : Machine κ σ S) :
    pollAll { p with onFrame := other } tasks m = pollAll p tasks m := by
  induction tasks generalizing m with
  | nil => rfl
  | cons w rest ih =>
    have polled (m : Machine κ σ S) :
        m.pollTask { p with onFrame := other } w.task = m.pollTask p w.task := rfl
    simp only [pollAll, polled, ih]

theorem runCollisions_onFrame (m : Machine κ σ S) :
    m.runCollisions { p with onFrame := other } = m.runCollisions p := by
  unfold runCollisions
  generalize m.context.collisions.ids = ids
  induction ids generalizing m with
  | nil => rfl
  | cons id rest ih =>
    have collided : m.collide { p with onFrame := other } id = m.collide p id := rfl
    simp only [collideAll, collided, ih]

theorem runFrameHandlers_onFrame {elapsed : Float32}
    (agrees : ∀ label, other label elapsed = p.onFrame label elapsed) (m : Machine κ σ S) :
    m.runFrameHandlers { p with onFrame := other } elapsed = m.runFrameHandlers p elapsed := by
  have same : (fun label => other label elapsed) = fun label => p.onFrame label elapsed :=
    funext agrees
  simp only [runFrameHandlers, same]

end Machine

namespace Engine
open Machine
variable {κ σ S : Type}

section Tick
variable {e : Engine κ σ S}

@[simp] theorem stop_lastTick (e : Engine κ σ S) : e.stop.lastTick = e.lastTick := by
  unfold stop
  cases e.running with
  | true => rfl
  | false => rfl

@[simp] theorem obeyStopRequest_lastTick (e : Engine κ σ S) :
    e.obeyStopRequest.lastTick = e.lastTick := by
  unfold obeyStopRequest
  split
  · exact stop_lastTick e.heard
  · rfl

@[simp] theorem halt_lastTick (error : ScriptError) (e : Engine κ σ S) :
    (e.halt error).lastTick = e.lastTick := stop_lastTick _

def beat? (e : Engine κ σ S) : HostCall κ σ S → Option Beat
  | .frame now => if e.running then some (.framed now) else none
  | .start now _ => if !e.running && e.machine.surface.isSome then some (.started now) else none
  | _ => none

theorem beat?_time {call : HostCall κ σ S} {beat : Beat} (beats : e.beat? call = some beat) :
    call.time? = some beat.time := by
  cases call with
  | frame now =>
    obtain ⟨_, rfl⟩ : e.running ∧ .framed now = beat := by simpa [beat?] using beats
    rfl
  | start now clock =>
    obtain ⟨_, rfl⟩ : (e.running = false ∧ e.machine.surface.isSome) ∧ .started now = beat := by
      simpa [beat?] using beats
    rfl
  | _ => cases beats

theorem elapsedAt_eq [Surface S] {base : Beat} (ticked : e.lastTick = some base.time) (now : Nat) :
    e.elapsedAt now = base.secondsTo now := by
  have kept : (e.onMachine (·.beginFrame now)).lastTick = some base.time := ticked
  rw [Beat.secondsTo_eq, elapsedAt, elapsed, kept]

end Tick

variable [Surface S] {p : Program κ σ} {e : Engine κ σ S}

theorem polledAt_lastTick (p : Program κ σ) (now : Nat) (e : Engine κ σ S) :
    (e.polledAt p now).lastTick = some now := by
  unfold polledAt pollBarrier
  split
  · rfl
  · rfl

/-- Every frame of a running engine sets the tick clock, also one that the barrier, a prompt or a
failure ends. -/
theorem frame_lastTick (p : Program κ σ) (now : Nat) (running : e.running) :
    (e.frame p now).2.lastTick = some now := by
  have ticked := polledAt_lastTick p now e
  have course := frame_course p now e
  generalize e.frame p now = result at course
  cases course with
  | rests halted => simp [running] at halted
  | waits running up => exact ticked
  | asks running down shown => exact ticked
  | stumbles plays ran => simpa using ticked
  | crashes plays ran hit => simpa using ticked
  | plays plays ran hit => simpa [playedOut] using ticked

theorem dispatch_lastTick (p : Program κ σ) (key : String) (e : Engine κ σ S) :
    (e.dispatch p key).2.lastTick = e.lastTick := by
  unfold dispatch
  dsimp only
  split
  · exact halt_lastTick ..
  · exact obeyStopRequest_lastTick _

theorem handleInput_lastTick (p : Program κ σ) (event : InputEvent) (e : Engine κ σ S) :
    (e.handleInput p event).2.lastTick = e.lastTick := by
  unfold handleInput
  split
  · rfl
  · rename_i attached
    split
    · rename_i key repeated
      have pressed : (e.pressing key repeated).lastTick = e.lastTick := by
        cases repeated with
        | true => rfl
        | false => rfl
      have course := keyDown_course p key repeated (e := e) (by simpa using attached)
      generalize e.keyDown p key repeated = result at course
      cases course with
      | asks shown => exact pressed
      | stops swallows => rfl
      | rests hidden passes idle => exact pressed
      | plays hidden passes fresh down => exact dispatch_lastTick p key e
    · rfl
    · rfl

theorem step_beat {call : HostCall κ σ S} {beat : Beat} (beats : e.beat? call = some beat) :
    (e.step p call).2.lastTick = some beat.time := by
  cases call with
  | frame now =>
    obtain ⟨running, rfl⟩ : e.running ∧ .framed now = beat := by simpa [beat?] using beats
    exact frame_lastTick p now running
  | start now clock =>
    obtain ⟨⟨halted, surface⟩, rfl⟩ :
        (e.running = false ∧ e.machine.surface.isSome) ∧ .started now = beat := by
      simpa [beat?] using beats
    change (e.start p now clock).2.lastTick = some now
    rw [start_halted p now clock halted surface, obeyStopRequest_lastTick]
    rfl
  | _ => cases beats

/-- A call without a beat sets nothing going, and leaves the tick clock to an engine that goes
on. -/
theorem step_beatless {call : HostCall κ σ S} (beatless : e.beat? call = none)
    (running : (e.step p call).2.running) :
    e.running ∧ (e.step p call).2.lastTick = e.lastTick := by
  cases call with
  | frame now =>
    have halted : e.running = false := by simpa [beat?] using beatless
    change (e.frame p now).2.running = true at running
    rw [frame_halted p now halted] at running
    exact absurd running (by simp [onMachine, halted])
  | start now clock =>
    change (e.start p now clock).2.running = true at running
    change _ ∧ (e.start p now clock).2.lastTick = _
    cases runs : e.running with
    | true =>
      rw [start_running p now clock runs]
      exact ⟨rfl, rfl⟩
    | false =>
      have faceless : e.machine.surface = none := by simpa [beat?, runs] using beatless
      rw [start_faceless p now clock runs faceless] at running
      exact absurd running (by simp [note, onMachine, runs])
  | input event => exact ⟨(runsDown_handleInput p event e).running running,
      handleInput_lastTick p event e⟩
  | stop | reset => cases running
  | attach | setDisplay | script => exact ⟨running, rfl⟩

def beats (p : Program κ σ) (e : Engine κ σ S) (run : List (HostCall κ σ S)) : List Beat :=
  e.history p (fun e call => (e.beat? call).toList) run

theorem beats_append (p : Program κ σ) (e : Engine κ σ S) (run later : List (HostCall κ σ S)) :
    e.beats p (run ++ later) = e.beats p run ++ (e.after p run).beats p later := by
  induction run generalizing e with
  | nil => rfl
  | cons call rest ih =>
    exact (congrArg _ (ih (e.step p call).2)).trans (List.append_assoc ..).symm

theorem beats_concat (p : Program κ σ) (e : Engine κ σ S) (run : List (HostCall κ σ S))
    (call : HostCall κ σ S) :
    e.beats p (run ++ [call]) = e.beats p run ++ ((e.after p run).beat? call).toList := by
  rw [beats_append]
  exact congrArg _ (List.append_nil _)

theorem beats_times (p : Program κ σ) (e : Engine κ σ S) (run : List (HostCall κ σ S)) :
    ((e.beats p run).map Beat.time).Sublist (run.filterMap (·.time?)) := by
  induction run generalizing e with
  | nil => exact .refl _
  | cons call rest ih =>
    have later := ih (e.step p call).2
    change (((e.beat? call).toList ++ (e.step p call).2.beats p rest).map Beat.time).Sublist _
    cases beats : e.beat? call with
    | none =>
      have past : (rest.filterMap (·.time?)).Sublist ((call :: rest).filterMap (·.time?)) :=
        (List.sublist_cons_self call rest).filterMap _
      exact later.trans past
    | some beat =>
      rw [List.filterMap_cons_some (beat?_time beats)]
      exact later.cons_cons beat.time

theorem running_of_beatless (run : List (HostCall κ σ S)) (beatless : e.beats p run = [])
    (running : (e.after p run).running) : e.running := by
  induction run generalizing e with
  | nil => exact running
  | cons call rest ih =>
    obtain ⟨now, later⟩ := List.append_eq_nil_iff.mp beatless
    have runs := ih later running
    exact (step_beatless (Option.toList_eq_nil_iff.mp now) runs).1

/-- A running engine keeps in its tick clock the time of its latest beat. -/
theorem after_lastTick (p : Program κ σ) (halted : e.running = false)
    (run : List (HostCall κ σ S)) (running : (e.after p run).running) :
    ∃ base, (e.beats p run).getLast? = some base ∧ (e.after p run).lastTick = some base.time := by
  induction run using List.reverseRecOn with
  | nil => exact absurd running (by simp [after, halted])
  | append_singleton run call ih =>
    rw [after_concat] at running ⊢
    rw [beats_concat]
    cases beats : (e.after p run).beat? call with
    | some beat => exact ⟨beat, List.getLast?_concat, step_beat beats⟩
    | none =>
      obtain ⟨runs, same⟩ := step_beatless beats running
      obtain ⟨base, latest, ticked⟩ := ih runs
      refine ⟨base, ?_, same.trans ticked⟩
      simpa using latest

section Notices
variable {kind : Happening κ σ → Prop} (notices : ∀ notice, kind (.notice notice))
include notices

omit [Surface S] in
theorem leads_stop (e : Engine κ σ S) : e.machine.Leads kind e.stop.machine := by
  have hides (e : Engine κ σ S) : e.machine.Leads kind
      ({ e with running := false }.onMachine (·.onPrompt (·.stop))).machine := leads_onPrompt _
  unfold stop
  dsimp only
  split
  · have noted : e.machine.Leads kind (e.note .stopped).machine := leads_note (notices .stopped)
    exact noted.trans (hides _)
  · exact hides e

omit [Surface S] in
theorem leads_halt (error : ScriptError) (e : Engine κ σ S) :
    e.machine.Leads kind (e.halt error).machine := by
  have noted : e.machine.Leads kind (e.note (.scriptFailed error)).machine :=
    leads_note (notices (.scriptFailed error))
  exact noted.trans (leads_stop notices _)

omit [Surface S] in
theorem leads_obeyStopRequest (e : Engine κ σ S) :
    e.machine.Leads kind e.obeyStopRequest.machine := by
  unfold obeyStopRequest
  split
  · have heard : e.machine.Leads kind e.heard.machine := .of_same rfl rfl
    exact heard.trans (leads_stop notices e.heard)
  · exact .refl _

end Notices

section Told
variable {elapsed : Float32}

theorem tells_polledAt (p : Program κ σ) (now : Nat) (e : Engine κ σ S) :
    e.machine.Leads (·.Tells elapsed) (e.polledAt p now).machine := by
  have begins : e.machine.Leads (·.Tells elapsed) (e.machine.beginFrame now) :=
    (leads_beginFrame now e.machine).tells
  have clears (m : Machine κ σ S) : m.Leads (·.Tells elapsed) m.clearStage :=
    (leads_clearStage m).tells
  unfold polledAt pollBarrier
  split
  · exact begins.trans (clears _)
  · rename_i tasks up
    have kept : Kept (Leads (κ := κ) (σ := σ) (S := S) (·.Tells elapsed)) :=
      kept_leads fun _ => Happening.tells_of_isAside
    have polls := kept.pollAll
      (fun _ _ report => leads_record (Happening.tells_of_isReport report)) p tasks
      (e.machine.beginFrame now)
    exact (begins.trans polls).trans (clears _)

/-- All that a frame tells its handlers is the time measured at its beginning. -/
theorem tells_frame (p : Program κ σ) (now : Nat) (running : e.running) :
    e.machine.Leads (·.Tells (e.elapsedAt now)) (e.frame p now).2.machine := by
  have polled : e.machine.Leads (·.Tells (e.elapsedAt now)) (e.polledAt p now).machine :=
    tells_polledAt p now e
  have asides (happening : Happening κ σ) (aside : happening.isAside) :
      happening.Tells (e.elapsedAt now) := Happening.tells_of_isAside aside
  have framed {result : Except ScriptError Unit} {m : Machine κ σ S}
      (ran : (e.polledAt p now).machine.runFrameHandlers p (e.elapsedAt now) = (result, m)) :
      e.machine.Leads (·.Tells (e.elapsedAt now)) m := by
    have told := leads_framed asides p (e.elapsedAt now) (fun _ => rfl)
      (e.polledAt p now).machine
    rw [ran] at told
    exact polled.trans told
  have collided {result : Except ScriptError Unit} {before m : Machine κ σ S}
      (ran : before.untapped.runCollisions p = (result, m)) :
      before.Leads (·.Tells (e.elapsedAt now)) m := by
    have hit := leads_collided asides p (fun _ => trivial) before.untapped
    rw [ran] at hit
    exact (leads_onInput _).trans hit
  have noted (notice : Notice) : (.notice notice : Happening κ σ).Tells (e.elapsedAt now) := trivial
  have course := frame_course p now e
  generalize e.frame p now = result at course
  cases course with
  | rests halted => simp [running] at halted
  | waits running up =>
    refine polled.trans ?_
    dsimp only [onMachine]
    split
    · exact ((leads_drawOverlay _).trans (leads_presentStage _)).tells
    · exact (leads_presentStage _).tells
  | asks running down shown =>
    have drawn := (leads_drawFigures (e.polledAt p now).machine).trans (leads_drawOverlay _)
    exact polled.trans (drawn.trans (leads_presentStage _)).tells
  | @stumbles error m plays ran =>
    exact (framed ran).trans (leads_halt noted error { e.polledAt p now with machine := m })
  | @crashes error before m plays ran hit =>
    have failed := leads_halt noted error { e.polledAt p now with machine := m }
    exact ((framed ran).trans (collided hit)).trans failed
  | @plays before m plays ran hit =>
    have shown := (leads_drawFigures m).trans (leads_presentStage _)
    have ended := leads_obeyStopRequest noted
      { e.polledAt p now with machine := m.drawFigures.presentStage }
    exact (((framed ran).trans (collided hit)).trans shown.tells).trans ended

end Told

theorem frame_onFrame (now : Nat) (running : e.running) {other : κ → Float32 → Script κ σ Unit}
    (agrees : ∀ label, other label (e.elapsedAt now) = p.onFrame label (e.elapsedAt now)) :
    e.frame { p with onFrame := other } now = e.frame p now := by
  have polled (e : Engine κ σ S) :
      e.pollBarrier { p with onFrame := other } = e.pollBarrier p := by
    unfold pollBarrier
    split
    · rfl
    · rw [pollAll_onFrame]
  have framed (m : Machine κ σ S) := runFrameHandlers_onFrame p other agrees m
  rw [frame_running _ now running, frame_running p now running, polledAt, polled, ← polledAt]
  simp only [afterPolls, playFrame, framed, runCollisions_onFrame]

/-- A frame measures from a beat. -/
structure Measures (p : Program κ σ) (e : Engine κ σ S) (base : Beat) (now : Nat) : Prop where
  told : ∀ ticket elapsed, .framed ticket elapsed ∈ e.news p (.frame now) →
    elapsed = base.secondsTo now
  turns : e.Plays p now → ∃ ended,
    LendsUntilFailure .frame (fun h => .framed h.ticket (base.secondsTo now))
      (fun label => p.onFrame label (base.secondsTo now)) (e.polledAt p now).machine ended ∧
    ended.2.journal <+: (e.frame p now).2.machine.journal
  /-- The program may as well be one that does otherwise when told another time. -/
  alone : ∀ other : κ → Float32 → Script κ σ Unit,
    (∀ label, other label (base.secondsTo now) = p.onFrame label (base.secondsTo now)) →
    e.frame { p with onFrame := other } now = e.frame p now

theorem measures_of_lastTick (p : Program κ σ) {base : Beat} (running : e.running)
    (ticked : e.lastTick = some base.time) (now : Nat) : e.Measures p base now where
  told ticket elapsed told := by
    obtain ⟨news, journal, tells⟩ := (tells_frame p now running).journal
    have grown : (e.step p (.frame now)).2.machine.journal = e.machine.journal ++ news := journal
    rw [news_eq grown] at told
    exact (tells _ told).trans (elapsedAt_eq ticked now)
  turns plays := by
    have down : (e.polledAt p now).barrier = none := by simpa using plays.down
    rw [← elapsedAt_eq ticked now, frame_playing p now plays.running plays.down plays.hidden]
    exact ⟨_, runFrameHandlers_lends p (e.elapsedAt now) _,
      (carriesOn_framed p (e.elapsedAt now) down).machine.grows⟩
  alone other agrees := by
    rw [← elapsedAt_eq ticked now] at agrees
    exact frame_onFrame now running agrees

theorem no_frames_halted (p : Program κ σ) (now : Nat) (halted : e.running = false)
    (ticket : Nat) (elapsed : Float32) : .framed ticket elapsed ∉ e.news p (.frame now) := by
  obtain ⟨news, journal, remarks⟩ := (leads_beginFrame now e.machine).journal
  have grown : (e.step p (.frame now)).2.machine.journal = e.machine.journal ++ news := by
    change (e.frame p now).2.machine.journal = _
    rw [frame_halted p now halted]
    exact journal
  rw [news_eq grown]
  intro told
  cases remarks _ told

/-- What frames measure after a run, whichever times its calls bring. -/
structure ElapsedTrue (p : Program κ σ) (start : Engine κ σ S) (run : List (HostCall κ σ S)) :
    Prop where
  measured : (start.after p run).running → ∃ base, (start.beats p run).getLast? = some base ∧
    ∀ now, (start.after p run).Measures p base now ∧
      Beat.spans (start.beats p (run ++ [.frame now])) =
        Beat.spans (start.beats p run) ++ [(base.time, now)]
  silent : (start.after p run).running = false → ∀ now ticket elapsed,
    .framed ticket elapsed ∉ (start.after p run).news p (.frame now)
  ran : ∀ early late, run = early ++ late → (start.after p early).beats p late = [] →
    (start.after p run).running → (start.after p early).running
  adjacent : ∀ early now late, run = early ++ .frame now :: late → (start.after p early).running →
    (start.after p (early ++ [.frame now])).beats p late = [] →
    (start.beats p run).getLast? = some (.framed now)
  apart : (run.filterMap (·.time?)).Pairwise (· ≤ ·) →
    ((Beat.spans (start.beats p run)).Pairwise fun earlier later => earlier.2 ≤ later.1) ∧
      ∀ span ∈ Beat.spans (start.beats p run), span.1 ≤ span.2

theorem beats_framed (p : Program κ σ) (e : Engine κ σ S) (run : List (HostCall κ σ S)) (now : Nat)
    (running : (e.after p run).running) :
    e.beats p (run ++ [.frame now]) = e.beats p run ++ [.framed now] := by
  rw [beats_concat, beat?, if_pos running]
  rfl

theorem elapsed_of_halted (p : Program κ σ) {start : Engine κ σ S} (halted : start.running = false)
    (run : List (HostCall κ σ S)) : start.ElapsedTrue p run where
  measured running := by
    obtain ⟨base, latest, ticked⟩ := after_lastTick p halted run running
    refine ⟨base, latest, fun now => ⟨measures_of_lastTick p running ticked now, ?_⟩⟩
    obtain ⟨past, split⟩ := List.getLast?_eq_some_iff.mp latest
    rw [beats_framed p start run now running, split]
    exact Beat.spans_concat past base (.framed now)
  silent halted now ticket elapsed := no_frames_halted p now halted ticket elapsed
  ran early late split beatless running := by
    rw [split, after_append] at running
    exact running_of_beatless late beatless running
  adjacent early now late split running beatless := by
    have joined : run = (early ++ [.frame now]) ++ late := by simp [split]
    rw [joined, beats_append, beatless, beats_framed p start early now running]
    simp
  apart monotone := by
    have sorted := monotone.sublist (beats_times p start run)
    exact ⟨Beat.spans_apart sorted, fun span member => (Beat.span_forward sorted member).2⟩

/-- What a frame tells its handlers is measured from the latest frame that came while the engine was
running, or from the start if none came since, in every run. -/
theorem elapsed_true (p : Program κ σ) (birth : Nat) (settings : Settings)
    (present : String → Bool) (memory : σ) (run : List (HostCall κ σ S)) :
    (newAt birth settings present memory : Engine κ σ S).ElapsedTrue p run :=
  elapsed_of_halted p rfl run

def pausingStage : Engine Unit Unit RecordingSurface := newAt 5 .standard (fun _ => false) ()

/-- A program with one frame handler is stopped for a while and started again. -/
def pausing : List (HostCall Unit Unit RecordingSurface) :=
  let register : Script Unit Unit Unit := do
    let _ ← Script.perform (.onFrame ())
  [.attach (.ofSize 640 480), .script register, .start 10 "12:00:00", .frame 26, .stop, .frame 50,
    .start 100 "12:00:01"]

/-- Its pause is in no span, and from the second start the clock goes back: the handler is told
that no time has passed. -/
theorem pause_is_not_measured : pausingStage.ElapsedTrue blank pausing ∧
    pausingStage.beats blank pausing = [.started 10, .framed 26, .started 100] ∧
    Beat.spans (pausingStage.beats blank (pausing ++ [.frame 90])) = [(10, 26), (100, 90)] ∧
    (pausingStage.after blank pausing).news blank (.frame 90) = [.framed 0 0] := by
  have told : (pausingStage.after blank pausing).news blank (.frame 90) =
      [.framed 0 ((pausingStage.after blank pausing).elapsedAt 90)] := by rfl
  have measured : (pausingStage.after blank pausing).elapsedAt 90 =
      Number.secondsOfNanos (90 - 100) := by rfl
  rw [measured, Number.secondsOfNanos_zero] at told
  exact ⟨elapsed_true blank 5 .standard (fun _ => false) () pausing, by rfl, by rfl, told⟩

end Engine
end SpriteStage
