import SpriteStage.Proofs.Engine.Startup

/-! Input of an engine that is halted. What keeps a key from the handlers of the program is a
prompt, the Enter that answered one, or the barrier; that the engine is halted does not. -/

namespace SpriteStage.Engine
open Journal
variable {κ σ S : Type}

/-- Neither a prompt nor the Enter that answered one nor the barrier takes a key. -/
def admits (e : Engine κ σ S) (key : String) : Bool :=
  e.context.input.isAttached && !e.promptActive &&
    !(key = "Enter" && e.context.prompt.justEnded) && e.barrier.isNone

/-- The key handlers that an event is brought to, whether the engine is running or not. -/
def keyHandlers (e : Engine κ σ S) : InputEvent → List (Registered κ)
  | .keyDown key false =>
    if e.admits key then e.context.handlers.ofKey (Key.canonical key) else []
  | _ => []

theorem keyHandlers_cons {e : Engine κ σ S} {event : InputEvent} {h : Registered κ}
    {rest : List (Registered κ)} (table : e.keyHandlers event = h :: rest) :
    ∃ key, event = .keyDown key false ∧ e.admits key ∧
      e.context.handlers.ofKey (Key.canonical key) = h :: rest := by
  unfold keyHandlers at table
  split at table
  · split at table
    · exact ⟨_, rfl, ‹_›, table⟩
    · cases table
  · cases table

theorem Barred.settled_handlers {e : Engine κ σ S} (barred : e.Barred) {event : InputEvent}
    {h : Registered κ} {rest : List (Registered κ)} (table : e.keyHandlers event = h :: rest) :
    owed e.machine.journal = [] := by
  obtain ⟨key, _, admitted, _⟩ := keyHandlers_cons table
  have down : e.barrier = none := by
    simpa using (Bool.and_eq_true_iff.mp admitted).2
  rw [barred.waits, due, down]
  rfl

/-- What comes of an event that runs nothing: the reply is no error, and nothing is written down. -/
structure Silent (e : Engine κ σ S) (result : Except RuntimeError InputOutcome × Engine κ σ S) :
    Prop where
  journal : result.2.machine.journal = e.machine.journal
  reply : ∃ outcome, result.1 = .ok outcome

theorem journal_obeyStopRequest {e : Engine κ σ S} (halted : e.running = false) :
    e.obeyStopRequest.machine.journal = e.machine.journal := by
  unfold obeyStopRequest
  split
  · simp [stop, onMachine, halted, Machine.onContext, Machine.onPrompt]
  · rfl

variable [Surface S] {p : Program κ σ} {e : Engine κ σ S}

def dispatch (p : Program κ σ) (e : Engine κ σ S) (key : String) :
    Except RuntimeError InputOutcome × Engine κ σ S :=
  let name := Key.canonical key
  match (e.pressKey name).machine.dispatchKey p name with
  | (.error error, m) => (.error (.script error), { e with machine := m }.halt error)
  | (.ok (), m) =>
    (.ok ⟨e.running && Key.isGameplay name, false⟩, { e with machine := m }.obeyStopRequest)

theorem keyDown_admitted {key : String} (admitted : e.admits key) :
    e.keyDown p key false = e.dispatch p key := by
  simp only [admits, Bool.and_eq_true, Bool.not_eq_true', Option.isNone_iff_eq_none] at admitted
  obtain ⟨⟨⟨_, hidden⟩, unguarded⟩, down⟩ := admitted
  have pressed : (e.pressKey (Key.canonical key)).barrier = none := down
  simp [keyDown, hidden, unguarded, pressed, down, dispatch]
  rfl

theorem silent_keyDown {key : String} {repeated : Bool} (attached : e.context.input.isAttached)
    (refused : repeated ∨ e.admits key = false) : e.Silent (e.keyDown p key repeated) := by
  unfold keyDown
  dsimp only
  split
  · exact ⟨by split <;> rfl, _, rfl⟩
  · rename_i hidden
    split
    · exact ⟨rfl, _, rfl⟩
    · rename_i unguarded
      split
      · exact ⟨rfl, _, rfl⟩
      · rename_i fresh
        have taken := refused.resolve_left fresh
        have up : (e.pressKey (Key.canonical key)).barrier.isSome := by
          change e.barrier.isSome
          simp_all [admits]
        rw [if_pos up]
        exact ⟨rfl, _, rfl⟩

theorem silent_dispatch {key : String} (halted : e.running = false)
    (none : e.context.handlers.ofKey (Key.canonical key) = []) : e.Silent (e.dispatch p key) := by
  have skipped := Machine.dispatchKey_empty p (Key.canonical key)
    (m := (e.pressKey (Key.canonical key)).machine) none
  unfold dispatch
  dsimp only
  rw [skipped]
  exact ⟨journal_obeyStopRequest halted, _, rfl⟩

theorem silent_handleInput {event : InputEvent} (none : e.keyHandlers event = [])
    (halted : e.running = false) : e.Silent (e.handleInput p event) := by
  unfold handleInput
  split
  · exact ⟨rfl, _, rfl⟩
  · rename_i attached
    have attached : e.context.input.isAttached := by simpa using attached
    split
    · rename_i key repeated
      cases repeated with
      | true => exact silent_keyDown attached (.inl rfl)
      | false =>
        cases admitted : e.admits key with
        | false => exact silent_keyDown attached (.inr admitted)
        | true =>
          rw [keyDown_admitted admitted]
          exact silent_dispatch halted (by simpa [keyHandlers, admitted] using none)
    · exact ⟨rfl, _, rfl⟩
    · exact ⟨rfl, _, rfl⟩

theorem dispatch_first {key : String} {h : Registered κ} {rest : List (Registered κ)}
    (table : e.context.handlers.ofKey (Key.canonical key) = h :: rest) :
    e.machine.journal ++ [.keyed h.ticket] <+: (e.dispatch p key).2.machine.journal := by
  have first := Machine.dispatchKey_first p (Key.canonical key)
    (m := (e.pressKey (Key.canonical key)).machine) table
  unfold dispatch
  dsimp only
  split
  · rename_i error m ran
    rw [ran] at first
    have halts := (carriesOn_halt error { e with machine := m }).machine.grows
    exact first.trans halts
  · rename_i m ran
    rw [ran] at first
    have stops := (carriesOn_obeyStopRequest { e with machine := m }).machine.grows
    exact first.trans stops

/-- What input does to an engine that is halted. -/
structure InputExact (p : Program κ σ) (e : Engine κ σ S) (event : InputEvent) : Prop where
  quiet : e.keyHandlers event = [] →
    e.news p (.input event) = [] ∧ ∃ outcome, (e.handleInput p event).1 = .ok outcome
  runs : ∀ h rest, e.keyHandlers event = h :: rest →
    [.keyed h.ticket] <+: e.news p (.input event)
  settled : e.keyHandlers event ≠ [] → owed e.machine.journal = []

/-- A halted engine runs the handlers of a key exactly where no prompt, no Enter that answered one
and no barrier takes it. -/
theorem Reachable.halted_input_exact (reached : Reachable p e) (halted : e.running = false)
    (event : InputEvent) : InputExact p e event where
  quiet none := by
    have silent := silent_handleInput (p := p) none halted
    have journal : (e.step p (.input event)).2.machine.journal = e.machine.journal ++ [] := by
      rw [List.append_nil]
      exact silent.journal
    exact ⟨news_eq journal, silent.reply⟩
  runs h rest table := by
    obtain ⟨key, rfl, admitted, handlers⟩ := keyHandlers_cons table
    have attached : e.context.input.isAttached := by
      simp_all [admits]
    have dispatched : e.handleInput p (.keyDown key false) = e.dispatch p key := by
      rw [← keyDown_admitted admitted]
      exact if_neg (by simp [attached])
    obtain ⟨rest, journal⟩ := dispatch_first (p := p) handlers
    have grown : (e.step p (.input (.keyDown key false))).2.machine.journal =
        e.machine.journal ++ ([.keyed h.ticket] ++ rest) := by
      rw [← List.append_assoc, journal, ← dispatched]
      rfl
    exact news_eq grown ▸ List.prefix_append ..
  settled some := by
    cases table : e.keyHandlers event with
    | nil => exact absurd table some
    | cons h rest => exact reached.barred.settled_handlers table

theorem stopped_behind_barrier_is_silent :
    let stage := patientStage.after patient [.start 0 "12:00:00", .stop]
    Reachable patient stage ∧ stage.running = false ∧
      stage.news patient (.input (.keyDown "A" false)) = [] := by
  intro stage
  have reached : Reachable patient stage := reachable_after patient _ reachable_patientStage
  have halted : stage.running = false := by rfl
  have refused : stage.keyHandlers (.keyDown "A" false) = [] := by rfl
  exact ⟨reached, halted, ((reached.halted_input_exact halted _).quiet refused).1⟩

theorem unstarted_key_runs_handler :
    Reachable patient patientStage ∧ patientStage.running = false ∧
      starters patientStage.machine.journal = [] ∧
      patientStage.news patient (.input (.keyDown "a" false)) = [.keyed 1] :=
  ⟨reachable_patientStage, by rfl, by rfl, by rfl⟩

end SpriteStage.Engine
