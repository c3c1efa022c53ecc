import SpriteStage.Engine.Basic
import SpriteStage.Proofs.Engine.Round

namespace SpriteStage.Engine
variable {κ σ S : Type}

def due (e : Engine κ σ S) : List Nat := (e.barrier.getD []).map (·.serial)

/-- An engine goes on from another without a word of startup tasks; handlers of the game run only
while the barrier is down. -/
structure CarriesOn (before after : Engine κ σ S) : Prop where
  machine : before.machine.Leads
    (fun happening => happening.Neutral ∧ (happening.isPlay → before.barrier = none)) after.machine
  barrier : after.barrier = before.barrier
  tasksMade : after.tasksMade = before.tasksMade

section CarriesOn
variable {before middle after e : Engine κ σ S} {m : Machine κ σ S}

theorem CarriesOn.refl (e : Engine κ σ S) : e.CarriesOn e := ⟨.refl _, rfl, rfl⟩

theorem CarriesOn.trans (first : before.CarriesOn middle) (second : middle.CarriesOn after) :
    before.CarriesOn after where
  machine := first.machine.trans (first.barrier ▸ second.machine)
  barrier := second.barrier.trans first.barrier
  tasksMade := second.tasksMade.trans first.tasksMade

theorem CarriesOn.due (carries : before.CarriesOn after) : after.due = before.due := by
  rw [Engine.due, Engine.due, carries.barrier]

theorem carriesOn_quiet {kind : Happening κ σ → Prop} (leads : e.machine.Leads kind m)
    (quiet : ∀ happening, kind happening → happening.Quiet) :
    e.CarriesOn { e with machine := m } :=
  ⟨leads.mono fun happening known =>
    ⟨(quiet happening known).toNeutral, by simp [(quiet happening known).rest]⟩, rfl, rfl⟩

theorem carriesOn_aside (leads : e.machine.Leads (·.isAside) m) :
    e.CarriesOn { e with machine := m } :=
  carriesOn_quiet leads fun _ => Happening.quiet_of_isAside

theorem carriesOn_game (down : e.barrier = none) (leads : e.machine.Leads (·.isGame) m) :
    e.CarriesOn { e with machine := m } :=
  ⟨leads.mono fun _ game => ⟨Happening.neutral_of_isGame game, fun _ => down⟩, rfl, rfl⟩

theorem carriesOn_note (notice : Notice)
    (closed : (.notice notice : Happening κ σ).opens = false) : e.CarriesOn (e.note notice) :=
  carriesOn_quiet (Machine.leads_note (Happening.quiet_notice closed)) fun _ quiet => quiet

theorem carriesOn_stop (e : Engine κ σ S) : e.CarriesOn e.stop := by
  have hides (e : Engine κ σ S) :
      e.CarriesOn ({ e with running := false }.onMachine (·.onPrompt (·.stop))) :=
    ⟨Machine.leads_onPrompt _, rfl, rfl⟩
  unfold stop
  dsimp only
  split
  · exact (carriesOn_note .stopped rfl).trans (hides _)
  · exact hides e

theorem carriesOn_obeyStopRequest (e : Engine κ σ S) : e.CarriesOn e.obeyStopRequest := by
  unfold obeyStopRequest
  split
  · have heard : e.CarriesOn
        (e.onMachine (·.onContext fun c => { c with stopRequested := false })) :=
      carriesOn_aside (.of_same rfl rfl)
    exact heard.trans (carriesOn_stop _)
  · exact .refl e

theorem carriesOn_halt (error : ScriptError) (e : Engine κ σ S) : e.CarriesOn (e.halt error) :=
  (carriesOn_note (.scriptFailed error) rfl).trans (carriesOn_stop _)

theorem carriesOn_pressKey (key : String) (e : Engine κ σ S) : e.CarriesOn (e.pressKey key) :=
  carriesOn_aside (Machine.leads_onInput _)

theorem carriesOn_promptKey (key : String) (e : Engine κ σ S) :
    e.CarriesOn (e.promptKey key).2 := carriesOn_aside (.of_same rfl rfl)

end CarriesOn

variable [Surface S]

theorem carriesOn_attach (surface : S) (e : Engine κ σ S) : e.CarriesOn (e.attach surface) := by
  let size := Surface.size surface
  have attached : e.CarriesOn (e.onMachine fun m =>
      (m.attachSurface surface).onInput (·.attach (.unscaled size.1 size.2))) :=
    carriesOn_aside (.of_same rfl rfl)
  exact attached.trans (carriesOn_note (.surfaceAttached ..) rfl)

theorem carriesOn_beginFrame (now : Nat) (e : Engine κ σ S) :
    e.CarriesOn (e.onMachine (·.beginFrame now)) :=
  carriesOn_aside (Machine.leads_beginFrame now _).aside

theorem carriesOn_keyDown (p : Program κ σ) (key : String) (repeated : Bool) (e : Engine κ σ S) :
    e.CarriesOn (e.keyDown p key repeated).2 := by
  have pressed := carriesOn_pressKey (Key.canonical key) e
  unfold keyDown
  dsimp only
  split
  · split
    · exact carriesOn_promptKey key e
    · exact pressed.trans (carriesOn_promptKey key _)
  · split
    · exact carriesOn_aside (Machine.leads_onPrompt _)
    · split
      · exact .refl e
      · split
        · exact pressed
        · rename_i up
          have down : (e.pressKey (Key.canonical key)).barrier = none := by simpa using up
          have dispatched := carriesOn_game down (Machine.leads_dispatchKey p (Key.canonical key) _)
          split
          · rename_i error m ran
            rw [ran] at dispatched
            exact (pressed.trans dispatched).trans (carriesOn_halt error _)
          · rename_i m ran
            rw [ran] at dispatched
            exact (pressed.trans dispatched).trans (carriesOn_obeyStopRequest _)

theorem carriesOn_handleInput (p : Program κ σ) (event : InputEvent) (e : Engine κ σ S) :
    e.CarriesOn (e.handleInput p event).2 := by
  unfold handleInput
  split
  · exact .refl e
  · split
    · exact carriesOn_keyDown ..
    · exact carriesOn_aside (Machine.leads_onInput _)
    · exact carriesOn_aside (Machine.leads_onInput _)

theorem carriesOn_framed (p : Program κ σ) (elapsed : Float32) {e : Engine κ σ S}
    (down : e.barrier = none) :
    CarriesOn { e with machine := (e.machine.runFrameHandlers p elapsed).2 }
      (e.playFrame p elapsed).2 := by
  unfold playFrame
  split
  · rename_i error m ran
    rw [ran]
    exact carriesOn_halt error _
  · rename_i m ran
    rw [ran]
    let cleared := m.onInput fun s => { s with keys := s.keys.clearJustPressed }
    have clears : Machine.Leads (·.isGame) m cleared := Machine.leads_onInput _
    have collided := carriesOn_game (e := { e with machine := m }) down
      (clears.trans (Machine.leads_runCollisions p cleared))
    split
    · rename_i error m' ran
      rw [ran] at collided
      exact collided.trans (carriesOn_halt error _)
    · rename_i m' ran
      rw [ran] at collided
      have drawn := carriesOn_aside (e := { e with machine := m' })
        ((Machine.leads_drawFigures m').trans (Machine.leads_presentStage _)).aside
      exact (collided.trans drawn).trans (carriesOn_obeyStopRequest _)

theorem carriesOn_playFrame (p : Program κ σ) (elapsed : Float32) {e : Engine κ σ S}
    (down : e.barrier = none) : e.CarriesOn (e.playFrame p elapsed).2 :=
  (carriesOn_game down (Machine.leads_runFrameHandlers p elapsed e.machine)).trans
    (carriesOn_framed p elapsed down)

theorem carriesOn_runScript {ρ : Type} (script : Script κ σ ρ) (e : Engine κ σ S) :
    e.CarriesOn (e.runScript script).2 := carriesOn_aside (Machine.kept_aside.run script _)

/-- A frame of a running engine after its polls, with the stage cleared. -/
def polledAt (p : Program κ σ) (now : Nat) (e : Engine κ σ S) : Engine κ σ S :=
  ({ e.onMachine (·.beginFrame now) with lastTick := some now }.pollBarrier p).onMachine
    (·.clearStage)

def elapsedAt (now : Nat) (e : Engine κ σ S) : Float32 :=
  (e.onMachine (·.beginFrame now)).elapsed now

/-- What a frame does after the polls: the program plays unless the barrier is up or a prompt is
shown. -/
def afterPolls (p : Program κ σ) (elapsed : Float32) (e : Engine κ σ S) :
    Except RuntimeError FrameStatus × Engine κ σ S :=
  if e.barrier.isSome then
    (.ok .running, e.onMachine fun m =>
      (if m.context.prompt.active then m.drawOverlay else m).presentStage)
  else if e.promptActive then
    (.ok .running, e.onMachine fun m => m.drawFigures.drawOverlay.presentStage)
  else e.playFrame p elapsed

theorem frame_running (p : Program κ σ) (now : Nat) {e : Engine κ σ S} (running : e.running) :
    e.frame p now = (e.polledAt p now).afterPolls p (e.elapsedAt now) :=
  if_neg (by simpa [onMachine] using running)

theorem frame_playing (p : Program κ σ) (now : Nat) {e : Engine κ σ S} (running : e.running)
    (down : (e.polledAt p now).barrier.isSome = false)
    (hidden : (e.polledAt p now).promptActive = false) :
    e.frame p now = (e.polledAt p now).playFrame p (e.elapsedAt now) := by
  rw [frame_running p now running, afterPolls]
  exact (if_neg (by simp [down])).trans (if_neg (by simp [hidden]))

theorem frame_halted (p : Program κ σ) (now : Nat) {e : Engine κ σ S} (halted : e.running = false) :
    e.frame p now = (.ok .stopped, e.onMachine (·.beginFrame now)) :=
  if_pos (by simpa [onMachine] using halted)

theorem carriesOn_afterPolls (p : Program κ σ) (elapsed : Float32) (e : Engine κ σ S) :
    e.CarriesOn (e.afterPolls p elapsed).2 := by
  unfold afterPolls
  split
  · refine carriesOn_aside ?_
    dsimp only
    split
    · exact ((Machine.leads_drawOverlay _).trans (Machine.leads_presentStage _)).aside
    · exact (Machine.leads_presentStage _).aside
  · rename_i up
    split
    · have figures := (Machine.leads_drawFigures e.machine).trans (Machine.leads_drawOverlay _)
      exact carriesOn_aside (figures.trans (Machine.leads_presentStage _)).aside
    · exact carriesOn_playFrame p elapsed (by simpa using up)

end SpriteStage.Engine
