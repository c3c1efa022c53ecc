import SpriteStage.Proofs.Engine.CollisionPass
import SpriteStage.Proofs.Input.KeyHistory
import SpriteStage.Proofs.Script.Effects

namespace SpriteStage
open KeyState

def Happening.sight? {κ σ : Type} : Happening κ σ → Option KeyEvent
  | .called .view context => some (.seen context.input.keys)
  | .collided _ => some .collided
  | _ => none

theorem Happening.sight?_plain {κ σ : Type} {happening : Happening κ σ}
    (plain : happening.isPlain) : happening.sight? = none := by
  cases happening with
  | called | collided => cases plain
  | _ => rfl

theorem Happening.isSight_of_sight {κ σ : Type} {happening : Happening κ σ} {event : KeyEvent}
    (sees : happening.sight? = some event) : event.isSight := by
  unfold sight? at sees
  split at sees
  · exact Option.some.inj sees ▸ rfl
  · exact Option.some.inj sees ▸ rfl
  · cases sees

def Journal.sights {κ σ : Type} (news : List (Happening κ σ)) : List KeyEvent :=
  news.filterMap (·.sight?)

namespace Aspect
variable {κ σ S : Type}

def keys : Aspect κ σ KeyState where
  read c := c.input.keys
  step before happening after :=
    after = before ∧ ∀ event, happening.sight? = some event → before.Turns event after

theorem keys_silent {state : KeyState} {news : List (Happening κ σ)}
    (plain : ∀ happening ∈ news, happening.isPlain) : keys.History state news state := by
  refine .silent fun happening member => ⟨rfl, fun event sees => ?_⟩
  rw [Happening.sight?_plain (plain happening member)] at sees
  cases sees

theorem keys_replay {before after : KeyState} {news : List (Happening κ σ)}
    (history : keys.History before news after) : Replay before (Journal.sights news) after := by
  induction history with
  | nil state => exact .rest state
  | @cons before between after happening news step _ ih =>
    obtain ⟨rfl, sees⟩ := step
    unfold Journal.sights
    cases sight : happening.sight? with
    | none =>
      rw [List.filterMap_cons_none sight]
      exact ih
    | some event =>
      rw [List.filterMap_cons_some sight]
      exact .next (sees event sight) ih

section Follows
variable {before after m : Machine κ σ S}

theorem keys_of_remarks (leads : before.Leads (·.isRemark) after)
    (same : after.context.input.keys = before.context.input.keys) : keys.Follows before after := by
  obtain ⟨news, journal, remarks⟩ := leads.journal
  refine ⟨news, journal, ?_⟩
  change keys.History before.context.input.keys news after.context.input.keys
  rw [same]
  exact keys_silent fun happening member =>
    Happening.isPlain_of_isMark (Happening.isMark_of_isRemark (remarks happening member))

theorem keys_record {happening : Happening κ σ} (blind : happening.sight? = none) :
    keys.Follows m (m.record happening) := by
  refine ⟨[happening], rfl, .silent fun other member => ⟨rfl, fun event sees => ?_⟩⟩
  rw [List.mem_singleton.mp member, blind] at sees
  cases sees

theorem keys_same (follows : keys.Follows before after) :
    after.context.input.keys = before.context.input.keys := by
  obtain ⟨news, _, history⟩ := follows
  exact history.invariant (I := fun state => state = before.context.input.keys)
    (fun same step => step.1.trans same) rfl

theorem Follows.replay (follows : keys.Follows before after) :
    Replay before.context.input.keys (Journal.sights (before.since after))
      after.context.input.keys := by
  obtain ⟨news, journal, history⟩ := follows
  rw [Machine.since_eq journal]
  exact keys_replay history

end Follows

variable [Surface S]

theorem keys_perform (c : Call κ σ) (m : Machine κ σ S) : keys.Follows m (m.perform c).2 := by
  have same := (Machine.effect_spares c m).input
  have effect := keys_of_remarks (Machine.leads_effect c m) (congrArg InputState.keys same)
  refine effect.trans ⟨[.called c (m.effect c).1], rfl, .silent fun other member => ⟨rfl, ?_⟩⟩
  intro event sees
  rw [List.mem_singleton.mp member] at sees
  cases c with
  | view =>
    obtain rfl := Option.some.inj sees
    exact same ▸ .look _
  | _ => cases sees

theorem keys_rounds (p : Program κ σ) :
    Engine.Rounds p (keys (κ := κ) (σ := σ).Follows (S := S)) :=
  .of_lends ⟨.refl, .trans, keys_perform⟩
    (fun _ _ entry => keys_record (Happening.sight?_plain (Happening.isPlain_of_isEntry entry)))
    fun _ _ _ => .of_same rfl rfl

theorem keys_runCollisions (p : Program κ σ) {m : Machine κ σ S}
    (untapped : m.context.input.keys.justPressed = []) : keys.Follows m (m.runCollisions p).2 := by
  have kept : Machine.Kept fun before after : Machine κ σ S =>
      before.context.input.keys.justPressed = [] → keys.Follows before after := by
    refine ⟨fun m _ => .refl m, fun first second untapped => ?_, fun c m _ => keys_perform c m⟩
    have follows := first untapped
    exact follows.trans (second (keys_same follows ▸ untapped))
  refine kept.collideAll p (fun m id _ _ _ untapped => ?_) (fun m id handler _ => .of_same rfl rfl)
    m.context.collisions.ids m untapped
  refine ⟨[.collided id], rfl, .silent fun happening member => ⟨rfl, fun event sees => ?_⟩⟩
  rw [List.mem_singleton.mp member] at sees
  obtain rfl := Option.some.inj sees
  exact .collide untapped

theorem keys_draws {before after : Machine κ σ S} (draws : before.Draws after) :
    keys.Follows before after := by
  obtain ⟨_, prompt, same, _⟩ := draws.context
  exact keys_of_remarks draws.leads (by rw [same])

theorem keys_beginFrame (now : Nat) (m : Machine κ σ S) : keys.Follows m (m.beginFrame now) := by
  obtain ⟨_, _, _, _, _, same⟩ := (m.setNow now).completeLoads_frame
  refine keys_of_remarks (Machine.leads_beginFrame now m) ?_
  rw [Machine.beginFrame, same]
  rfl

end Aspect

namespace Engine
open Journal
variable {κ σ S : Type}

/-- What an event does to the keys, if a listener is attached. -/
def keysOf (e : Engine κ σ S) : InputEvent → List KeyEvent
  | .keyDown key false =>
    if e.context.input.isAttached && !e.swallows key then [.pressed (Key.canonical key)] else []
  | .keyUp key => if e.context.input.isAttached then [.released (Key.canonical key)] else []
  | _ => []

variable [Surface S]

/-- What happens to the keys in a call, and the sights that scripts get of them meanwhile. The press
comes before the handlers that it brings about, and what was tapped has been seen once the frame
handlers are through. -/
def keyEvents (p : Program κ σ) (e : Engine κ σ S) (call : HostCall κ σ S) : List KeyEvent :=
  match call with
  | .input event => e.keysOf event ++ sights (e.news p call)
  | .reset => sights (e.news p call) ++ [.forgotten]
  | .frame now => match e.collidesAt p now with
    | none => sights (e.news p call)
    | some m =>
      sights (e.machine.since m) ++ .untapped :: sights (m.since (e.frame p now).2.machine)
  | _ => sights (e.news p call)

section Calls
variable {p : Program κ σ} {e : Engine κ σ S} {before after : Machine κ σ S}

theorem keyEvents_unseen {now : Nat} (unseen : e.collidesAt p now = none) :
    e.keyEvents p (.frame now) = sights (e.news p (.frame now)) := by
  simp only [keyEvents, unseen]

theorem keyEvents_seen {now : Nat} {m : Machine κ σ S} (seen : e.collidesAt p now = some m) :
    e.keyEvents p (.frame now) =
      sights (e.machine.since m) ++ .untapped :: sights (m.since (e.frame p now).2.machine) := by
  simp only [keyEvents, seen]

theorem Touch.keys {call : HostCall κ σ S} (touch : Touch call before after)
    (other : ∀ event, call ≠ .input event) (frame : ∀ now, call ≠ .frame now)
    (reset : call ≠ .reset) : Aspect.keys.Follows before after := by
  cases touch with
  | pressed | typed | released | moused => exact absurd rfl (other _)
  | loaded now | fired now | untapped now | drawn now => exact absurd rfl (frame now)
  | forgotten => exact absurd rfl reset
  | _ => exact .of_same rfl rfl

theorem keys_of_stop (before after : Machine κ σ S) (touch : Touch .stop before after) :
    Aspect.keys.Follows before after := touch.keys nofun nofun nofun

theorem keys_halt (p : Program κ σ) (error : ScriptError) (e : Engine κ σ S) :
    Aspect.keys.Follows e.machine (e.halt error).machine :=
  (Aspect.keys_rounds p).halts keys_of_stop error e

theorem keys_obeyStopRequest (p : Program κ σ) (e : Engine κ σ S) :
    Aspect.keys.Follows e.machine e.obeyStopRequest.machine :=
  (Aspect.keys_rounds p).obeys keys_of_stop e

theorem keyDown_keys (p : Program κ σ) (key : String) (repeated : Bool)
    (attached : e.context.input.isAttached) : Aspect.keys.Follows
      (if e.swallows key then e else e.pressing key repeated).machine
      (e.keyDown p key repeated).2.machine := by
  have course := keyDown_course p key repeated attached
  generalize e.keyDown p key repeated = result at course
  cases course with
  | asks shown =>
    rw [if_neg (by simp [swallows, shown])]
    exact .of_same rfl rfl
  | stops swallows =>
    rw [if_pos swallows]
    exact .of_same rfl rfl
  | rests hidden passes idle =>
    rw [if_neg (by simp [passes])]
    exact .refl _
  | plays hidden passes fresh down =>
    rw [if_neg (by simp [passes]), fresh]
    exact (Aspect.keys_rounds p).dispatches keys_of_stop key e

theorem replay_of_idle {event : InputEvent} (none : e.keysOf event = [])
    (follows : Aspect.keys.Follows e.machine (e.handleInput p event).2.machine) :
    Replay e.context.input.keys (e.keyEvents p (.input event))
      (e.handleInput p event).2.context.input.keys := by
  rw [keyEvents, none]
  exact follows.replay

theorem keyDown_replay (p : Program κ σ) (key : String) (repeated : Bool)
    (attached : e.context.input.isAttached) :
    Replay e.context.input.keys (e.keyEvents p (.input (.keyDown key repeated)))
      (e.handleInput p (.keyDown key repeated)).2.context.input.keys := by
  have ran := keyDown_keys p key repeated attached
  rw [← handleInput_keyDown p key repeated attached] at ran
  by_cases kept : e.swallows key
  · rw [if_pos kept] at ran
    refine replay_of_idle ?_ ran
    cases repeated with
    | true => rfl
    | false => simp [keysOf, kept]
  · rw [if_neg kept] at ran
    cases repeated with
    | true => exact replay_of_idle rfl ran
    | false =>
      have brings : e.keysOf (.keyDown key false) = [.pressed (Key.canonical key)] := by
        simp [keysOf, attached, kept]
      rw [keyEvents, brings]
      exact .next (.press ..) ran.replay

theorem keyUp_replay (p : Program κ σ) (key : String) (attached : e.context.input.isAttached) :
    Replay e.context.input.keys (e.keyEvents p (.input (.keyUp key)))
      (e.handleInput p (.keyUp key)).2.context.input.keys := by
  have brings : e.keysOf (.keyUp key) = [.released (Key.canonical key)] := by
    simp [keysOf, attached]
  let released := e.machine.onInput fun s =>
    { s with keys := s.keys.release (Key.canonical key) }
  have quiet : Aspect.keys.Follows released (e.handleInput p (.keyUp key)).2.machine := by
    rw [handleInput_keyUp p key attached]
    exact .refl _
  rw [keyEvents, brings]
  exact .next (.release ..) quiet.replay

omit [Surface S] in
theorem keys_moused (event : InputEvent) (m : Machine κ σ S) :
    Aspect.keys.Follows m (m.onInput (·.applyMouse event)) := by
  obtain ⟨mouse, framed⟩ := m.context.input.applyMouse_frame event
  have untouched : (m.context.input.applyMouse event).keys = m.context.input.keys := by
    rw [framed]
  exact .of_same rfl untouched

theorem handleInput_replay (p : Program κ σ) (e : Engine κ σ S) (event : InputEvent) :
    Replay e.context.input.keys (e.keyEvents p (.input event))
      (e.handleInput p event).2.context.input.keys := by
  by_cases attached : e.context.input.isAttached
  · cases event with
    | keyDown key repeated => exact keyDown_replay p key repeated attached
    | keyUp key => exact keyUp_replay p key attached
    | _ =>
      apply replay_of_idle rfl
      unfold handleInput
      rw [if_neg (by simp [attached])]
      exact keys_moused _ e.machine
  · apply replay_of_idle
    · cases event with
      | keyDown key repeated =>
        cases repeated with
        | true => rfl
        | false => simp [keysOf, attached]
      | keyUp key => simp [keysOf, attached]
      | _ => rfl
    · rw [handleInput_ignored p event (by simpa using attached)]
      exact .refl _

section Frame
variable {now : Nat}

theorem keys_polledAt (p : Program κ σ) (now : Nat) (e : Engine κ σ S) :
    Aspect.keys.Follows e.machine (e.polledAt p now).machine := by
  have begins := Aspect.keys_beginFrame now e.machine
  exact begins.trans
    ((Aspect.keys_rounds p).polledAt (fun _ _ draws => Aspect.keys_draws draws) now e)

/-- A frame in which the frame handlers do not come through leaves the keys alone. -/
theorem keys_of_unseen (unseen : e.collidesAt p now = none) :
    Aspect.keys.Follows e.machine (e.frame p now).2.machine := by
  have polled := keys_polledAt p now e
  have course := frame_course p now e
  generalize e.frame p now = result at course
  have drawn {m after : Machine κ σ S} (draws : m.Draws after) : Aspect.keys.Follows m after :=
    Aspect.keys_draws draws
  cases course with
  | rests halted => exact Aspect.keys_beginFrame now e.machine
  | waits running up =>
    refine polled.trans ?_
    dsimp only [onMachine]
    split
    · exact (drawn (.overlay _)).trans (drawn (.presented _))
    · exact drawn (.presented _)
  | asks running down shown =>
    have figured := polled.trans (drawn (.figures _))
    exact (figured.trans (drawn (.overlay _))).trans (drawn (.presented _))
  | stumbles plays ran =>
    exact (polled.trans ((Aspect.keys_rounds p).framed ran)).trans (keys_halt p _ _)
  | crashes plays ran _ => simp [plays.collidesAt_eq, ran] at unseen
  | plays plays ran _ => simp [plays.collidesAt_eq, ran] at unseen

/-- When the frame handlers come through, what was tapped has been seen, and the keys are left alone
but for that. -/
theorem keys_of_seen {m : Machine κ σ S} (seen : e.collidesAt p now = some m) :
    (∃ framed, m = framed.untapped ∧ Aspect.keys.Follows e.machine framed) ∧
      Aspect.keys.Follows m (e.frame p now).2.machine := by
  obtain ⟨_, framed, ran, same⟩ := collidesAt_some seen
  have before := (keys_polledAt p now e).trans ((Aspect.keys_rounds p).framed ran)
  refine ⟨⟨framed, same, before⟩, ?_⟩
  have collided := Aspect.keys_runCollisions p (m := m) (by rw [same]; rfl)
  rw [frame_collides seen]
  split
  · rename_i error after ended
    rw [ended] at collided
    exact collided.trans (keys_halt p error _)
  · rename_i after ended
    rw [ended] at collided
    have drawn := (Aspect.keys_draws (.figures after)).trans (Aspect.keys_draws (.presented _))
    exact (collided.trans drawn).trans (keys_obeyStopRequest p _)

theorem frame_replay (p : Program κ σ) (now : Nat) (e : Engine κ σ S) :
    Replay e.context.input.keys (e.keyEvents p (.frame now))
      (e.frame p now).2.context.input.keys := by
  cases seen : e.collidesAt p now with
  | none =>
    rw [keyEvents_unseen seen]
    exact (keys_of_unseen seen).replay
  | some m =>
    obtain ⟨⟨framed, rfl, first⟩, second⟩ := keys_of_seen seen
    rw [keyEvents_seen seen]
    exact first.replay.append (.next (.untap _) second.replay)

end Frame

theorem reset_replay (p : Program κ σ) (e : Engine κ σ S) :
    Replay e.context.input.keys (e.keyEvents p .reset) e.reset.context.input.keys := by
  have stops : Aspect.keys.Follows e.machine e.stop.machine :=
    (Aspect.keys_rounds p).stops keys_of_stop e
  have noted : Aspect.keys.Follows e.machine (e.stop.machine.note .reset) :=
    stops.trans (Aspect.keys_record rfl)
  exact noted.replay.append (.next (.forget _) (.rest _))

/-- A call of a host leads from one state of the keys to the next by the events of the call. -/
theorem step_replay (p : Program κ σ) (e : Engine κ σ S) (call : HostCall κ σ S) :
    Replay e.context.input.keys (e.keyEvents p call) (e.step p call).2.context.input.keys := by
  have others (input : ∀ event, call ≠ .input event) (frame : ∀ now, call ≠ .frame now)
      (reset : call ≠ .reset) : Aspect.keys.Follows e.machine (e.step p call).2.machine :=
    (Aspect.keys_rounds p).step (fun _ _ touch => touch.keys input frame reset) frame e
  cases call with
  | input event => exact handleInput_replay p e event
  | frame now => exact frame_replay p now e
  | reset => exact reset_replay p e
  | _ => exact (others nofun nofun nofun).replay

theorem keyEvents_sights (p : Program κ σ) (e : Engine κ σ S) (call : HostCall κ σ S) :
    (e.keyEvents p call).filter (·.isSight) = sights (e.news p call) := by
  have all (news : List (Happening κ σ)) : (sights news).filter (·.isSight) = sights news := by
    refine List.filter_eq_self.mpr fun event member => ?_
    obtain ⟨happening, _, sees⟩ := List.mem_filterMap.mp member
    exact Happening.isSight_of_sight sees
  cases call with
  | input event =>
    have none : (e.keysOf event).filter (·.isSight) = [] := by
      unfold keysOf
      split
      · split <;> rfl
      · split <;> rfl
      · rfl
    rw [keyEvents, List.filter_append, none, all, List.nil_append]
  | reset =>
    rw [keyEvents, List.filter_append, all]
    exact List.append_nil _
  | frame now =>
    cases seen : e.collidesAt p now with
    | none =>
      rw [keyEvents_unseen seen]
      exact all _
    | some m =>
      obtain ⟨⟨framed, rfl, ⟨early, before, _⟩⟩, late, after, _⟩ := keys_of_seen seen
      have whole : e.news p (.frame now) = early ++ late := by
        refine news_eq (after.trans ?_)
        rw [← List.append_assoc, ← before]
        rfl
      have first : e.machine.since framed.untapped = early := Machine.since_eq before
      have second : framed.untapped.since (e.frame p now).2.machine = late := Machine.since_eq after
      rw [keyEvents_seen seen, whole, first, second, List.filter_append, all]
      exact (congrArg _ (all late)).trans (List.filterMap_append ..).symm
  | _ => exact all _

end Calls

section Runs
variable {p : Program κ σ} {e : Engine κ σ S}

def history {α : Type} (p : Program κ σ) (brings : Engine κ σ S → HostCall κ σ S → List α)
    (e : Engine κ σ S) : List (HostCall κ σ S) → List α
  | [] => []
  | call :: rest => brings e call ++ history p brings (e.step p call).2 rest

def keyHistory (p : Program κ σ) (e : Engine κ σ S) (run : List (HostCall κ σ S)) : List KeyEvent :=
  e.history p (keyEvents p) run

theorem after_replay (p : Program κ σ) (e : Engine κ σ S) (run : List (HostCall κ σ S)) :
    Replay e.context.input.keys (e.keyHistory p run) (e.after p run).context.input.keys := by
  induction run generalizing e with
  | nil => exact .rest _
  | cons call rest ih => exact (step_replay p e call).append (ih (e.step p call).2)

theorem keyHistory_sights (reached : Reachable p e) (run : List (HostCall κ σ S)) :
    sights e.machine.journal ++ (e.keyHistory p run).filter (·.isSight) =
      sights (e.after p run).machine.journal := by
  induction run generalizing e with
  | nil => exact List.append_nil _
  | cons call rest ih =>
    have later := ih (.step reached call)
    rw [reached.startupHeld.grows call, sights, List.filterMap_append, List.append_assoc] at later
    rw [keyHistory, history, List.filter_append, keyEvents_sights]
    exact later

/-- After a number of calls comes a frame whose handlers come through, and before it there was no
such frame and no reset. -/
structure NextSeen (p : Program κ σ) (e : Engine κ σ S) (calls : List (HostCall κ σ S)) (now : Nat)
    (m : Machine κ σ S) : Prop where
  unseen : ∀ event ∈ e.keyHistory p calls, ¬ event.untaps
  comes : (e.after p calls).collidesAt p now = some m

section NextSeen
variable {now : Nat} {m : Machine κ σ S} {key : String} {keys : KeyState}

omit [Surface S] in
theorem pressed_of_mem {event : InputEvent} (member : .pressed key ∈ e.keysOf event) :
    e.keysOf event = [.pressed key] := by
  unfold keysOf at member ⊢
  split at member
  · split at member
    · obtain same := List.mem_singleton.mp member
      rw [if_pos (by assumption), same]
    · cases member
  · split at member
    · cases List.mem_singleton.mp member
    · cases member
  · cases member

theorem NextSeen.tapped {event : InputEvent} {between : List (HostCall κ σ S)}
    (next : NextSeen p e (.input event :: between) now m)
    (pressed : .pressed key ∈ e.keysOf event)
    (member : .seen keys ∈ sights ((e.after p (.input event :: between)).machine.since m)) :
    keys.isJustPressed key := by
  obtain ⟨early, late, split⟩ := List.append_of_mem member
  obtain ⟨⟨framed, rfl, follows⟩, _⟩ := keys_of_seen next.comes
  let tail := sights (e.news p (.input event)) ++
    (e.step p (.input event)).2.keyHistory p between
  have first : e.keyHistory p (.input event :: between) = .pressed key :: tail := by
    rw [keyHistory, history, keyEvents, pressed_of_mem pressed]
    rfl
  have sees : Replay (e.after p (.input event :: between)).context.input.keys
      (early ++ .seen keys :: late) framed.context.input.keys := split ▸ follows.replay
  have replay := ((after_replay p e (.input event :: between)).append sees.seen)
  rw [first] at replay
  have unseen := next.unseen
  rw [first] at unseen
  cases replay with
  | next turns later =>
    cases turns
    refine later.tapped (isJustPressed_press.mpr (.inl rfl)) ?_
    refine List.forall_mem_append.mpr ⟨(List.forall_mem_cons.mp unseen).2, ?_⟩
    intro other before
    have among : other ∈ sights ((e.after p (.input event :: between)).machine.since framed) :=
      split ▸ List.mem_append_left _ before
    obtain ⟨happening, _, sees⟩ := List.mem_filterMap.mp among
    exact KeyEvent.not_untaps_of_isSight (Happening.isSight_of_sight sees)

theorem untapped_of_seen (seen : e.collidesAt p now = some m) {later : List (HostCall κ σ S)}
    {early late : List KeyEvent}
    (split : sights (m.since (e.frame p now).2.machine) ++
      (e.frame p now).2.keyHistory p later = early ++ .seen keys :: late)
    (unpressed : .pressed key ∉ early) : ¬ keys.isJustPressed key := by
  obtain ⟨⟨framed, rfl, _⟩, follows⟩ := keys_of_seen seen
  have replay := follows.replay.append (after_replay p _ later)
  rw [split] at replay
  exact replay.seen.untapped Bool.false_ne_true unpressed

end NextSeen

/-- What is known of the keys in a run. -/
structure KeyAccount (p : Program κ σ) (start : Engine κ σ S) (run : List (HostCall κ σ S)) :
    Prop where
  told : (start.after p run).context.input.keys.Told (start.keyHistory p run)
  seen : ∀ past keys later, start.keyHistory p run = past ++ .seen keys :: later → keys.Told past
  sights : (start.keyHistory p run).filter (·.isSight) =
    sights (start.after p run).machine.journal
  /-- A key that is pressed is tapped for the handlers of the next frame that comes through, unless
  a reset comes first. -/
  tapped : ∀ before event between later now m, run = before ++ .input event :: (between ++ later) →
    let pressed := start.after p before
    NextSeen p pressed (.input event :: between) now m →
    ∀ key keys, .pressed key ∈ pressed.keysOf event →
      .seen keys ∈ Journal.sights ((pressed.after p (.input event :: between)).machine.since m) →
      keys.isJustPressed key
  once : ∀ before now later m, run = before ++ .frame now :: later →
    let stage := start.after p before
    let next := (stage.step p (.frame now)).2
    stage.collidesAt p now = some m → ∀ key early keys late,
      Journal.sights (m.since next.machine) ++ next.keyHistory p later =
        early ++ .seen keys :: late →
      .pressed key ∉ early → ¬ keys.isJustPressed key
  collided : ∀ past between keys later,
    start.keyHistory p run = past ++ .collided :: (between ++ .seen keys :: later) →
    ∀ key, .pressed key ∉ between → ¬ keys.isJustPressed key

/-- In every run the state of the keys is a function of what came in, and so is every sight of it. A
press is seen by the handlers of one frame that come through, and never by a collision handler. -/
theorem keys_accounted (p : Program κ σ) (settings : Settings) (present : String → Bool)
    (memory : σ) (run : List (HostCall κ σ S)) :
    KeyAccount p (new settings present memory) run where
  told := (after_replay p (new settings present memory) run).told told_empty
  seen past keys later split := by
    have replay := after_replay p (new settings present memory) run
    rw [split] at replay
    exact replay.seen.told told_empty
  sights := keyHistory_sights (.new settings present memory) run
  tapped before event between later now m _ next key keys pressed member :=
    next.tapped pressed member
  once before now later m _ seen key early keys late split unpressed :=
    untapped_of_seen seen split unpressed
  collided past between keys later split key unpressed := by
    have replay := after_replay p (new settings present memory) run
    rw [split] at replay
    obtain ⟨middle, _, rest⟩ := replay.split
    cases rest with
    | next turns later =>
      cases turns with
      | collide untapped =>
        refine later.seen.untapped ?_ unpressed
        simp [isJustPressed, untapped]

end Runs

end Engine
end SpriteStage
