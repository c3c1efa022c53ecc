import Mathlib.Data.List.Nodup
import SpriteStage.Proofs.Engine.Enrolment
import SpriteStage.Proofs.Input.Key

namespace SpriteStage

namespace KeyEvent

def named : KeyEvent → KeyEvent
  | .pressed raw => .pressed (Key.canonical raw)
  | .released raw => .released (Key.canonical raw)
  | event => event

/-- A key that was held is not held any longer, by whatever name it is released. -/
def liftsAlike (name : String) : KeyEvent → Bool
  | .released raw => Key.canonical raw = Key.canonical name
  | .forgotten => true
  | _ => false

/-- A key that the name stands for was pressed, by whatever name, and nothing has undone it. -/
def PressedAlike (name : String) (undoes : KeyEvent → Bool) (past : List KeyEvent) : Prop :=
  ∃ raw, Key.canonical raw = Key.canonical name ∧ Standing (.pressed raw) undoes past

theorem named_of_isSight {event : KeyEvent} (sight : event.isSight) :
    event.named = event := by
  cases event with
  | seen | collided => rfl
  | _ => cases sight

theorem named_eq_pressed {event : KeyEvent} {key : String} :
    event.named = .pressed key ↔ ∃ raw, event = .pressed raw ∧ Key.canonical raw = key := by
  cases event with
  | pressed raw => simp [named]
  | _ => simp [named]

theorem standing_named (name : String) (undoes : KeyEvent → Bool) (past : List KeyEvent) :
    Standing (.pressed (Key.canonical name)) undoes (past.map named) ↔
      PressedAlike name (fun event => undoes event.named) past := by
  simp only [standing_map, named_eq_pressed, PressedAlike]
  constructor
  · rintro ⟨_, ⟨raw, rfl, same⟩, stands⟩
    exact ⟨raw, same, stands⟩
  · rintro ⟨raw, same, stands⟩
    exact ⟨_, ⟨raw, rfl, same⟩, stands⟩

end KeyEvent

namespace KeyState
open KeyEvent
variable {keys : KeyState} {past : List KeyEvent}

/-- What a history of raw names tells of the keys. -/
structure ToldRaw (past : List KeyEvent) (keys : KeyState) : Prop where
  held : ∀ name, keys.isHeld (Key.canonical name) ↔ PressedAlike name (liftsAlike name) past
  tapped : ∀ name, keys.isJustPressed (Key.canonical name) ↔ PressedAlike name untaps past

theorem Told.raw (told : keys.Told (past.map named)) : keys.ToldRaw past where
  held name := by
    have lifts : (fun event : KeyEvent => lifts (Key.canonical name) event.named) =
        liftsAlike name := by
      funext event
      cases event <;> rfl
    rw [told.held, standing_named, lifts]
  tapped name := by
    have untaps : (fun event : KeyEvent => event.named.untaps) = untaps := by
      funext event
      cases event <;> rfl
    rw [told.tapped, standing_named, untaps]

end KeyState

section Registrations
variable {κ σ : Type}

def Happening.keyed? : Happening κ σ → Option (String × Registered κ)
  | .called (.onKey name handler) ticket => some (name, ⟨ticket, handler⟩)
  | _ => none

theorem Happening.ticket?_of_keyed {happening : Happening κ σ} {ticket : Nat}
    (made : happening.keyed?.map (·.2.ticket) = some ticket) :
    happening.ticket? = some ticket := by
  unfold keyed? at made
  split at made
  · exact made
  · cases made

/-- The registrations for keys since the last reset. -/
def Journal.keyed (journal : List (Happening κ σ)) : List (String × Registered κ) :=
  (Journal.current journal).filterMap (·.keyed?)

theorem registered?_key (name : String) (happening : Happening κ σ) :
    happening.registered? (.key (Key.canonical name)) =
      (happening.keyed?.filter fun entry => Key.canonical entry.1 = Key.canonical name).map
        (·.2) := by
  cases happening with
  | called c ticket =>
    cases c with
    | onKey other handler =>
      by_cases same : Key.canonical other = Key.canonical name
      · simp [Happening.registered?, Happening.keyed?, Option.filter, same]
      · simp [Happening.registered?, Happening.keyed?, Option.filter, same, Ne.symm same]
    | onStart | onFrame => simp [Happening.registered?, Happening.keyed?]
    | _ => rfl
  | _ => rfl

end Registrations

namespace Engine
open Journal KeyEvent KeyState
variable {κ σ S : Type}

/-- What an event does to the keys, under the names that the host uses. -/
def rawKeysOf (e : Engine κ σ S) : InputEvent → List KeyEvent
  | .keyDown raw false =>
    if e.context.input.isAttached && !e.swallows raw then [.pressed raw] else []
  | .keyUp raw => if e.context.input.isAttached then [.released raw] else []
  | _ => []

theorem rawKeysOf_canonical (e : Engine κ σ S) (event : InputEvent) :
    (e.rawKeysOf event).map named = e.keysOf event := by
  cases event with
  | keyDown raw repeated =>
    cases repeated with
    | true => rfl
    | false =>
      simp only [rawKeysOf, keysOf]
      split <;> rfl
  | keyUp raw =>
    simp only [rawKeysOf, keysOf]
    split <;> rfl
  | _ => rfl

theorem sights_named (news : List (Happening κ σ)) : (sights news).map named = sights news := by
  refine (List.map_congr_left fun event member => ?_).trans (List.map_id _)
  obtain ⟨happening, _, sees⟩ := List.mem_filterMap.mp member
  exact named_of_isSight (Happening.isSight_of_sight sees)

section Enlisted
variable {e : Engine κ σ S}

theorem Enlisted.table (enlisted : e.Enlisted) (raw : String) :
    (e.context.handlers.takeKey (Key.canonical raw)).1 = ((keyed e.machine.journal).filter
      fun entry => Key.canonical entry.1 = Key.canonical raw).map (·.2) := by
  rw [keyed, List.filter_filterMap, List.map_filterMap]
  refine (enlisted.tables (.key (Key.canonical raw))).trans ?_
  exact List.filterMap_congr fun happening _ => registered?_key raw happening

theorem Enlisted.distinct (enlisted : e.Enlisted) :
    ((keyed e.machine.journal).map (·.2.ticket)).Nodup := by
  have counted : (e.machine.journal.filterMap (·.ticket?)).Nodup :=
    enlisted.tickets ▸ List.nodup_range'
  rw [List.Nodup, List.pairwise_filterMap] at counted
  rw [keyed, List.map_filterMap, List.Nodup, List.pairwise_filterMap]
  refine (counted.sublist (List.rtakeWhile_suffix _ _).sublist).imp ?_
  intro first second apart ticket made other madeToo
  exact apart ticket (Happening.ticket?_of_keyed made) other (Happening.ticket?_of_keyed madeToo)

theorem Enlisted.belongs (enlisted : e.Enlisted) (raw : String) {entry : String × Registered κ}
    (member : entry ∈ keyed e.machine.journal) :
    entry.2 ∈ (e.context.handlers.takeKey (Key.canonical raw)).1 ↔
      Key.canonical entry.1 = Key.canonical raw := by
  rw [enlisted.table raw, List.mem_map]
  constructor
  · rintro ⟨other, listed, same⟩
    obtain ⟨among, alike⟩ := List.mem_filter.mp listed
    have only := List.inj_on_of_nodup_map enlisted.distinct among member
      (congrArg Registered.ticket same)
    exact only ▸ of_decide_eq_true alike
  · exact fun alike => ⟨entry, List.mem_filter.mpr ⟨member, decide_eq_true alike⟩, rfl⟩

end Enlisted

variable [Surface S]

def rawKeyEvents (p : Program κ σ) (e : Engine κ σ S) (call : HostCall κ σ S) : List KeyEvent :=
  match call with
  | .input event => e.rawKeysOf event ++ sights (e.news p call)
  | _ => e.keyEvents p call

def rawKeyHistory (p : Program κ σ) (e : Engine κ σ S) (run : List (HostCall κ σ S)) :
    List KeyEvent :=
  e.history p (rawKeyEvents p) run

theorem rawKeyEvents_named (p : Program κ σ) (e : Engine κ σ S) (call : HostCall κ σ S) :
    (e.rawKeyEvents p call).map named = e.keyEvents p call := by
  cases call with
  | input event =>
    rw [rawKeyEvents, List.map_append, rawKeysOf_canonical, sights_named]
    rfl
  | frame now =>
    change (e.keyEvents p (.frame now)).map named = _
    cases seen : e.collidesAt p now with
    | none => rw [keyEvents_unseen seen, sights_named]
    | some m => simp [keyEvents_seen seen, sights_named, named]
  | reset => simp [rawKeyEvents, keyEvents, sights_named, named]
  | _ => exact sights_named _

theorem rawKeyHistory_named (p : Program κ σ) (e : Engine κ σ S) (run : List (HostCall κ σ S)) :
    (e.rawKeyHistory p run).map named = e.keyHistory p run := by
  induction run generalizing e with
  | nil => rfl
  | cons call rest ih =>
    rw [rawKeyHistory, keyHistory, history, history, List.map_append, rawKeyEvents_named]
    exact congrArg _ (ih (e.step p call).2)

/-- Names of one key mean the same at the end of a run: for questions about the keys, and for the
handlers that are registered and run. -/
structure NamesAgree (p : Program κ σ) (start : Engine κ σ S) (run : List (HostCall κ σ S)) :
    Prop where
  held : ∀ name, (start.after p run).context.keyHeld name ↔
    PressedAlike name (liftsAlike name) (start.rawKeyHistory p run)
  tapped : ∀ name, (start.after p run).context.keyTapped name ↔
    PressedAlike name untaps (start.rawKeyHistory p run)
  seen : ∀ past keys later, start.rawKeyHistory p run = past ++ .seen keys :: later →
    keys.ToldRaw past
  table : ∀ raw, ((start.after p run).context.handlers.takeKey (Key.canonical raw)).1 =
    ((keyed (start.after p run).machine.journal).filter
      fun entry => Key.canonical entry.1 = Key.canonical raw).map (·.2)
  belongs : ∀ raw, ∀ entry ∈ keyed (start.after p run).machine.journal,
    entry.2 ∈ ((start.after p run).context.handlers.takeKey (Key.canonical raw)).1 ↔
      Key.canonical entry.1 = Key.canonical raw
  counts : ∀ name, (start.after p run).context.handlers.keyCount name =
    (keyed (start.after p run).machine.journal).countP
      fun entry => Key.canonical entry.1 = Key.canonical name
  dispatched : ∀ raw, (start.after p run).admits raw → ∃ ended, KeyPlayed p raw
    (start.after p run) ((start.after p run).handleInput p (.keyDown raw false)) ended

theorem namesAgree {start : Engine κ σ S} (reached : Reachable p start)
    (told : start.context.input.keys.Told []) (run : List (HostCall κ σ S)) :
    NamesAgree p start run := by
  have replay := after_replay p start run
  have enlisted := (reachable_after p run reached).enlisted
  have keys : (start.after p run).context.input.keys.ToldRaw (start.rawKeyHistory p run) := by
    refine Told.raw ?_
    rw [rawKeyHistory_named]
    exact replay.told told
  refine ⟨keys.held, keys.tapped, ?_, enlisted.table, fun raw _ => enlisted.belongs raw, ?_, ?_⟩
  · intro past sight later split
    refine Told.raw ?_
    rw [← rawKeyHistory_named, split, List.map_append, List.map_cons] at replay
    exact replay.seen.told told
  · intro name
    have table := congrArg List.length (enlisted.table name)
    rw [List.length_map, ← List.countP_eq_length_filter] at table
    exact table
  · intro raw admitted
    have brought : (start.after p run).keyOf (.keyDown raw false) = some raw := by
      simp [keyOf, admitted]
    rw [handleInput_some brought]
    exact dispatch_played p raw _

/-- Canonical names are fixed, so it makes no difference whether a name is made canonical once or
twice; and in every run, names of one key mean the same. -/
theorem key_names_agree (p : Program κ σ) (settings : Settings) (present : String → Bool)
    (memory : σ) (run : List (HostCall κ σ S)) :
    (∀ raw, Key.canonical (Key.canonical raw) = Key.canonical raw) ∧
    (∀ (c : Context κ) name, c.keyHeld (Key.canonical name) = c.keyHeld name ∧
      c.keyTapped (Key.canonical name) = c.keyTapped name ∧
      c.handlers.keyCount (Key.canonical name) = c.handlers.keyCount name) ∧
    NamesAgree p (new settings present memory) run := by
  have fixed := Key.canonical_canonical
  refine ⟨fixed, fun c name => ?_, ?_⟩
  · simp only [Context.keyHeld, Context.keyTapped, Handlers.keyCount, fixed, and_self]
  · exact namesAgree (.new settings present memory) told_empty run

end Engine
end SpriteStage
