import SpriteStage.Proofs.Engine.Moves
import SpriteStage.Proofs.Script.Effects
import SpriteStage.Proofs.Window.Holds
import SpriteStage.Surface.Recording

namespace SpriteStage

def HostCall.event? {κ σ S : Type} : HostCall κ σ S → Option InputEvent
  | .input event => some event
  | _ => none

def HostAction.event? : HostAction → Option InputEvent
  | .input event => some event
  | .quit => none

namespace InputEvent

/-- The event presses a key of a canonical name anew. -/
def Presses (name : String) (event : InputEvent) : Prop :=
  ∃ key, event = .keyDown key false ∧ Key.canonical key = name

def Releases (name : String) (event : InputEvent) : Prop :=
  ∃ key, event = .keyUp key ∧ Key.canonical key = name

def Unreleased (name : String) (events : List InputEvent) : Prop :=
  ∃ before press after, events = before ++ press :: after ∧ press.Presses name ∧
    ∀ event ∈ after, ¬ event.Releases name

variable {name : String} {first second : List InputEvent}

theorem Unreleased.cons {event : InputEvent} (later : Unreleased name first) :
    Unreleased name (event :: first) := by
  obtain ⟨before, press, after, rfl, pressed⟩ := later
  exact ⟨event :: before, press, after, rfl, pressed⟩

theorem not_unreleased_nil : ¬ Unreleased name [] := by
  rintro ⟨before, press, after, split, _⟩
  cases before with
  | nil => cases split
  | cons head rest => cases split

theorem Unreleased.single {event : InputEvent} (unreleased : Unreleased name [event]) :
    event.Presses name := by
  obtain ⟨before, press, after, split, presses, _⟩ := unreleased
  cases before with
  | nil =>
    obtain ⟨rfl, -⟩ := List.cons.inj split
    exact presses
  | cons head rest =>
    obtain ⟨-, rest⟩ := List.cons.inj split
    simp at rest

theorem Unreleased.append (unreleased : Unreleased name (first ++ second)) :
    Unreleased name second ∨
      Unreleased name first ∧ ∀ event ∈ second, ¬ event.Releases name := by
  obtain ⟨before, press, after, split, presses, kept⟩ := unreleased
  rcases List.append_eq_append_iff.mp split with ⟨between, rfl, rest⟩ | ⟨between, rfl, rest⟩
  · exact .inl ⟨between, press, after, rest, presses, kept⟩
  · cases between with
    | nil =>
      rw [List.nil_append] at rest
      exact .inl ⟨[], press, after, rest.symm, presses, kept⟩
    | cons head between =>
      obtain ⟨rfl, rfl⟩ := List.cons.inj rest
      refine .inr ⟨⟨before, press, between, rfl, presses, ?_⟩, ?_⟩
      · exact fun event member => kept event (List.mem_append_left _ member)
      · exact fun event member => kept event (List.mem_append_right _ member)

end InputEvent

namespace Engine
variable {κ σ S : Type}

/-- A listener stays attached, and no key goes down but one that is pressed. -/
structure Presses (call : HostCall κ σ S) (before after : Machine κ σ S) : Prop where
  attached : before.context.input.isAttached → after.context.input.isAttached
  held : ∀ name ∈ after.context.input.keys.held, name ∈ before.context.input.keys.held ∨
    ∃ event, call.event? = some event ∧ event.Presses name

theorem Presses.of_same {call : HostCall κ σ S} {before after : Machine κ σ S}
    (same : after.context.input = before.context.input) : Presses call before after := by
  constructor
  · rw [same]
    exact id
  · intro name held
    rw [same] at held
    exact .inl held

variable [Surface S] {p : Program κ σ} {e : Engine κ σ S} {name : String}

theorem routine_presses (p : Program κ σ) (call : HostCall κ σ S) : Routine p (Presses call) := by
  refine .of_kept ⟨fun m => .of_same rfl, fun first second => ?_, fun c m => ?_⟩
    (fun m _ _ => .of_same rfl) (fun m _ _ => .of_same rfl) (fun m _ => .of_same rfl)
    (fun m _ _ => .of_same rfl)
  · refine ⟨fun attached => second.attached (first.attached attached), fun name held => ?_⟩
    rcases second.held name held with between | pressed
    · exact first.held name between
    · exact .inr pressed
  · exact .of_same (Machine.effect_spares c m).input

theorem Touch.presses {call : HostCall κ σ S} {before after : Machine κ σ S}
    (touch : Touch call before after) : Presses call before after := by
  cases touch with
  | attached => exact ⟨fun _ => rfl, fun name held => .inl held⟩
  | pressed key =>
    refine ⟨id, fun name held => ?_⟩
    rcases List.mem_insert_iff.mp held with new | old
    · exact .inr ⟨_, rfl, key, rfl, new.symm⟩
    · exact .inl old
  | released => exact ⟨id, fun name held => .inl (List.mem_of_mem_filter held)⟩
  | moused event =>
    obtain ⟨mouse, same⟩ := before.context.input.applyMouse_frame event
    have keys : (before.onInput (·.applyMouse event)).context.input =
        { before.context.input with mouse := mouse } := same
    exact ⟨fun attached => keys ▸ attached, fun name held => .inl (by rwa [keys] at held)⟩
  | forgotten => exact ⟨id, fun name held => absurd held List.not_mem_nil⟩
  | loaded =>
    obtain ⟨_, _, _, _, _, same⟩ := before.completeLoads_frame
    exact .of_same (by rw [same])
  | drawn now draws =>
    obtain ⟨_, prompt, same, _⟩ := draws.context
    exact .of_same (by rw [same])
  | placed => exact ⟨id, fun name held => .inl held⟩
  | untapped => exact ⟨id, fun name held => .inl held⟩
  | timed | hidden | heard | fired | unguarded | typed => exact .of_same rfl

theorem handleInput_releases {event : InputEvent} (attached : e.context.input.isAttached)
    (releases : event.Releases name) :
    name ∉ (e.handleInput p event).2.context.input.keys.held := by
  obtain ⟨key, rfl, canonical⟩ := releases
  have comes : (e.handleInput p (.keyUp key)).2.context.input.keys =
      e.context.input.keys.release (Key.canonical key) := by
    rw [handleInput_keyUp p key attached]
    rfl
  rw [comes, KeyState.release, canonical]
  simp

/-- A key that is held after calls of a host was held before, or an event pressed it; and no event
has released it since. -/
theorem held_after (attached : e.context.input.isAttached) (calls : List (HostCall κ σ S))
    (held : name ∈ (e.after p calls).context.input.keys.held) :
    (name ∈ e.context.input.keys.held ∧
        ∀ event ∈ calls.filterMap (·.event?), ¬ event.Releases name) ∨
      InputEvent.Unreleased name (calls.filterMap (·.event?)) := by
  induction calls generalizing e with
  | nil => exact .inl ⟨held, by simp⟩
  | cons call rest ih =>
    have presses : Presses call e.machine (e.step p call).2.machine :=
      (routine_presses p call).step (fun before after touch => touch.presses) e
    have later := ih (presses.attached attached) held
    cases brings : call.event? with
    | none =>
      rw [List.filterMap_cons_none brings]
      rcases later with ⟨between, kept⟩ | unreleased
      · rcases presses.held name between with old | ⟨event, same, _⟩
        · exact .inl ⟨old, kept⟩
        · cases brings.symm.trans same
      · exact .inr unreleased
    | some event =>
      rw [List.filterMap_cons_some brings]
      rcases later with ⟨between, kept⟩ | unreleased
      · have input : call = .input event := by
          cases call with
          | input other => exact congrArg _ (Option.some.inj brings)
          | _ => cases brings
        subst input
        rcases presses.held name between with old | ⟨pressed, same, presses⟩
        · refine .inl ⟨old, List.forall_mem_cons.mpr ⟨fun releases => ?_, kept⟩⟩
          exact handleInput_releases attached releases between
        · obtain rfl := Option.some.inj same
          exact .inr ⟨[], _, _, rfl, presses, kept⟩
      · exact .inr unreleased.cons

end Engine

namespace EventTranslator
open InputEvent
variable {t last : EventTranslator} {name : String} {ds : List Delivery}

def Delivery.inputs (d : Delivery) : List InputEvent := d.actions.filterMap (·.event?)

theorem strokes_released (text : String) :
    ¬ Unreleased name ((strokes text).filterMap (·.event?)) := by
  unfold strokes
  induction text.toList with
  | nil => exact not_unreleased_nil
  | cons c rest ih =>
    intro unreleased
    rw [List.flatMap_cons, List.filterMap_append] at unreleased
    rcases unreleased.append with later | ⟨now, _⟩
    · exact ih later
    · let key := String.ofList [c]
      have stroke : Unreleased name ([.keyDown key false] ++ [.keyUp key]) := now
      rcases stroke.append with released | ⟨pressed, kept⟩
      · obtain ⟨_, same, _⟩ := released.single
        cases same
      · obtain ⟨_, same, canonical⟩ := pressed.single
        cases same
        exact kept _ (List.mem_singleton_self _) ⟨key, rfl, canonical⟩

/-- Only the first press of a key leaves it unreleased. -/
theorem unreleased_inputs {waits : Bool} {typed : Option String} {event : WindowEvent}
    (unreleased : Unreleased name (t.deliver waits typed event).inputs) : ∃ code key,
      event.presses code false ∧ Key.canonical key = name ∧
        (t.deliver waits typed event).actions = [.input (.keyDown key false)] := by
  cases event with
  | keyDown code modifiers repeated =>
    cases code with
    | none => exact absurd unreleased not_unreleased_nil
    | some code =>
      obtain ⟨key, same, canonical⟩ := unreleased.single
      obtain ⟨rfl, rfl⟩ := InputEvent.keyDown.inj same
      exact ⟨code, _, by simp [WindowEvent.presses], canonical, rfl⟩
  | keyUp code modifiers =>
    cases code with
    | none => exact absurd unreleased not_unreleased_nil
    | some code =>
      obtain ⟨_, same, _⟩ := unreleased.single
      cases same
  | text text =>
    simp only [deliver, Delivery.inputs] at unreleased
    split at unreleased
    · exact absurd unreleased not_unreleased_nil
    · exact absurd unreleased (strokes_released text)
  | motion x y =>
    obtain ⟨_, same, _⟩ := unreleased.single
    cases same
  | press button x y =>
    cases button with
    | left =>
      obtain ⟨_, same, _⟩ := unreleased.single
      cases same
    | _ => exact absurd unreleased not_unreleased_nil
  | release button x y =>
    cases button with
    | left =>
      obtain ⟨_, same, _⟩ := unreleased.single
      cases same
    | _ => exact absurd unreleased not_unreleased_nil
  | quit => exact absurd unreleased not_unreleased_nil
  | other => exact absurd unreleased not_unreleased_nil

theorem unreleased_split (unreleased : Unreleased name (ds.flatMap (·.inputs))) :
    ∃ before d after, ds = before ++ d :: after ∧ Unreleased name d.inputs ∧
      ∀ later ∈ after, ∀ event ∈ later.inputs, ¬ event.Releases name := by
  induction ds with
  | nil => exact absurd unreleased not_unreleased_nil
  | cons d rest ih =>
    rcases unreleased.append with later | ⟨now, kept⟩
    · obtain ⟨before, d', after, rfl, unreleased, kept⟩ := ih later
      exact ⟨d :: before, d', after, rfl, unreleased, kept⟩
    · refine ⟨[], d, rest, rfl, now, fun later member event brings => kept event ?_⟩
      exact List.mem_flatMap.mpr ⟨later, member, brings⟩

/-- A hold that ends under another name than it began with: the key was pressed anew in between, or
typed over after a repeated press. -/
structure Overwritten (name : String) (code : Keycode) (press : Delivery) (during : List Delivery)
    (release : Delivery) : Prop where
  presses : press.event.presses code false
  pressed : ∃ key, press.actions = [.input (.keyDown key false)] ∧ Key.canonical key = name
  releases : release.event.releases code
  released : ∃ key, release.actions = [.input (.keyUp key)] ∧ Key.canonical key ≠ name
  holds : ∀ d ∈ during, d.event.releases code = false
  changed : ∃ d ∈ during, d.event.presses code false ∨ (d.retypes code).isSome

def allReleased : List WindowEvent → Bool
  | [] => true
  | .keyDown (some code) _ false :: rest => rest.any (·.releases code) && allReleased rest
  | _ :: rest => allReleased rest

theorem allReleased_cons {event : WindowEvent} {rest : List WindowEvent}
    (all : allReleased (event :: rest)) : allReleased rest := by
  unfold allReleased at all
  split at all
  · rename_i same
    cases same
  · rename_i same
    obtain ⟨-, rfl⟩ := List.cons.inj same
    exact (Bool.and_eq_true_iff.mp all).2
  · rename_i same
    obtain ⟨-, rfl⟩ := List.cons.inj same
    exact all

theorem exists_release {before after : List WindowEvent} {press : WindowEvent} {code : Keycode}
    (all : allReleased (before ++ press :: after)) (presses : press.presses code false) :
    ∃ release ∈ after, release.releases code := by
  induction before with
  | nil =>
    obtain ⟨modifiers, rfl⟩ := WindowEvent.eq_of_presses presses
    exact List.any_eq_true.mp (Bool.and_eq_true_iff.mp all).1
  | cons event rest ih => exact ih (allReleased_cons all)

theorem exists_first {α : Type} (test : α → Bool) {list : List α} {a : α} (member : a ∈ list)
    (passes : test a) : ∃ early first late, list = early ++ first :: late ∧ test first ∧
      ∀ b ∈ early, test b = false := by
  obtain ⟨first, early, late, fails, passes, split, _⟩ := List.exists_of_eraseP member passes
  exact ⟨early, first, late, split, passes, fun b before => by simpa using fails b before⟩

theorem lastTyped_none {code : Keycode} (unchanged : ∀ d ∈ ds, (d.retypes code).isSome = false) :
    lastTyped code ds = none := by
  have none : ds.filterMap (·.retypes code) = [] :=
    List.filterMap_eq_nil_iff.mpr fun d member => by simpa using unchanged d member
  rw [lastTyped, none, List.getLast?_nil]

theorem Told.release {before after : List Delivery} {release : Delivery} {code : Keycode}
    (told : Told t (before ++ release :: after) last) (releases : release.event.releases code) :
    ∃ key, release.actions = [.input (.keyUp key)] := by
  obtain ⟨_, _, ending⟩ := told.split
  cases ending with
  | cons _ _ =>
    rw [deliver_event] at releases
    obtain ⟨modifiers, rfl⟩ := WindowEvent.eq_of_releases releases
    exact ⟨_, rfl⟩

/-- A key that is left unreleased although all keys were released has an overwritten hold. -/
theorem Told.overwritten (told : Told t ds last) (all : allReleased (ds.map (·.event)))
    (unreleased : Unreleased name (ds.flatMap (·.inputs))) :
    ∃ before code press during release after,
      ds = before ++ press :: (during ++ release :: after) ∧
        Overwritten name code press during release := by
  obtain ⟨before, press, later, rfl, unreleased, kept⟩ := unreleased_split unreleased
  have presses : ∃ code key, press.event.presses code false ∧ Key.canonical key = name ∧
      press.actions = [.input (.keyDown key false)] := by
    obtain ⟨between, _, hold⟩ := told.split
    cases hold with
    | cons _ _ =>
      rw [deliver_event]
      exact unreleased_inputs unreleased
  obtain ⟨code, key, presses, canonical, pressed⟩ := presses
  rw [List.map_append, List.map_cons] at all
  obtain ⟨_, member, released⟩ := exists_release all presses
  obtain ⟨d, present, rfl⟩ := List.mem_map.mp member
  obtain ⟨during, release, after, rfl, releases, holds⟩ :=
    exists_first (fun d => d.event.releases code) present released
  have ending : before ++ press :: (during ++ release :: after) =
      (before ++ press :: during) ++ release :: after := by simp
  obtain ⟨other, comes⟩ := (ending ▸ told).release releases
  have elsewhere : Key.canonical other ≠ name := by
    intro same
    refine kept release (by simp) (.keyUp other) ?_ ⟨other, rfl, same⟩
    simp [Delivery.inputs, comes, HostAction.event?]
  refine ⟨before, code, press, during, release, after, rfl, presses, ⟨key, pressed, canonical⟩,
    releases, ⟨other, comes, elsewhere⟩, holds, ?_⟩
  by_contra unchanged
  have quiet : ∀ d ∈ during, d.event.presses code false = false ∧
      (d.retypes code).isSome = false := by
    simpa only [not_exists, not_and, not_or, Bool.not_eq_true] using unchanged
  obtain ⟨first, began, ended⟩ :=
    told.hold presses (fun d member => ⟨(quiet d member).1, holds d member⟩) releases
  rw [lastTyped_none fun d member => (quiet d member).2, retype_none] at ended
  have same : first = key := by simpa using began.symm.trans pressed
  have same' : first = other := by simpa using ended.symm.trans comes
  exact elsewhere (same' ▸ same ▸ canonical)

/-- What becomes of the names of keys in a session of a window. -/
structure NamesKept (t : EventTranslator) (batches : List (List WindowEvent)) : Prop where
  events : (t.session batches).map (·.event) = batches.flatten
  actions : (t.translateBatches batches).1 = (t.session batches).flatMap (·.actions)
  /-- A hold ends under the name it began with, or under what was typed last after a repeated press
  in it if that name is a single character. -/
  holds : ∀ code before press during release after,
    t.session batches = before ++ press :: (during ++ release :: after) →
    press.event.presses code false → (∀ d ∈ during, d.Spares code) →
    release.event.releases code → ∃ name, press.actions = [.input (.keyDown name false)] ∧
      release.actions = [.input (.keyUp (retype (lastTyped code during) name))]
  /-- A key that an engine holds down after all, when each key has been released, was left over by a
  hold that was overwritten. -/
  leftover : ∀ {κ σ S : Type} [Surface S] (p : Program κ σ) (e : Engine κ σ S)
    (calls : List (HostCall κ σ S)), e.context.input.isAttached →
    e.context.input.keys.held = [] →
    calls.filterMap (·.event?) = (t.translateBatches batches).1.filterMap (·.event?) →
    allReleased batches.flatten → ∀ name ∈ (e.after p calls).context.input.keys.held,
    ∃ before code press during release after,
      t.session batches = before ++ press :: (during ++ release :: after) ∧
        Overwritten name code press during release

/-- Keys are released under the name they were pressed with, except where a text follows a repeated
press of the key: such a text takes the place of the name, and the key stays down under the old one.
-/
theorem names_kept (t : EventTranslator) (batches : List (List WindowEvent)) :
    NamesKept t batches := by
  obtain ⟨actions, told⟩ := translateBatches_told t batches
  have events := session_events t batches
  refine ⟨events, actions, ?_, ?_⟩
  · intro code before press during release after split presses spares releases
    exact (split ▸ told).hold presses spares releases
  · intro κ σ S _ p e calls attached empty inputs all name held
    have fed : calls.filterMap (·.event?) = (t.session batches).flatMap (·.inputs) := by
      rw [inputs, actions, List.filterMap_flatMap]
      rfl
    rcases Engine.held_after attached calls held with ⟨old, _⟩ | unreleased
    · rw [empty] at old
      cases old
    · exact told.overwritten (events ▸ all) (fed ▸ unreleased)

def bare : Program Unit Unit where
  onStart _ := return none
  onFrame _ _ := return ()
  onKey _ := return ()
  onCollision _ := return ()
  onSettled _ _ := return ()
  onPoll _ := return .done

/-- The slash key goes down with shift; shift comes up, the key repeats, and comes up too. -/
def slashHold : List (List WindowEvent) :=
  let shift := Keycode.placeMark + 225
  [[.keyDown shift ⟨true, false⟩ false, .keyDown (some 47) ⟨true, false⟩ false, .text "?"],
    [.keyUp shift ⟨false, false⟩, .keyDown (some 47) ⟨false, false⟩ true, .text "/"],
    [.keyUp (some 47) ⟨false, false⟩]]

/-- The key is pressed as a question mark and released as a slash, so an engine holds the question
mark down for good. -/
theorem typed_repeat_leaves_key :
    let actions := (empty.translateBatches slashHold).1
    let stage : Engine Unit Unit RecordingSurface :=
      (Engine.new .standard (fun _ => false) ()).after bare [.attach (.ofSize 640 480)]
    let calls := (actions.filterMap (·.event?)).map .input
    actions = [.input (.keyDown "Shift" false), .input (.keyDown "?" false),
        .input (.keyUp "Shift"), .input (.keyDown "/" true), .input (.keyUp "/")] ∧
      allReleased slashHold.flatten ∧ stage.context.input.isAttached ∧
      stage.context.input.keys.held = [] ∧
      (stage.after bare calls).context.input.keys.held = ["?"] :=
  ⟨by rfl, by rfl, by rfl, by rfl, by rfl⟩

end EventTranslator
end SpriteStage
