import Mathlib.Data.List.Basic
import SpriteStage.Proofs.Window.Deliveries

/-! Holds of keys, over any number of batches: from the press of a key to its release. The release
carries the name that the key is remembered by, and only a text after a repeated press changes that
during a hold. -/

namespace SpriteStage.EventTranslator

def translateBatches (t : EventTranslator) :
    List (List WindowEvent) → List HostAction × EventTranslator
  | [] => ([], t)
  | batch :: rest =>
    let (actions, t) := t.translateAll batch
    let (more, t) := t.translateBatches rest
    (actions ++ more, t)

def session (t : EventTranslator) : List (List WindowEvent) → List Delivery
  | [] => []
  | batch :: rest =>
    let ds := t.deliveries false batch
    ds ++ (t.finalNames ds).session rest

/-- Deliveries that follow each other, from the names at first to those at last. -/
inductive Told : EventTranslator → List Delivery → EventTranslator → Prop
  | nil (t : EventTranslator) : Told t [] t
  | cons {t last : EventTranslator} {waits : Bool} {typed : Option String} {event : WindowEvent}
      {ds : List Delivery} (single : ∀ text, typed = some text → text.toList.length = 1)
      (rest : Told (t.deliver waits typed event).names ds last) :
      Told t (t.deliver waits typed event :: ds) last

def Delivery.retypes (code : Keycode) (d : Delivery) : Option String :=
  if d.event.presses code true then d.typed else none

/-- What is typed last after a repeated press of a key. -/
def lastTyped (code : Keycode) (ds : List Delivery) : Option String :=
  (ds.filterMap (·.retypes code)).getLast?

/-- A delivery neither begins nor ends a hold of a key. -/
def Delivery.Spares (code : Keycode) (d : Delivery) : Prop :=
  d.event.presses code false = false ∧ d.event.releases code = false

section Told
variable {t between last : EventTranslator} {ds more : List Delivery}

theorem Told.append (first : Told t ds between) (second : Told between more last) :
    Told t (ds ++ more) last := by
  induction first with
  | nil t => exact second
  | cons single rest ih => exact .cons single (ih second)

theorem Told.split (told : Told t (ds ++ more) last) :
    ∃ between, Told t ds between ∧ Told between more last := by
  induction ds generalizing t with
  | nil => exact ⟨t, .nil t, told⟩
  | cons d ds ih =>
    cases told with
    | cons single rest =>
      obtain ⟨between, first, second⟩ := ih rest
      exact ⟨between, .cons single first, second⟩

theorem told_deliveries (t : EventTranslator) (waits : Bool) (events : List WindowEvent) :
    Told t (t.deliveries waits events) (t.finalNames (t.deliveries waits events)) := by
  induction events generalizing t waits with
  | nil => exact .nil t
  | cons event rest ih => exact .cons (fun text typed => typedNext_length typed) (ih _ _)

theorem deliver_event (t : EventTranslator) (waits : Bool) (typed : Option String)
    (event : WindowEvent) : (t.deliver waits typed event).event = event := by
  unfold deliver
  split <;> rfl

theorem deliver_typed (t : EventTranslator) (waits : Bool) (typed : Option String)
    (event : WindowEvent) : (t.deliver waits typed event).typed = typed := by
  unfold deliver
  split <;> rfl

theorem deliveries_events (t : EventTranslator) (waits : Bool) (events : List WindowEvent) :
    (t.deliveries waits events).map (·.event) = events := by
  induction events generalizing t waits with
  | nil => rfl
  | cons event rest ih =>
    simp only [deliveries, List.map_cons, deliver_event, ih]

theorem session_events (t : EventTranslator) (batches : List (List WindowEvent)) :
    (t.session batches).map (·.event) = batches.flatten := by
  induction batches generalizing t with
  | nil => rfl
  | cons batch rest ih =>
    simp only [session, List.map_append, deliveries_events, ih, List.flatten_cons]

/-- Batches lead to the actions of their deliveries, and these follow each other across batches. -/
theorem translateBatches_told (t : EventTranslator) (batches : List (List WindowEvent)) :
    (t.translateBatches batches).1 = (t.session batches).flatMap (·.actions) ∧
      Told t (t.session batches) (t.translateBatches batches).2 := by
  induction batches generalizing t with
  | nil => exact ⟨rfl, .nil t⟩
  | cons batch rest ih =>
    obtain ⟨actions, told⟩ := ih (t.finalNames (t.deliveries false batch))
    have first := told_deliveries t false batch
    refine ⟨?_, ?_⟩
    · simp only [translateBatches, translateAll_eq, session, List.flatMap_append, actions]
    · simp only [translateBatches, translateAll_eq, session]
      exact first.append told

end Told

section Names
variable {code : Keycode} {name : String} {t last : EventTranslator} {ds : List Delivery}

theorem retype_retype {text : String} (single : text.toList.length = 1) (later : Option String) :
    retype later (retype (some text) name) = retype (later.or (some text)) name := by
  unfold retype
  by_cases short : name.toList.length = 1
  · cases later with
    | none => simp [short, single]
    | some later => simp [short, single]
  · simp [short]

theorem lastTyped_cons (d : Delivery) (ds : List Delivery) :
    lastTyped code (d :: ds) = (lastTyped code ds).or (d.retypes code) := by
  unfold lastTyped
  cases retypes : d.retypes code with
  | none => rw [List.filterMap_cons_none retypes, Option.or_none]
  | some text => rw [List.filterMap_cons_some retypes, List.getLast?_cons, Option.or_some]

theorem name?_spared {waits : Bool} {typed : Option String} {event : WindowEvent}
    (known : t.name? code = some name) (spares : (t.deliver waits typed event).Spares code) :
    (t.deliver waits typed event).names.name? code =
      some (retype ((t.deliver waits typed event).retypes code) name) := by
  obtain ⟨unpressed, unreleased⟩ := spares
  rw [deliver_event] at unpressed unreleased
  unfold Delivery.retypes
  rw [deliver_event]
  cases event with
  | keyDown key modifiers repeated =>
    cases key with
    | none => simpa [deliver, WindowEvent.presses, retype_none] using known
    | some key =>
      by_cases same : key = code
      · have again : repeated = true := by
          simpa [WindowEvent.presses, same] using unpressed
        simp [deliver, WindowEvent.presses, same, again, name?_remember, pressName, known]
      · have other : code ≠ key := fun equal => same equal.symm
        simp [deliver, WindowEvent.presses, same, other, name?_remember, retype_none, known]
  | keyUp key modifiers =>
    cases key with
    | none => simpa [deliver, WindowEvent.presses, retype_none] using known
    | some key =>
      have other : code ≠ key := by
        intro equal
        simp [WindowEvent.releases, equal] at unreleased
      simp [deliver, WindowEvent.presses, other, name?_forget, retype_none, known]
  | _ => simpa [deliver, WindowEvent.presses, retype_none] using known

/-- Only what is typed after repeated presses changes the name of a key that is down. -/
theorem Told.name?_kept (told : Told t ds last) (known : t.name? code = some name)
    (spares : ∀ d ∈ ds, d.Spares code) :
    last.name? code = some (retype (lastTyped code ds) name) := by
  induction told generalizing name with
  | nil t => rw [known, lastTyped, List.filterMap_nil, List.getLast?_nil, retype_none]
  | @cons t last waits typed event ds single rest ih =>
    obtain ⟨first, others⟩ := List.forall_mem_cons.mp spares
    rw [ih (name?_spared known first) others, lastTyped_cons]
    cases retypes : (t.deliver waits typed event).retypes code with
    | none => rw [retype_none, Option.or_none]
    | some text =>
      have short : text.toList.length = 1 := by
        unfold Delivery.retypes at retypes
        split at retypes
        · exact single text (by rwa [deliver_typed] at retypes)
        · cases retypes
      rw [retype_retype short]

end Names

section Holds
variable {code : Keycode} {t last : EventTranslator} {before during after : List Delivery}
  {press release : Delivery}

theorem pressed_name {waits : Bool} {typed : Option String} {event : WindowEvent} {repeated : Bool}
    (presses : event.presses code repeated) : ∃ name,
      (t.deliver waits typed event).actions = [.input (.keyDown name repeated)] ∧
        (t.deliver waits typed event).names.name? code = some name := by
  obtain ⟨modifiers, rfl⟩ := WindowEvent.eq_of_presses presses
  exact ⟨_, rfl, by simp [deliver, name?_remember]⟩

theorem released_name {waits : Bool} {typed : Option String} {event : WindowEvent} {name : String}
    (releases : event.releases code) (known : t.name? code = some name) :
    (t.deliver waits typed event).actions = [.input (.keyUp name)] := by
  obtain ⟨modifiers, rfl⟩ := WindowEvent.eq_of_releases releases
  simp [deliver, known]

/-- A key is released under the name it was pressed with, or under what was typed last after a
repeated press of it, if that name is a single character. -/
theorem Told.hold (told : Told t (before ++ press :: (during ++ release :: after)) last)
    (presses : press.event.presses code false) (spares : ∀ d ∈ during, d.Spares code)
    (releases : release.event.releases code) : ∃ name,
      press.actions = [.input (.keyDown name false)] ∧
        release.actions = [.input (.keyUp (retype (lastTyped code during) name))] := by
  obtain ⟨_, _, hold⟩ := told.split
  cases hold with
  | cons single rest =>
    obtain ⟨_, held, ending⟩ := rest.split
    rw [deliver_event] at presses
    obtain ⟨name, pressed, known⟩ := pressed_name presses
    have kept := held.name?_kept known spares
    cases ending with
    | cons _ _ =>
      rw [deliver_event] at releases
      exact ⟨name, pressed, released_name releases kept⟩

end Holds

end SpriteStage.EventTranslator
