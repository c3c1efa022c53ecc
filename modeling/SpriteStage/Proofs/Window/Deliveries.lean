import SpriteStage.Proofs.Lists
import SpriteStage.Window.Translator

/-! What becomes of each event of a batch. A text changes a press that has been translated before
it; here the events are read together with what follows them, so that each leads to its actions for
good. -/

namespace SpriteStage

namespace WindowEvent

def presses (code : Keycode) (repeated : Bool) : WindowEvent → Bool
  | .keyDown (some key) _ again => key = code && again = repeated
  | _ => false

def releases (code : Keycode) : WindowEvent → Bool
  | .keyUp (some key) _ => key = code
  | _ => false

def isTyping : WindowEvent → Bool
  | .keyDown (some _) .. | .keyUp (some _) _ | .text _ => true
  | _ => false

theorem eq_of_presses {event : WindowEvent} {code : Keycode} {repeated : Bool}
    (presses : event.presses code repeated) :
    ∃ modifiers, event = .keyDown (some code) modifiers repeated := by
  unfold WindowEvent.presses at presses
  split at presses
  · obtain ⟨rfl, rfl⟩ : _ = code ∧ _ = repeated := by simpa using presses
    exact ⟨_, rfl⟩
  · cases presses

theorem eq_of_releases {event : WindowEvent} {code : Keycode} (releases : event.releases code) :
    ∃ modifiers, event = .keyUp (some code) modifiers := by
  unfold WindowEvent.releases at releases
  split at releases
  · obtain rfl : _ = code := of_decide_eq_true releases
    exact ⟨_, rfl⟩
  · cases releases

theorem typing_cases {event : WindowEvent} (typing : event.isTyping) :
    (∃ code modifiers repeated, event = .keyDown (some code) modifiers repeated) ∨
      (∃ code modifiers, event = .keyUp (some code) modifiers) ∨ ∃ text, event = .text text := by
  unfold isTyping at typing
  split at typing
  · exact .inl ⟨_, _, _, rfl⟩
  · exact .inr (.inl ⟨_, _, rfl⟩)
  · exact .inr (.inr ⟨_, rfl⟩)
  · cases typing

end WindowEvent

namespace EventTranslator

/-- The text that comes next, with no other key in between, if it is a single character. -/
def typedNext : List WindowEvent → Option String
  | [] => none
  | .text text :: _ => if text.toList.length = 1 then some text else none
  | .keyDown (some _) .. :: _ | .keyUp (some _) _ :: _ => none
  | _ :: rest => typedNext rest

/-- A name of one character gives way to the character that is typed. -/
def retype (typed : Option String) (name : String) : String :=
  if name.toList.length = 1 then typed.getD name else name

/-- An event with what is typed next in its batch, the actions it leads to, and the names that are
remembered from then on. -/
structure Delivery where
  event : WindowEvent
  typed : Option String
  actions : List HostAction
  names : EventTranslator
  waits : Bool

/-- Translate an event for good, given what is typed next. -/
def deliver (t : EventTranslator) (waits : Bool) (typed : Option String) (event : WindowEvent) :
    Delivery :=
  match event with
  | .keyDown (some code) modifiers repeated =>
    let name := t.pressName code modifiers repeated
    ⟨event, typed, [.input (.keyDown (retype typed name) repeated)],
      t.remember code (retype typed name), name.toList.length = 1⟩
  | .keyUp (some code) modifiers =>
    ⟨event, typed, [.input (.keyUp ((t.name? code).getD (code.hostName modifiers)))],
      t.forget code, false⟩
  | .text text =>
    ⟨event, typed, if waits && text.toList.length = 1 then [] else strokes text, t, false⟩
  | event => ⟨event, typed, event.action?.toList, t, waits⟩

def deliveries (t : EventTranslator) (waits : Bool) : List WindowEvent → List Delivery
  | [] => []
  | event :: rest =>
    let d := t.deliver waits (typedNext rest) event
    d :: d.names.deliveries d.waits rest

def finalNames (t : EventTranslator) (ds : List Delivery) : EventTranslator :=
  ds.foldl (fun _ d => d.names) t

section Typing

theorem typedNext_other {event : WindowEvent} (other : event.isTyping = false)
    (rest : List WindowEvent) : typedNext (event :: rest) = typedNext rest := by
  cases event with
  | keyDown code modifiers repeated =>
    cases code with
    | none => rfl
    | some code => cases other
  | keyUp code modifiers =>
    cases code with
    | none => rfl
    | some code => cases other
  | text text => cases other
  | _ => rfl

theorem deliver_other {event : WindowEvent} (other : event.isTyping = false) (t : EventTranslator)
    (waits : Bool) (typed : Option String) :
    t.deliver waits typed event = ⟨event, typed, event.action?.toList, t, waits⟩ := by
  cases event with
  | keyDown code modifiers repeated =>
    cases code with
    | none => rfl
    | some code => cases other
  | keyUp code modifiers =>
    cases code with
    | none => rfl
    | some code => cases other
  | text text => cases other
  | _ => rfl

/-- What is typed has one character, so that a name can be typed over again and again. -/
theorem typedNext_length {events : List WindowEvent} {text : String}
    (typed : typedNext events = some text) : text.toList.length = 1 := by
  induction events with
  | nil => cases typed
  | cons event rest ih =>
    unfold typedNext at typed
    split at typed
    · cases typed
    · rename_i same
      split at typed
      · rename_i single
        exact Option.some.inj typed ▸ single
      · cases typed
    · cases typed
    · cases typed
    · rename_i same
      obtain ⟨rfl, rfl⟩ := List.cons.inj same
      exact ih typed

theorem retype_none (name : String) : retype none name = name := by
  simp [retype]

end Typing

section Names
variable (t : EventTranslator) (code other : Keycode) (name : String)

theorem name?_forget :
    (t.forget code).name? other = if other = code then none else t.name? other :=
  lookup_without code other t.pressed

theorem name?_remember : (t.remember code name).name? other =
    if other = code then some name else t.name? other := by
  have kept := t.name?_forget code other
  rw [name?, remember, lookup_entry]
  by_cases same : other = code
  · rw [if_pos same, if_pos same]
  · rw [if_neg same] at kept
    rw [if_neg same, if_neg same, ← kept]
    rfl

theorem remember_remember (first : String) :
    (t.remember code first).remember code name = t.remember code name := by
  simp [remember, forget]

end Names

section Modify
variable {α : Type} (change : α → α) (before : List α)

theorem modify_append {index : Nat} (there : index < before.length) (more : List α) :
    (before ++ more).modify index change = before.modify index change ++ more := by
  have wider : index < (before ++ more).length := by
    rw [List.length_append]
    omega
  rw [List.modify_eq_take_cons_drop there, List.modify_eq_take_cons_drop wider,
    List.getElem_append_left there, List.take_append_of_le_length (Nat.le_of_lt there),
    List.drop_append_of_le_length there]
  simp

theorem modify_last (last : α) :
    (before ++ [last]).modify before.length change = before ++ [change last] := by
  rw [List.modify_eq_take_cons_drop (by simp)]
  simp

theorem modify_middle (middle : α) (after : List α) :
    (before ++ middle :: after).modify before.length change = before ++ change middle :: after := by
  have place : before.length < (before ++ [middle]).length := by
    simp
  have joined := modify_append change (before ++ [middle]) place after
  rw [modify_last] at joined
  simpa using joined

end Modify

namespace Batch

/-- A press that waits for its text is one of the actions so far. -/
def Placed (b : Batch) : Prop :=
  ∀ index code, b.pending = some (index, code) → index < b.actions.length

/-- A batch that knows already what is typed next. -/
def foretold (b : Batch) (events : List WindowEvent) : Batch :=
  match b.pending, typedNext events with
  | some (index, code), some text =>
    { b with
      translator := b.translator.remember code text
      actions := b.actions.modify index (renamePress text) }
  | _, _ => b

theorem foretold_free {b : Batch} {events : List WindowEvent}
    (free : b.pending = none ∨ typedNext events = none) : b.foretold events = b := by
  unfold foretold
  split
  · rename_i waits typed
    rcases free with none | none
    · cases waits.symm.trans none
    · cases typed.symm.trans none
  · rfl

theorem add_other {event : WindowEvent} (other : event.isTyping = false) (b : Batch) :
    b.add event = { b with actions := b.actions ++ event.action?.toList } := by
  unfold add
  split
  · cases other
  · cases other
  · cases other
  · rfl

theorem type_renames {b : Batch} {index : Nat} {code : Keycode} {text : String}
    (waits : b.pending = some (index, code)) (single : text.toList.length = 1) :
    b.type text = ⟨b.translator.remember code text,
      b.actions.modify index (renamePress text), none⟩ := by
  obtain ⟨c, only⟩ := List.length_eq_one_iff.mp single
  have same : String.ofList [c] = text := by
    rw [← only, String.ofList_toList]
  simp [type, waits, only, same]

theorem type_strokes {b : Batch} {text : String}
    (free : b.pending = none ∨ text.toList.length ≠ 1) :
    b.type text = { b with actions := b.actions ++ strokes text, pending := none } := by
  unfold type
  split
  · rename_i waits only
    rcases free with none | long
    · cases waits.symm.trans none
    · exact absurd (by simp [only]) long
  · rfl

theorem Placed.add {b : Batch} (placed : b.Placed) (event : WindowEvent) :
    (b.add event).Placed := by
  intro index code waits
  unfold Batch.add at waits ⊢
  split at waits
  · simp only [press] at waits ⊢
    split at waits
    · cases waits
      simp
    · cases waits
  · cases waits
  · unfold type at waits
    split at waits
    · cases waits
    · cases waits
  · exact Nat.lt_of_lt_of_le (placed index code waits) (by simp)

theorem foretold_press (b : Batch) (code : Keycode) (modifiers : Modifiers) (repeated : Bool)
    (rest : List WindowEvent) :
    let name := retype (typedNext rest) (b.translator.pressName code modifiers repeated)
    ((b.press code modifiers repeated).foretold rest).translator =
        b.translator.remember code name ∧
      ((b.press code modifiers repeated).foretold rest).actions =
        b.actions ++ [.input (.keyDown name repeated)] := by
  intro name
  by_cases single : (b.translator.pressName code modifiers repeated).toList.length = 1
  · cases typed : typedNext rest with
    | none =>
      have same : name = b.translator.pressName code modifiers repeated := by
        simp only [name, typed, retype_none]
      rw [foretold_free (.inr typed), same]
      exact ⟨rfl, rfl⟩
    | some text =>
      have same : name = text := by
        simp [name, typed, retype, single]
      have waits : (b.press code modifiers repeated).pending = some (b.actions.length, code) := by
        simp [press, single]
      rw [same, foretold, waits, typed]
      simp [press, remember_remember, modify_last, renamePress]
  · have same : name = b.translator.pressName code modifiers repeated := by
      simp [name, retype, single]
    have free : (b.press code modifiers repeated).pending = none := by
      simp [press, single]
    rw [foretold_free (.inl free), same]
    exact ⟨rfl, rfl⟩

theorem foretold_type (b : Batch) (text : String) (rest : List WindowEvent) :
    let known := b.foretold (.text text :: rest)
    let d := known.translator.deliver b.pending.isSome (typedNext rest) (.text text)
    ((b.type text).foretold rest).translator = d.names ∧
      ((b.type text).foretold rest).actions = known.actions ++ d.actions ∧
      (b.type text).pending.isSome = d.waits := by
  intro known d
  by_cases strikes : b.pending = none ∨ text.toList.length ≠ 1
  · have same : known = b := by
      apply foretold_free
      rcases strikes with none | long
      · exact .inl none
      · exact .inr (if_neg long)
    have struck : d = ⟨.text text, typedNext rest, strokes text, b.translator, false⟩ := by
      simp only [d, same, deliver]
      rcases strikes with none | long
      · simp [none]
      · simp [long]
    rw [type_strokes strikes, foretold_free (.inl rfl), same, struck]
    exact ⟨rfl, rfl, rfl⟩
  · obtain ⟨some, single⟩ : b.pending ≠ none ∧ text.toList.length = 1 := by
      simpa [not_or] using strikes
    obtain ⟨⟨index, code⟩, waits⟩ := Option.ne_none_iff_exists'.mp some
    have same : known = ⟨b.translator.remember code text,
        b.actions.modify index (renamePress text), b.pending⟩ := by
      simp [known, foretold, waits, typedNext, single]
    rw [type_renames waits single, foretold_free (.inl rfl)]
    simp [d, same, deliver, waits, single]

/-- An event is added to a batch that knows what is typed next. -/
theorem foretold_add {b : Batch} (placed : b.Placed) (event : WindowEvent)
    (rest : List WindowEvent) :
    let known := b.foretold (event :: rest)
    let d := known.translator.deliver b.pending.isSome (typedNext rest) event
    ((b.add event).foretold rest).translator = d.names ∧
      ((b.add event).foretold rest).actions = known.actions ++ d.actions ∧
      (b.add event).pending.isSome = d.waits := by
  intro known d
  cases other : event.isTyping with
  | false =>
    have later : known = b.foretold rest := by
      simp only [known, foretold, typedNext_other other]
    have told : d = ⟨event, typedNext rest, event.action?.toList, known.translator,
        b.pending.isSome⟩ := deliver_other other ..
    rw [add_other other, told, later]
    unfold foretold
    dsimp only
    split
    · rename_i index code text waits typed
      refine ⟨rfl, ?_, rfl⟩
      exact modify_append _ _ (placed index code waits) _
    · exact ⟨rfl, rfl, rfl⟩
  | true =>
    cases event with
    | keyDown code modifiers repeated =>
      cases code with
      | none => cases other
      | some code =>
        have same : known = b := foretold_free (.inr rfl)
        obtain ⟨names, actions⟩ := b.foretold_press code modifiers repeated rest
        have waits : (b.press code modifiers repeated).pending.isSome =
            decide ((b.translator.pressName code modifiers repeated).toList.length = 1) := by
          by_cases single : (b.translator.pressName code modifiers repeated).toList.length = 1
          · simp [press, single]
          · simp [press, single]
        simp only [d, same]
        exact ⟨names, actions, waits⟩
    | keyUp code modifiers =>
      cases code with
      | none => cases other
      | some code =>
        have same : known = b := foretold_free (.inr rfl)
        have free : (b.add (.keyUp (some code) modifiers)).pending = none := rfl
        rw [foretold_free (.inl free)]
        simp only [d, same]
        exact ⟨rfl, rfl, rfl⟩
    | text text => exact foretold_type b text rest
    | _ => cases other

theorem foldl_add {b : Batch} (placed : b.Placed) (events : List WindowEvent) :
    let known := b.foretold events
    let ds := known.translator.deliveries b.pending.isSome events
    (events.foldl add b).actions = known.actions ++ ds.flatMap (·.actions) ∧
      (events.foldl add b).translator = known.translator.finalNames ds := by
  induction events generalizing b with
  | nil =>
    have same : b.foretold [] = b := foretold_free (.inr rfl)
    rw [same]
    exact ⟨(List.append_nil _).symm, rfl⟩
  | cons event rest ih =>
    intro known ds
    obtain ⟨names, actions, waits⟩ := foretold_add placed event rest
    obtain ⟨restActions, restNames⟩ := ih (placed.add event)
    rw [names, waits] at restActions restNames
    refine ⟨?_, restNames⟩
    rw [List.foldl_cons, restActions, actions, List.append_assoc]
    rfl

end Batch

/-- A batch leads to the actions of its deliveries. -/
theorem translateAll_eq (t : EventTranslator) (events : List WindowEvent) :
    t.translateAll events = ((t.deliveries false events).flatMap (·.actions),
      t.finalNames (t.deliveries false events)) := by
  have placed : Batch.Placed ⟨t, [], none⟩ := fun index code => nofun
  obtain ⟨actions, names⟩ := Batch.foldl_add placed events
  rw [Batch.foretold_free (.inl rfl)] at actions names
  exact Prod.ext (actions.trans (List.nil_append _)) names

end EventTranslator
end SpriteStage
