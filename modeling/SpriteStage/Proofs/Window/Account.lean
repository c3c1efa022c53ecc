import Mathlib.Data.List.Induction
import SpriteStage.Proofs.Window.Deliveries

namespace SpriteStage

def HostAction.unnamed : HostAction → HostAction
  | .input (.keyDown _ repeated) => .input (.keyDown "" repeated)
  | .input (.keyUp _) => .input (.keyUp "")
  | other => other

theorem HostAction.eq_press_of_unnamed {action : HostAction} {repeated : Bool}
    (same : action.unnamed = .input (.keyDown "" repeated)) :
    ∃ name, action = .input (.keyDown name repeated) := by
  unfold unnamed at same
  split at same
  · rename_i name again
    cases same
    exact ⟨name, rfl⟩
  · cases same
  · exact ⟨"", same⟩

def WindowEvent.isText : WindowEvent → Bool
  | .text _ => true
  | _ => false

namespace EventTranslator

structure Entry where
  event : WindowEvent
  actions : List HostAction

def Entry.press (code : Keycode) (modifiers : Modifiers) (repeated : Bool) (name : String) :
    Entry :=
  ⟨.keyDown (some code) modifiers repeated, [.input (.keyDown name repeated)]⟩

def told (account : List Entry) : List HostAction := account.flatMap (·.actions)

/-- What was typed last in an account is a key that was pressed, under a name of one character. -/
structure Awaits (account early : List Entry) (code : Keycode) (modifiers : Modifiers)
    (repeated : Bool) (name : String) (late : List Entry) : Prop where
  split : account = early ++ .press code modifiers repeated name :: late
  latest : ∀ entry ∈ late, entry.event.isTyping = false
  single : name.toList.length = 1

def Waits (account : List Entry) : Prop :=
  ∃ early code modifiers repeated name late,
    Awaits account early code modifiers repeated name late

/-- How an account of a batch grows with its events. -/
inductive Account (t : EventTranslator) : List WindowEvent → List Entry → Prop
  | nil : Account t [] []
  | plain {events : List WindowEvent} {account : List Entry} {event : WindowEvent}
      {actions : List HostAction} (before : Account t events account)
      (silent : event.isText = false)
      (alike : actions.map (·.unnamed) = event.action?.toList.map (·.unnamed))
      (all : (t.translateAll (events ++ [event])).1 = told (account ++ [⟨event, actions⟩])) :
    Account t (events ++ [event]) (account ++ [⟨event, actions⟩])
  | strikes {events : List WindowEvent} {account : List Entry} {text : String}
      (before : Account t events account) (free : text.toList.length ≠ 1 ∨ ¬ Waits account)
      (all : (t.translateAll (events ++ [.text text])).1 =
        told (account ++ [⟨.text text, strokes text⟩])) :
    Account t (events ++ [.text text]) (account ++ [⟨.text text, strokes text⟩])
  | renames {events : List WindowEvent} {account early late : List Entry} {text name : String}
      {code : Keycode} {modifiers : Modifiers} {repeated : Bool}
      (before : Account t events account) (single : text.toList.length = 1)
      (awaits : Awaits account early code modifiers repeated name late)
      (all : (t.translateAll (events ++ [.text text])).1 =
        told (early ++ .press code modifiers repeated text :: late ++ [⟨.text text, []⟩])) :
    Account t (events ++ [.text text])
      (early ++ .press code modifiers repeated text :: late ++ [⟨.text text, []⟩])

def Entry.nameAfter (code : Keycode) (known : Option String) (entry : Entry) : Option String :=
  match entry.event, entry.actions with
  | .keyDown (some key) .., [.input (.keyDown name _)] => if code = key then some name else known
  | .keyUp (some key) _, _ => if code = key then none else known
  | _, _ => known

def nameAfter (code : Keycode) (known : Option String) (account : List Entry) : Option String :=
  account.foldl (Entry.nameAfter code) known

section Entries
variable {account early late : List Entry} {entry : Entry} {code : Keycode}
  {modifiers : Modifiers} {repeated : Bool} {name : String}

theorem Awaits.of_concat
    (awaits : Awaits (account ++ [entry]) early code modifiers repeated name late) :
    (account = early ∧ entry = .press code modifiers repeated name) ∨
      entry.event.isTyping = false ∧
        ∃ rest, Awaits account early code modifiers repeated name rest := by
  obtain ⟨split, latest, single⟩ := awaits
  rcases List.eq_nil_or_concat late with rfl | ⟨rest, last, rfl⟩
  · obtain ⟨rfl, same⟩ := List.append_inj' split rfl
    exact .inl ⟨rfl, List.cons.inj same |>.1⟩
  · obtain ⟨rfl, same⟩ : account = early ++ .press code modifiers repeated name :: rest ∧
        [entry] = [last] :=
      List.append_inj' (by rw [split]; simp) rfl
    obtain rfl := List.cons.inj same |>.1
    refine .inr ⟨latest _ (by simp), rest, rfl, ?_, single⟩
    exact fun other member => latest other (by simp [member])

theorem Awaits.concat (awaits : Awaits account early code modifiers repeated name late)
    (other : entry.event.isTyping = false) :
    Awaits (account ++ [entry]) early code modifiers repeated name (late ++ [entry]) := by
  obtain ⟨split, latest, single⟩ := awaits
  refine ⟨?_, ?_, single⟩
  · rw [split, List.append_assoc, List.cons_append]
  · intro later member
    rcases List.mem_append.mp member with before | last
    · exact latest later before
    · rwa [List.mem_singleton.mp last]

theorem waits_other (other : entry.event.isTyping = false) :
    Waits (account ++ [entry]) ↔ Waits account := by
  constructor
  · rintro ⟨_, _, _, _, _, _, awaits⟩
    rcases awaits.of_concat with ⟨_, rfl⟩ | ⟨_, _, before⟩
    · cases other
    · exact ⟨_, _, _, _, _, _, before⟩
  · rintro ⟨_, _, _, _, _, _, awaits⟩
    exact ⟨_, _, _, _, _, _, awaits.concat other⟩

theorem waits_typing (typing : entry.event.isTyping) (waits : Waits (account ++ [entry])) :
    ∃ code modifiers repeated name,
      entry = .press code modifiers repeated name ∧ name.toList.length = 1 := by
  obtain ⟨_, code, modifiers, repeated, name, _, awaits⟩ := waits
  rcases awaits.of_concat with ⟨_, same⟩ | ⟨other, _⟩
  · exact ⟨code, modifiers, repeated, name, same, awaits.single⟩
  · rw [typing] at other
    cases other

theorem not_waits_typing (typing : entry.event.isTyping)
    (unpressed : ∀ code modifiers repeated,
      entry.event ≠ .keyDown (some code) modifiers repeated) : ¬ Waits (account ++ [entry]) := by
  intro waits
  obtain ⟨code, modifiers, repeated, _, rfl, _⟩ := waits_typing typing waits
  exact unpressed code modifiers repeated rfl

theorem nameAfter_other (known : Option String) (other : entry.event.isTyping = false) :
    entry.nameAfter code known = known := by
  unfold Entry.nameAfter
  split
  · rename_i pressed _
    rw [pressed] at other
    cases other
  · rename_i released
    rw [released] at other
    cases other
  · rfl

theorem nameAfter_concat (known : Option String) :
    nameAfter code known (account ++ [entry]) =
      entry.nameAfter code (nameAfter code known account) :=
  List.foldl_concat ..

theorem nameAfter_late (known : Option String)
    (latest : ∀ entry ∈ late, entry.event.isTyping = false) :
    nameAfter code known late = known := by
  induction late with
  | nil => rfl
  | cons entry rest ih =>
    obtain ⟨first, others⟩ := List.forall_mem_cons.mp latest
    rw [nameAfter, List.foldl_cons, nameAfter_other known first]
    exact ih others

/-- The press that is typed last gives its key its name. -/
theorem nameAfter_latest {key : Keycode} (known : Option String)
    (latest : ∀ entry ∈ late, entry.event.isTyping = false) :
    nameAfter key known (early ++ .press code modifiers repeated name :: late) =
      if key = code then some name else nameAfter key known early := by
  rw [nameAfter, List.foldl_append, List.foldl_cons]
  exact nameAfter_late _ latest

theorem press_name {other : Keycode} {others : Modifiers} {again : Bool} {second : String}
    (same : Entry.press code modifiers repeated name = .press other others again second) :
    name = second := by
  have actions : [HostAction.input (.keyDown name repeated)] = [.input (.keyDown second again)] :=
    congrArg (·.actions) same
  cases actions
  rfl

end Entries

/-- A batch that is being translated follows an account of its events so far. -/
structure Batch.Follows (t : EventTranslator) (b : Batch) (account : List Entry) : Prop where
  actions : b.actions = told account
  waits : ∀ index code, b.pending = some (index, code) →
    ∃ early modifiers repeated name late,
      Awaits account early code modifiers repeated name late ∧ index = (told early).length
  free : b.pending = none → ¬ Waits account
  names : ∀ code, b.translator.name? code = nameAfter code (t.name? code) account

namespace Batch.Follows
variable {t : EventTranslator} {b : Batch} {account : List Entry}

theorem other (follows : b.Follows t account) {event : WindowEvent}
    (other : event.isTyping = false) :
    (b.add event).Follows t (account ++ [⟨event, event.action?.toList⟩]) := by
  rw [add_other other]
  refine ⟨?_, ?_, ?_, ?_⟩
  · simp [told, follows.actions]
  · intro index code pending
    obtain ⟨early, modifiers, repeated, name, late, awaits, place⟩ :=
      follows.waits index code pending
    refine ⟨early, modifiers, repeated, name, late ++ [⟨event, event.action?.toList⟩], ?_, place⟩
    exact awaits.concat other
  · intro none
    rw [waits_other other]
    exact follows.free none
  · intro code
    rw [nameAfter_concat, nameAfter_other _ other]
    exact follows.names code

theorem press (follows : b.Follows t account) (code : Keycode) (modifiers : Modifiers)
    (repeated : Bool) :
    (b.press code modifiers repeated).Follows t (account ++
      [.press code modifiers repeated (b.translator.pressName code modifiers repeated)]) := by
  refine ⟨?_, ?_, ?_, ?_⟩
  · simp [Batch.press, told, Entry.press, follows.actions]
  · intro index key pending
    by_cases single : (b.translator.pressName code modifiers repeated).toList.length = 1
    · obtain ⟨rfl, rfl⟩ : b.actions.length = index ∧ code = key := by
        simpa [Batch.press, single] using pending
      refine ⟨account, modifiers, repeated, _, [], ⟨rfl, by simp, single⟩, ?_⟩
      rw [follows.actions]
    · simp [Batch.press, single] at pending
  · intro none waits
    obtain ⟨_, _, _, name, same, single⟩ := waits_typing rfl waits
    obtain rfl := press_name same
    simp [Batch.press, single] at none
  · intro key
    rw [nameAfter_concat, ← follows.names key]
    exact name?_remember ..

theorem release (follows : b.Follows t account) (code : Keycode) (modifiers : Modifiers) :
    (b.release code modifiers).Follows t (account ++ [⟨.keyUp (some code) modifiers,
      [.input (.keyUp ((b.translator.name? code).getD (code.hostName modifiers)))]⟩]) := by
  refine ⟨?_, fun index key => nofun, fun _ => not_waits_typing rfl (fun _ _ _ => nofun), ?_⟩
  · simp [Batch.release, told, follows.actions]
  · intro key
    rw [nameAfter_concat, ← follows.names key]
    exact name?_forget ..

theorem strikes (follows : b.Follows t account) {text : String}
    (free : b.pending = none ∨ text.toList.length ≠ 1) :
    (b.type text).Follows t (account ++ [⟨.text text, EventTranslator.strokes text⟩]) := by
  rw [type_strokes free]
  refine ⟨?_, fun index key => nofun, fun _ => not_waits_typing rfl (fun _ _ _ => nofun), ?_⟩
  · simp [told, follows.actions]
  · intro key
    rw [nameAfter_concat]
    exact follows.names key

theorem renames (follows : b.Follows t account) {early late : List Entry} {code : Keycode}
    {modifiers : Modifiers} {repeated : Bool} {name text : String}
    (pending : b.pending = some ((told early).length, code)) (single : text.toList.length = 1)
    (awaits : Awaits account early code modifiers repeated name late) :
    (b.type text).Follows t
      (early ++ .press code modifiers repeated text :: late ++ [⟨.text text, []⟩]) := by
  rw [type_renames pending single]
  refine ⟨?_, fun index key => nofun, fun _ => not_waits_typing rfl (fun _ _ _ => nofun), ?_⟩
  · have before : b.actions = told early ++ .input (.keyDown name repeated) :: told late := by
      rw [follows.actions, awaits.split]
      simp [told, Entry.press]
    rw [before, modify_middle]
    simp [told, Entry.press, renamePress]
  · intro key
    have before := follows.names key
    rw [awaits.split, nameAfter_latest _ awaits.latest] at before
    rw [nameAfter_concat, nameAfter_latest _ awaits.latest]
    refine (name?_remember ..).trans ?_
    rw [before]
    split <;> rfl

end Batch.Follows

def batchOf (t : EventTranslator) (events : List WindowEvent) : Batch :=
  events.foldl Batch.add ⟨t, [], none⟩

theorem batchOf_concat (t : EventTranslator) (events : List WindowEvent) (event : WindowEvent) :
    t.batchOf (events ++ [event]) = (t.batchOf events).add event :=
  List.foldl_concat ..

section Grows
variable {t : EventTranslator} {events : List WindowEvent} {account : List Entry}

theorem Batch.Follows.all {event : WindowEvent}
    (next : ((t.batchOf events).add event).Follows t account) :
    (t.translateAll (events ++ [event])).1 = told account := by
  rw [← batchOf_concat] at next
  exact next.actions

theorem Account.add_other (before : Account t events account)
    (follows : (t.batchOf events).Follows t account) {event : WindowEvent}
    (other : event.isTyping = false) : ∃ grown, Account t (events ++ [event]) grown ∧
      ((t.batchOf events).add event).Follows t grown := by
  have next := follows.other other
  refine ⟨_, .plain before ?_ rfl next.all, next⟩
  cases event with
  | text => cases other
  | _ => rfl

theorem Account.add_text (before : Account t events account)
    (follows : (t.batchOf events).Follows t account) (text : String) :
    ∃ grown, Account t (events ++ [.text text]) grown ∧
      ((t.batchOf events).add (.text text)).Follows t grown := by
  cases pending : (t.batchOf events).pending with
  | none =>
    have free : (t.batchOf events).pending = none ∨ text.toList.length ≠ 1 := .inl pending
    have next := follows.strikes free
    exact ⟨_, .strikes before (.inr (follows.free pending)) next.all, next⟩
  | some waiting =>
    obtain ⟨index, code⟩ := waiting
    by_cases single : text.toList.length = 1
    · obtain ⟨early, modifiers, repeated, name, late, awaits, rfl⟩ :=
        follows.waits index code pending
      have next := follows.renames pending single awaits
      exact ⟨_, .renames before single awaits next.all, next⟩
    · have next := follows.strikes (.inr single)
      exact ⟨_, .strikes before (.inl single) next.all, next⟩

/-- Whatever event comes next, the account grows with it. -/
theorem Account.add (before : Account t events account)
    (follows : (t.batchOf events).Follows t account) (event : WindowEvent) :
    ∃ grown, Account t (events ++ [event]) grown ∧
      ((t.batchOf events).add event).Follows t grown := by
  cases other : event.isTyping with
  | false => exact before.add_other follows other
  | true =>
    rcases WindowEvent.typing_cases other with
      ⟨code, modifiers, repeated, rfl⟩ | ⟨code, modifiers, rfl⟩ | ⟨text, rfl⟩
    · have next := follows.press code modifiers repeated
      refine ⟨_, .plain before rfl ?_ next.all, next⟩
      rfl
    · have next := follows.release code modifiers
      refine ⟨_, .plain before rfl ?_ next.all, next⟩
      rfl
    · exact before.add_text follows text

theorem exists_account (t : EventTranslator) (events : List WindowEvent) :
    ∃ account, Account t events account ∧ (t.batchOf events).Follows t account := by
  induction events using List.reverseRecOn with
  | nil => exact ⟨[], .nil, rfl, fun _ _ => nofun, fun _ ⟨_, _, _, _, _, _, awaits⟩ => by
      simpa using awaits.split, fun _ => rfl⟩
  | append_singleton events event ih =>
    obtain ⟨account, before, follows⟩ := ih
    rw [batchOf_concat]
    exact before.add follows event

theorem Account.events_eq (all : Account t events account) : account.map (·.event) = events := by
  induction all with
  | nil => rfl
  | plain _ _ _ _ ih => simp [ih]
  | strikes _ _ _ ih => simp [ih]
  | renames _ _ awaits _ ih =>
    rw [awaits.split] at ih
    simp [← ih, Entry.press]

theorem Account.pressed (all : Account t events account) {entry : Entry}
    (member : entry ∈ account) {code : Keycode} {modifiers : Modifiers} {repeated : Bool}
    (presses : entry.event = .keyDown (some code) modifiers repeated) :
    ∃ name, entry.actions = [.input (.keyDown name repeated)] := by
  induction all with
  | nil => cases member
  | @plain _ _ event actions _ _ alike _ ih =>
    rcases List.mem_append.mp member with earlier | last
    · exact ih earlier
    · obtain rfl := List.mem_singleton.mp last
      obtain rfl : event = .keyDown (some code) modifiers repeated := presses
      obtain ⟨action, rfl, named⟩ := List.map_eq_singleton_iff.mp alike
      obtain ⟨name, rfl⟩ := HostAction.eq_press_of_unnamed named
      exact ⟨name, rfl⟩
  | strikes _ _ _ ih =>
    rcases List.mem_append.mp member with earlier | last
    · exact ih earlier
    · obtain rfl := List.mem_singleton.mp last
      cases presses
  | @renames _ _ early late text name key others again _ _ awaits _ ih =>
    rw [awaits.split] at ih
    rcases List.mem_append.mp member with earlier | last
    · rcases List.mem_append.mp earlier with before | rest
      · exact ih (List.mem_append_left _ before)
      · rcases List.mem_cons.mp rest with rfl | after
        · cases presses
          exact ⟨text, rfl⟩
        · exact ih (List.mem_append_right _ (List.mem_cons_of_mem _ after))
    · obtain rfl := List.mem_singleton.mp last
      cases presses

end Grows

section Names
variable {code : Keycode} {before after : List Entry} {entry : Entry}

theorem nameAfter_spared (known : Option String)
    (unpressed : ∀ repeated, entry.event.presses code repeated = false)
    (unreleased : entry.event.releases code = false) : entry.nameAfter code known = known := by
  unfold Entry.nameAfter
  split
  · rename_i key modifiers repeated name again pressed _
    have other : code ≠ key := by
      rintro rfl
      simpa [pressed, WindowEvent.presses] using unpressed repeated
    exact if_neg other
  · rename_i key modifiers released
    have other : code ≠ key := by
      rintro rfl
      simp [released, WindowEvent.releases] at unreleased
    exact if_neg other
  · rfl

theorem nameAfter_spares (known : Option String)
    (unpressed : ∀ entry ∈ after, ∀ repeated, entry.event.presses code repeated = false)
    (unreleased : ∀ entry ∈ after, entry.event.releases code = false) :
    nameAfter code known after = known := by
  induction after with
  | nil => rfl
  | cons entry rest ih =>
    obtain ⟨first, others⟩ := List.forall_mem_cons.mp unpressed
    obtain ⟨kept, further⟩ := List.forall_mem_cons.mp unreleased
    rw [nameAfter, List.foldl_cons, nameAfter_spared known first kept]
    exact ih others further

end Names

/-- What a batch of events leads to: its actions are those of its account, and a key that was
pressed and is still down is remembered by the name of its last press. -/
structure Accounted (t : EventTranslator) (events : List WindowEvent) (account : List Entry) :
    Prop where
  grown : Account t events account
  listed : account.map (·.event) = events
  all : (t.translateAll events).1 = told account
  remembered : ∀ before code modifiers repeated actions after,
    account = before ++ ⟨.keyDown (some code) modifiers repeated, actions⟩ :: after →
    (∀ entry ∈ after, ∀ repeated, entry.event.presses code repeated = false) →
    (∀ entry ∈ after, entry.event.releases code = false) →
    ∃ name, actions = [.input (.keyDown name repeated)] ∧
      (t.translateAll events).2.name? code = some name

/-- Translation loses, doubles and moves nothing, whatever the events are and whichever names are
remembered at first. -/
theorem events_accounted (t : EventTranslator) (events : List WindowEvent) :
    ∃ account, Accounted t events account := by
  obtain ⟨account, all, follows⟩ := exists_account t events
  refine ⟨account, all, all.events_eq, follows.actions, ?_⟩
  intro before code modifiers repeated actions after split unpressed unreleased
  have member : ⟨.keyDown (some code) modifiers repeated, actions⟩ ∈ account := by
    simp [split]
  obtain ⟨name, rfl⟩ := all.pressed member rfl
  refine ⟨name, rfl, ?_⟩
  have known : (t.translateAll events).2.name? code = nameAfter code (t.name? code) account :=
    follows.names code
  rw [known, split, nameAfter, List.foldl_append, List.foldl_cons]
  refine (nameAfter_spares _ unpressed unreleased).trans ?_
  simp [Entry.nameAfter]

end EventTranslator
end SpriteStage
