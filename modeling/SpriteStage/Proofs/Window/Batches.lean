import SpriteStage.Proofs.Window.Account

/-! Where a queue of events may be cut into batches. A press that waits for its text is forgotten at
the end of a batch, so a cut matters only between such a press and a text. -/

namespace SpriteStage.EventTranslator

/-- What was typed last in a batch is a key that was pressed, told under a name of one character. -/
structure EndsInPress (t : EventTranslator) (events early : List WindowEvent) (repeated : Bool)
    (name : String) (late : List WindowEvent) : Prop where
  split : ∃ code modifiers, events = early ++ .keyDown (some code) modifiers repeated :: late
  latest : ∀ event ∈ late, event.isTyping = false
  told : (t.translateAll events).1 = (t.translateAll early).1 ++
    .input (.keyDown name repeated) :: late.flatMap (·.action?.toList)
  single : name.toList.length = 1

/-- Batches that meet at a quiet point: what was typed last in the first is no press that waits, or
what is typed first in the second is no text. -/
def MeetQuietly (t : EventTranslator) (first second : List WindowEvent) : Prop :=
  (¬ ∃ early repeated name late, t.EndsInPress first early repeated name late) ∨
    ∀ event, second.find? (·.isTyping) = some event → event.isText = false

theorem Batch.type_pending (b : Batch) (text : String) : (b.type text).pending = none := by
  unfold type
  split <;> rfl

section Pending
variable {t : EventTranslator} {events : List WindowEvent}

theorem placed_batchOf (t : EventTranslator) (events : List WindowEvent) :
    (t.batchOf events).Placed := by
  induction events using List.reverseRecOn with
  | nil => exact fun _ _ => nofun
  | append_singleton before event ih =>
    rw [batchOf_concat]
    exact ih.add event

theorem translateAll_concat {event : WindowEvent} :
    (t.translateAll (events ++ [event])).1 = ((t.batchOf events).add event).actions :=
  congrArg (·.actions) (batchOf_concat t events event)

/-- A press that is pending is what was typed last; its action is where it is pending, and its key
is the last that was remembered. -/
theorem endsInPress_of_pending {index : Nat} {code : Keycode}
    (pending : (t.batchOf events).pending = some (index, code)) :
    ∃ early repeated name late, t.EndsInPress events early repeated name late ∧
      index = (t.translateAll early).1.length ∧
      ∃ names, (t.batchOf events).translator = remember names code name := by
  induction events using List.reverseRecOn with
  | nil => cases pending
  | append_singleton before event ih =>
    rw [batchOf_concat] at pending ⊢
    cases other : event.isTyping with
    | false =>
      rw [Batch.add_other other] at pending ⊢
      obtain ⟨early, repeated, name, late, ⟨⟨key, modifiers, split⟩, latest, told, single⟩, known⟩ :=
        ih pending
      refine ⟨early, repeated, name, late ++ [event], ⟨⟨key, modifiers, by simp [split]⟩, ?_, ?_,
        single⟩, known⟩
      · exact List.forall_mem_append.mpr ⟨latest, by simpa using other⟩
      · have grown : (t.translateAll (before ++ [event])).1 =
            (t.translateAll before).1 ++ event.action?.toList := by
          rw [translateAll_concat, Batch.add_other other]
          rfl
        rw [grown, told]
        simp
    | true =>
      rcases WindowEvent.typing_cases other with
        ⟨key, modifiers, repeated, rfl⟩ | ⟨key, modifiers, rfl⟩ | ⟨text, rfl⟩
      · by_cases single :
            ((t.batchOf before).translator.pressName key modifiers repeated).toList.length = 1
        · obtain ⟨rfl, rfl⟩ : (t.batchOf before).actions.length = index ∧ key = code := by
            simpa [Batch.add, Batch.press, single] using pending
          have told : (t.translateAll (before ++ [.keyDown (some key) modifiers repeated])).1 =
              (t.translateAll before).1 ++ [.input (.keyDown
                ((t.batchOf before).translator.pressName key modifiers repeated) repeated)] :=
            translateAll_concat
          exact ⟨before, repeated, _, [], ⟨⟨key, modifiers, rfl⟩, by simp, told, single⟩, rfl,
            (t.batchOf before).translator, rfl⟩
        · simp [Batch.add, Batch.press, single] at pending
      · cases pending
      · cases ((t.batchOf before).type_pending text).symm.trans pending

end Pending

section Waiting

theorem typedNext_quiet {events : List WindowEvent}
    (quiet : ∀ event, events.find? (·.isTyping) = some event → event.isText = false) :
    typedNext events = none := by
  induction events with
  | nil => rfl
  | cons event rest ih =>
    cases other : event.isTyping with
    | false =>
      rw [typedNext_other other]
      exact ih (by simpa [other] using quiet)
    | true =>
      rcases WindowEvent.typing_cases other with ⟨_, _, _, rfl⟩ | ⟨_, _, rfl⟩ | ⟨text, rfl⟩
      · rfl
      · rfl
      · cases quiet (.text text) (by simp [other])

/-- A press that waits does not matter to events of which none renames it. -/
theorem deliveries_unawaited (t : EventTranslator) (waits : Bool) {events : List WindowEvent}
    (free : typedNext events = none) :
    (t.deliveries waits events).flatMap (·.actions) =
        (t.deliveries false events).flatMap (·.actions) ∧
      t.finalNames (t.deliveries waits events) = t.finalNames (t.deliveries false events) := by
  induction events with
  | nil => exact ⟨rfl, rfl⟩
  | cons event rest ih =>
    cases other : event.isTyping with
    | false =>
      rw [typedNext_other other] at free
      obtain ⟨actions, names⟩ := ih free
      simp only [deliveries, deliver_other other, List.flatMap_cons, actions]
      exact ⟨trivial, names⟩
    | true =>
      rcases WindowEvent.typing_cases other with ⟨_, _, _, rfl⟩ | ⟨_, _, rfl⟩ | ⟨text, rfl⟩
      · exact ⟨rfl, rfl⟩
      · exact ⟨rfl, rfl⟩
      · have long : text.toList.length ≠ 1 := by
          simpa [typedNext] using free
        simp [deliveries, deliver, long]

end Waiting

/-- Cut at a quiet point, a queue of events leads to the same actions and leaves the same names as
it does in one batch. -/
theorem quiet_batches_join (t : EventTranslator) {first second : List WindowEvent}
    (quiet : t.MeetQuietly first second) :
    t.translateAll (first ++ second) =
      ((t.translateAll first).1 ++ ((t.translateAll first).2.translateAll second).1,
        ((t.translateAll first).2.translateAll second).2) := by
  have free : (t.batchOf first).pending = none ∨ typedNext second = none := by
    rcases quiet with settled | silent
    · left
      by_contra waits
      obtain ⟨⟨index, code⟩, pending⟩ := Option.ne_none_iff_exists'.mp waits
      obtain ⟨early, repeated, name, late, ends, -⟩ := endsInPress_of_pending pending
      exact settled ⟨early, repeated, name, late, ends⟩
    · exact .inr (typedNext_quiet silent)
  have joined : t.batchOf (first ++ second) = second.foldl Batch.add (t.batchOf first) :=
    List.foldl_append ..
  obtain ⟨actions, names⟩ := Batch.foldl_add (placed_batchOf t first) second
  rw [Batch.foretold_free free, ← joined] at actions names
  have apart : (t.translateAll first).2.translateAll second =
      (((t.batchOf first).translator.deliveries (t.batchOf first).pending.isSome second).flatMap
        (·.actions), (t.batchOf first).translator.finalNames
          ((t.batchOf first).translator.deliveries (t.batchOf first).pending.isSome second)) := by
    refine (translateAll_eq ..).trans ?_
    rcases free with none | silent
    · rw [none]
      rfl
    · obtain ⟨same, names⟩ := deliveries_unawaited (t.batchOf first).translator
        (t.batchOf first).pending.isSome silent
      rw [same, names]
      rfl
  rw [apart]
  exact Prod.ext actions names

/-- A key waits at the end of a batch and is released at the beginning of the next. -/
theorem cut_before_release :
    let plain : Modifiers := ⟨false, false⟩
    let first : List WindowEvent := [.keyDown (some 97) plain false]
    let second : List WindowEvent := [.quit, .keyUp (some 97) plain, .text "b"]
    empty.MeetQuietly first second ∧
      empty.translateAll (first ++ second) =
        ((empty.translateAll first).1 ++ ((empty.translateAll first).2.translateAll second).1,
          ((empty.translateAll first).2.translateAll second).2) ∧
      (empty.translateAll (first ++ second)).1 = [.input (.keyDown "a" false), .quit,
        .input (.keyUp "a"), .input (.keyDown "b" false), .input (.keyUp "b")] := by
  intro plain first second
  have quiet : empty.MeetQuietly first second := by
    right
    intro event found
    obtain rfl : .keyUp (some 97) plain = event := Option.some.inj found
    rfl
  exact ⟨quiet, quiet_batches_join empty quiet, by rfl⟩

section Cut
variable {t : EventTranslator} {first second events : List WindowEvent}

theorem foldl_add_late (b : Batch) {late : List WindowEvent}
    (latest : ∀ event ∈ late, event.isTyping = false) :
    late.foldl Batch.add b =
      { b with actions := b.actions ++ late.flatMap (·.action?.toList) } := by
  induction late generalizing b with
  | nil => simp
  | cons event rest ih =>
    obtain ⟨other, others⟩ := List.forall_mem_cons.mp latest
    rw [List.foldl_cons, Batch.add_other other, ih _ others]
    simp

theorem pending_of_endsInPress {early : List WindowEvent} {repeated : Bool} {name : String}
    {late : List WindowEvent} (ends : t.EndsInPress events early repeated name late) :
    ∃ index code, (t.batchOf events).pending = some (index, code) := by
  obtain ⟨⟨code, modifiers, rfl⟩, latest, told, single⟩ := ends
  have grown : t.batchOf (early ++ .keyDown (some code) modifiers repeated :: late) =
      { (t.batchOf early).press code modifiers repeated with
        actions := ((t.batchOf early).press code modifiers repeated).actions ++
          late.flatMap (·.action?.toList) } := by
    rw [batchOf, List.foldl_append, List.foldl_cons]
    exact foldl_add_late _ latest
  have actions : (t.batchOf early).actions ++ [.input (.keyDown
      ((t.batchOf early).translator.pressName code modifiers repeated) repeated)] ++
        late.flatMap (·.action?.toList) = (t.batchOf early).actions ++
          .input (.keyDown name repeated) :: late.flatMap (·.action?.toList) :=
    (congrArg (·.actions) grown).symm.trans told
  obtain rfl : (t.batchOf early).translator.pressName code modifiers repeated = name := by
    simpa using actions
  rw [grown]
  exact ⟨(t.batchOf early).actions.length, code, by simp [Batch.press, single]⟩

theorem foldl_add_free (t : EventTranslator) (actions : List HostAction)
    (events : List WindowEvent) :
    (events.foldl Batch.add ⟨t, actions, none⟩).actions =
      actions ++ (t.translateAll events).1 := by
  have placed : Batch.Placed ⟨t, actions, none⟩ := fun _ _ => nofun
  obtain ⟨all, _⟩ := Batch.foldl_add placed events
  rw [Batch.foretold_free (.inl rfl)] at all
  rw [all, translateAll_eq]
  rfl

theorem typedNext_split {text : String} (typed : typedNext events = some text) :
    ∃ late rest, events = late ++ .text text :: rest ∧
      (∀ event ∈ late, event.isTyping = false) ∧ text.toList.length = 1 := by
  induction events with
  | nil => cases typed
  | cons event rest ih =>
    cases other : event.isTyping with
    | false =>
      rw [typedNext_other other] at typed
      obtain ⟨late, after, rfl, latest, single⟩ := ih typed
      exact ⟨event :: late, after, rfl, List.forall_mem_cons.mpr ⟨other, latest⟩, single⟩
    | true =>
      rcases WindowEvent.typing_cases other with ⟨_, _, _, rfl⟩ | ⟨_, _, rfl⟩ | ⟨own, rfl⟩
      · cases typed
      · cases typed
      · have single := typedNext_length typed
        unfold typedNext at typed
        split at typed
        · cases typed
          exact ⟨[], rest, rfl, by simp, single⟩
        · cases typed

/-- A cut between a press that waits and the character that is typed for it is not without
consequence: the character is then a press of its own. -/
theorem loud_batches_differ {early : List WindowEvent} {repeated : Bool} {name : String}
    {late : List WindowEvent} (ends : t.EndsInPress first early repeated name late) {text : String}
    (typed : typedNext second = some text) :
    (t.translateAll (first ++ second)).1 ≠
      (t.translateAll first).1 ++ ((t.translateAll first).2.translateAll second).1 := by
  obtain ⟨index, code, pending⟩ := pending_of_endsInPress ends
  obtain ⟨early, repeated, name, others, ⟨-, -, told, -⟩, rfl, names, known⟩ :=
    endsInPress_of_pending pending
  generalize (t.translateAll early).1 = before at told pending
  generalize others.flatMap (·.action?.toList) = after at told
  have actions : (t.batchOf first).actions = before ++ .input (.keyDown name repeated) :: after :=
    told
  obtain ⟨late, rest, rfl, latest, single⟩ := typedNext_split typed
  let quiet := late.flatMap (·.action?.toList)
  have awaited : (late.foldl Batch.add (t.batchOf first)).pending =
      some (before.length, code) := by
    rw [foldl_add_late _ latest]
    exact pending
  have whole : (t.translateAll (first ++ (late ++ .text text :: rest))).1 =
      before ++ .input (.keyDown text repeated) :: after ++ quiet ++
        ((remember names code text).translateAll rest).1 := by
    have renamed : (late.foldl Batch.add (t.batchOf first)).type text =
        ⟨remember names code text, before ++ .input (.keyDown text repeated) :: after ++ quiet,
          none⟩ := by
      rw [Batch.type_renames awaited single, foldl_add_late _ latest]
      simp [actions, known, modify_middle, remember_remember, renamePress, quiet]
    rw [← foldl_add_free, ← renamed]
    simp [translateAll, batchOf, Batch.add]
  have apart : ((t.translateAll first).2.translateAll (late ++ .text text :: rest)).1 =
      quiet ++ strokes text ++ ((remember names code name).translateAll rest).1 := by
    have struck : (late.foldl Batch.add ⟨remember names code name, [], none⟩).type text =
        ⟨remember names code name, quiet ++ strokes text, none⟩ := by
      rw [foldl_add_late _ latest, Batch.type_strokes (.inl rfl)]
      rfl
    rw [← foldl_add_free, ← struck, ← known]
    simp [translateAll, batchOf, Batch.add]
  intro same
  rw [whole, apart, told] at same
  simp only [List.append_assoc, List.cons_append] at same
  obtain ⟨head, tail⟩ := List.cons.inj (List.append_cancel_left same)
  cases head
  -- the names are the same then, and the strokes are left over
  obtain ⟨c, only⟩ := List.length_eq_one_iff.mp single
  have lengths := congrArg List.length tail
  simp [strokes, only] at lengths
  omega

end Cut

end SpriteStage.EventTranslator
