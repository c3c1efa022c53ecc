import Mathlib.Data.List.Induction
import SpriteStage.Proofs.Script.Pledges
import SpriteStage.Surface.Recording

/-! One deferred value and the tasks that wait for it. Whoever settles it first, settles it for all:
tasks are not ready before that and ready from then on, and what a task goes on with runs once. -/

namespace SpriteStage
variable {κ σ S : Type}

/-- An attempt to settle a value, with what it would be settled with and whether that counted. -/
def Happening.attempt? (d : DeferredId) : Happening κ σ → Option (Settled × Bool)
  | .called (.fulfil id value) counted => if id = d then some (.fulfilled value, counted) else none
  | .called (.reject id error) counted => if id = d then some (.rejected error, counted) else none
  | _ => none

theorem Happening.attempt?_remark {d : DeferredId} {happening : Happening κ σ}
    (remark : happening.isRemark) : happening.attempt? d = none := by
  cases happening with
  | called => cases remark
  | _ => rfl

theorem Happening.attempt?_silent {d : DeferredId} {happening : Happening κ σ}
    (silent : happening.pledges = false) : happening.attempt? d = none := by
  cases happening with
  | called c reply =>
    cases c with
    | fulfil | reject => cases silent
    | _ => rfl
  | _ => rfl

/-- What attempts make of a value: the first one counts, and no other. -/
inductive Settlement : List (Settled × Bool) → Settled → Prop
  | none : Settlement [] .pending
  | first {outcome : Settled} (settled : outcome ≠ .pending) {late : List (Settled × Bool)}
      (refused : ∀ attempt ∈ late, attempt.2 = false) :
    Settlement ((outcome, true) :: late) outcome

theorem Settlement.settle {board : Board} {d : DeferredId} (made : d < board.slots.length)
    {tried : List (Settled × Bool)} (settlement : Settlement tried (board.state d))
    {outcome : Settled} (settled : outcome ≠ .pending) :
    Settlement (tried ++ [(outcome, (board.settle d outcome).1)])
      ((board.settle d outcome).2.state d) := by
  generalize before : board.state d = state at settlement
  cases settlement with
  | none =>
    have counted : (board.settle d outcome).1 = true := by
      rw [Board.settle, if_pos (Board.slot_of_pending made before)]
    rw [Board.settle_pending outcome made before, counted]
    exact .first settled fun _ member => absurd member List.not_mem_nil
  | first done refused =>
    have late : board.slots[d]? ≠ some .pending := fun slot =>
      done (before.symm.trans (Board.slot_pending slot).2)
    rw [Board.settle, if_neg late, before]
    exact .first done (List.forall_mem_append.mpr ⟨refused, List.forall_mem_singleton.mpr rfl⟩)

theorem Pledges.Step.attempt {before after : Pledges} {happening : Happening κ σ} {d : DeferredId}
    (step : Step before happening after) (made : d < before.next)
    {tried : List (Settled × Bool)} (settlement : Settlement tried (before.board.state d)) :
    Settlement (tried ++ (happening.attempt? d).toList) (after.board.state d) := by
  have same : Settlement (tried ++ []) (before.board.state d) := by rwa [List.append_nil]
  have settle (id : DeferredId) {outcome : Settled} (settled : outcome ≠ .pending) :
      Settlement (tried ++ (if id = d then some (outcome, (before.board.settle id outcome).1)
        else none).toList) ((before.board.settle id outcome).2.state d) := by
    split
    · subst id
      exact settlement.settle made settled
    · rename_i other
      exact (Board.settle_other outcome (Ne.symm other)).symm ▸ same
  cases step with
  | swapped | refused | timed | asked | deferred =>
    exact (Board.add_state_old _ made).symm ▸ same
  | fulfilled id value => exact settle id nofun
  | rejected id error => exact settle id nofun
  | other silent =>
    rw [Happening.attempt?_silent silent]
    exact same

namespace Machine

/-- One machine comes after another: what is settled stays so, and the journal has all attempts to
settle a value. -/
structure Tries (d : DeferredId) (before after : Machine κ σ S) : Prop where
  board : before.board.Extends after.board
  journal : ∃ news, after.journal = before.journal ++ news ∧ (d < before.board.slots.length →
    ∀ tried, Settlement tried (before.board.state d) →
      Settlement (tried ++ news.filterMap (·.attempt? d)) (after.board.state d))

variable {d : DeferredId} {before middle after m : Machine κ σ S}

theorem Tries.refl (m : Machine κ σ S) : m.Tries d m :=
  ⟨.refl m.board, [], by simp, fun _ tried settlement => by simpa using settlement⟩

theorem Tries.trans (first : before.Tries d middle) (second : middle.Tries d after) :
    before.Tries d after := by
  obtain ⟨board, news, journal, early⟩ := first
  obtain ⟨moreBoard, more, moreJournal, late⟩ := second
  refine ⟨board.trans moreBoard, news ++ more, ?_, fun made tried settlement => ?_⟩
  · rw [moreJournal, journal, List.append_assoc]
  · rw [List.filterMap_append, ← List.append_assoc]
    exact late (Nat.lt_of_lt_of_le made board.made) _ (early made tried settlement)

variable [Surface S]

theorem tries_perform (c : Call κ σ) (m : Machine κ σ S) : m.Tries d (m.perform c).2 := by
  obtain ⟨remarks, journal, kinds⟩ := (leads_effect c m).journal
  have quiet : remarks.filterMap (·.attempt? d) = [] :=
    List.filterMap_eq_nil_iff.mpr fun remark member => Happening.attempt?_remark (kinds _ member)
  have step := effect_step c m
  refine ⟨step.board, remarks ++ [.called c (m.effect c).1], ?_, fun made tried settlement => ?_⟩
  · simp [perform, record, journal]
  · have one : [Happening.called c (m.effect c).1].filterMap (·.attempt? d) =
        ((Happening.called c (m.effect c).1).attempt? d).toList := by
      cases tries : (Happening.called c (m.effect c).1).attempt? d with
      | none => rw [List.filterMap_cons_none tries]; rfl
      | some attempt => rw [List.filterMap_cons_some tries]; rfl
    rw [List.filterMap_append, quiet, List.nil_append, one]
    exact step.attempt made settlement

theorem kept_tries (d : DeferredId) : Kept (κ := κ) (σ := σ) (S := S) (Tries d) :=
  ⟨.refl, .trans, tries_perform⟩

end Machine

/-- A machine, and the tasks that wait for a value. -/
structure Vigil (κ σ S : Type) where
  machine : Machine κ σ S
  tasks : List (StartTask κ)

/-- What may happen to a value: calls, which may settle it, and tasks that are made to wait for it
and are polled. -/
inductive Turn (κ σ : Type) where
  | call (c : Call κ σ)
  | waitFor
  | after (next : κ)
  | poll (task : Nat)

def Turn.makes? : Turn κ σ → Option (Option κ)
  | .waitFor => some none
  | .after next => some (some next)
  | _ => none

namespace Vigil
variable [Surface S] (p : Program κ σ) (d : DeferredId)

def take (v : Vigil κ σ S) : Turn κ σ → Vigil κ σ S
  | .call c => { v with machine := (v.machine.perform c).2 }
  | .waitFor => { v with tasks := v.tasks ++ [.waitFor d] }
  | .after next => { v with tasks := v.tasks ++ [.after d (some next)] }
  | .poll i =>
    match v.tasks[i]? with
    | none => v
    | some task =>
      let (_, task, machine) := v.machine.pollTask p task
      ⟨machine, v.tasks.set i task⟩

def of (m : Machine κ σ S) (turns : List (Turn κ σ)) : Vigil κ σ S :=
  turns.foldl (take p d) ⟨m, []⟩

/-- A task has been polled when the value was fulfilled, in turns after some others. -/
def Polled (m : Machine κ σ S) (before : List (Turn κ σ)) (task : Nat) (turns : List (Turn κ σ)) :
    Prop :=
  ∃ mid rest, turns = mid ++ .poll task :: rest ∧
    ∃ value, (of p d m (before ++ mid)).machine.board.state d = .fulfilled value

/-- How a task answers to a poll, and what the poll does, by the state of the value that it waits
for. What it goes on with runs with the first poll that finds the value fulfilled. -/
inductive Answer (m : Machine κ σ S) (next : Option κ) (polled : Prop) :
    Settled → Poll × Machine κ σ S → Prop
  | early : Answer m next polled .pending (.pending, m)
  | failed (e : RuntimeError) :
    Answer m next polled (.rejected e) (.ready (.error ⟨e.message⟩), m)
  | plain (value : Value) (alone : next = none) :
    Answer m next polled (.fulfilled value) (.ready (.ok ()), m)
  | again (value : Value) {handler : κ} (goesOn : next = some handler) (before : polled) :
    Answer m next polled (.fulfilled value) (.ready (.ok ()), m)
  | first (value : Value) {handler : κ} (goesOn : next = some handler) (before : ¬ polled) :
    Answer m next polled (.fulfilled value) (.ready ((p.onSettled handler value).run m).1,
      ((p.onSettled handler value).run m).2)

/-- What a task is, after it was polled or not when the value was fulfilled. -/
inductive Stands (polled : Prop) : Option κ → StartTask κ → Prop
  | waits : Stands polled none (.waitFor d)
  | ready (next : κ) (before : ¬ polled) : Stands polled (some next) (.after d (some next))
  | spent (next : κ) (before : polled) : Stands polled (some next) (.after d none)

variable {p d} {m : Machine κ σ S} {v : Vigil κ σ S} {task : StartTask κ} {next : Option κ}
  {polled : Prop}

theorem of_concat (m : Machine κ σ S) (turns : List (Turn κ σ)) (turn : Turn κ σ) :
    of p d m (turns ++ [turn]) = take p d (of p d m turns) turn := by
  simp [of]

theorem Stands.poll (stands : Stands d polled next task) (m : Machine κ σ S) :
    Answer p m next polled (m.board.state d) ((m.pollTask p task).1, (m.pollTask p task).2.2) ∧
      Stands d (polled ∨ ∃ value, m.board.state d = .fulfilled value) next
        (m.pollTask p task).2.1 := by
  cases stands with
  | waits =>
    simp only [Machine.pollTask]
    cases state : m.board.state d with
    | pending => exact ⟨.early, .waits⟩
    | fulfilled value => exact ⟨.plain value rfl, .waits⟩
    | rejected e => exact ⟨.failed e, .waits⟩
  | ready handler before =>
    simp only [Machine.pollTask]
    cases state : m.board.state d with
    | pending => exact ⟨.early, .ready handler (by simpa using before)⟩
    | fulfilled value => exact ⟨.first value rfl before, .spent handler (.inr ⟨value, rfl⟩)⟩
    | rejected e => exact ⟨.failed e, .ready handler (by simpa using before)⟩
  | spent handler before =>
    simp only [Machine.pollTask]
    cases state : m.board.state d with
    | pending => exact ⟨.early, .spent handler (.inl before)⟩
    | fulfilled value => exact ⟨.again value rfl before, .spent handler (.inl before)⟩
    | rejected e => exact ⟨.failed e, .spent handler (.inl before)⟩

theorem take_poll {i : Nat} (there : v.tasks[i]? = some task) : take p d v (.poll i) =
    ⟨(v.machine.pollTask p task).2.2, v.tasks.set i (v.machine.pollTask p task).2.1⟩ := by
  simp only [take, there]

theorem take_polled {i : Nat} (there : v.tasks[i]? = some task) :
    (take p d v (.poll i)).tasks[i]? = some (v.machine.pollTask p task).2.1 := by
  obtain ⟨made, _⟩ := List.getElem?_eq_some_iff.mp there
  rw [take_poll there]
  exact List.getElem?_set_self made

theorem take_other {i : Nat} (there : v.tasks[i]? = some task) {turn : Turn κ σ}
    (other : turn ≠ .poll i) : (take p d v turn).tasks[i]? = some task := by
  obtain ⟨made, _⟩ := List.getElem?_eq_some_iff.mp there
  cases turn with
  | call c => exact there
  | waitFor | after next => exact (List.getElem?_append_left made).trans there
  | poll j =>
    cases found : v.tasks[j]? with
    | none =>
      simp only [take, found]
      exact there
    | some polled =>
      have apart : j ≠ i := fun same => other (congrArg Turn.poll same)
      rw [take_poll found]
      exact (List.getElem?_set_ne apart).trans there

theorem take_makes {turn : Turn κ σ} (makes : turn.makes? = some next) :
    ∃ task, Stands d False next task ∧ take p d v turn = { v with tasks := v.tasks ++ [task] } := by
  cases turn with
  | waitFor =>
    cases makes
    exact ⟨_, .waits, rfl⟩
  | after handler =>
    cases makes
    exact ⟨_, .ready handler id, rfl⟩
  | call | poll => cases makes

theorem tries_take (v : Vigil κ σ S) (turn : Turn κ σ) :
    v.machine.Tries d (take p d v turn).machine := by
  cases turn with
  | call c => exact Machine.tries_perform c v.machine
  | waitFor | after => exact .refl v.machine
  | poll i =>
    cases found : v.tasks[i]? with
    | none =>
      simp only [take, found]
      exact .refl v.machine
    | some task =>
      rw [take_poll found]
      exact (Machine.kept_tries d).pollTask p task v.machine

theorem tries_of (m : Machine κ σ S) (before later : List (Turn κ σ)) :
    (of p d m before).machine.Tries d (of p d m (before ++ later)).machine := by
  induction later using List.reverseRecOn with
  | nil =>
    rw [List.append_nil]
    exact .refl _
  | append_singleton later turn ih =>
    rw [← List.append_assoc, of_concat]
    exact ih.trans (tries_take _ turn)

theorem polled_nil {before : List (Turn κ σ)} {i : Nat} : ¬ Polled p d m before i [] := by
  rintro ⟨mid, rest, split, _⟩
  cases mid <;> cases split

theorem polled_concat {before turns : List (Turn κ σ)} {turn : Turn κ σ} {i : Nat} :
    Polled p d m before i (turns ++ [turn]) ↔ Polled p d m before i turns ∨
      turn = .poll i ∧
        ∃ value, (of p d m (before ++ turns)).machine.board.state d = .fulfilled value := by
  constructor
  · rintro ⟨mid, rest, split, fulfilled⟩
    rcases List.eq_nil_or_concat' rest with rfl | ⟨rest, last, rfl⟩
    · obtain ⟨rfl, same⟩ := List.append_inj' split rfl
      cases same
      exact .inr ⟨rfl, fulfilled⟩
    · rw [← List.cons_append, ← List.append_assoc] at split
      obtain ⟨rfl, -⟩ := List.append_inj' split rfl
      exact .inl ⟨mid, rest, rfl, fulfilled⟩
  · rintro (⟨mid, rest, rfl, fulfilled⟩ | ⟨rfl, fulfilled⟩)
    · exact ⟨mid, rest ++ [turn], by simp, fulfilled⟩
    · exact ⟨turns, [], rfl, fulfilled⟩

theorem stands_of {turn : Turn κ σ} (makes : turn.makes? = some next) (m : Machine κ σ S)
    (before later : List (Turn κ σ)) :
    ∃ task, (of p d m (before ++ [turn] ++ later)).tasks[(of p d m before).tasks.length]? =
        some task ∧
      Stands d (Polled p d m (before ++ [turn]) (of p d m before).tasks.length later) next
        task := by
  induction later using List.reverseRecOn with
  | nil =>
    obtain ⟨task, stands, made⟩ := take_makes (p := p) (d := d) (v := of p d m before) makes
    refine ⟨task, ?_, ?_⟩
    · rw [List.append_nil, of_concat, made]
      exact List.getElem?_concat_length
    · rwa [propext (iff_false_intro polled_nil)]
  | append_singleton later last ih =>
    obtain ⟨task, there, stands⟩ := ih
    rw [← List.append_assoc, of_concat, propext polled_concat]
    by_cases polls : last = .poll (of p d m before).tasks.length
    · subst polls
      refine ⟨_, take_polled there, ?_⟩
      have left := (stands.poll (p := p) (of p d m (before ++ [turn] ++ later)).machine).2
      simpa using left
    · refine ⟨task, take_other there polls, ?_⟩
      simpa [polls] using stands

/-- What holds of a value that was pending, and of the tasks that wait for it, after some turns. -/
structure Agrees (p : Program κ σ) (d : DeferredId) (m : Machine κ σ S) (turns : List (Turn κ σ)) :
    Prop where
  attempts : ∃ news, (of p d m turns).machine.journal = m.journal ++ news ∧
    Settlement (news.filterMap (·.attempt? d)) ((of p d m turns).machine.board.state d)
  lasts : ∀ before later, turns = before ++ later →
    (of p d m before).machine.board.state d ≠ .pending →
      (of p d m turns).machine.board.state d = (of p d m before).machine.board.state d
  answers : ∀ before turn later next, turns = before ++ [turn] ++ later →
    turn.makes? = some next →
      ∃ task, (of p d m turns).tasks[(of p d m before).tasks.length]? = some task ∧
        Answer p (of p d m turns).machine next
          (Polled p d m (before ++ [turn]) (of p d m before).tasks.length later)
          ((of p d m turns).machine.board.state d)
          (((of p d m turns).machine.pollTask p task).1,
            ((of p d m turns).machine.pollTask p task).2.2)

/-- Attempts to settle a value and the tasks that wait for it agree on one settlement. -/
theorem settlement_agrees (p : Program κ σ) (d : DeferredId) (m : Machine κ σ S)
    (isOpen : m.board.slots[d]? = some .pending) (turns : List (Turn κ σ)) :
    Agrees p d m turns := by
  obtain ⟨made, pending⟩ := Board.slot_pending isOpen
  constructor
  · obtain ⟨-, news, journal, settlement⟩ := tries_of (p := p) (d := d) m [] turns
    have untried : Settlement [] ((of p d m []).machine.board.state d) := pending ▸ .none
    exact ⟨news, journal, settlement made [] untried⟩
  · rintro before later rfl settled
    exact (tries_of m before later).board.settled d settled
  · rintro before turn later next rfl makes
    obtain ⟨task, there, stands⟩ := stands_of makes m before later
    exact ⟨task, there, (stands.poll _).1⟩

def keeper : Program Unit String where
  onStart _ := return none
  onFrame _ _ := return ()
  onKey _ := return ()
  onCollision _ := return ()
  onSettled _ value :=
    match value with
    | .text s => Script.perform (.remember s)
    | .unit => return ()
  onPoll _ := return .done

def openValue : Machine Unit String RecordingSurface :=
  { Machine.new .standard (fun _ => true) "" with board := ⟨[.pending]⟩ }

/-- A value is fulfilled between polls of a task, and rejected too late. What the task goes on with
has run by the second poll, and does not run again with the third. -/
def nameTurns : List (Turn Unit String) :=
  [.waitFor, .after (), .poll 1, .call (.fulfil 0 (.text "Ben")),
    .call (.reject 0 (.asset (.missingFigure 1))), .poll 1, .call (.remember "Eve"), .poll 1]

theorem name_kept_once : openValue.board.slots[0]? = some .pending ∧
    Agrees keeper 0 openValue nameTurns ∧
    (of keeper 0 openValue (nameTurns.take 6)).machine.memory = "Ben" ∧
    (of keeper 0 openValue nameTurns).machine.memory = "Eve" :=
  ⟨rfl, settlement_agrees keeper 0 openValue rfl nameTurns, rfl, rfl⟩

end Vigil
end SpriteStage
