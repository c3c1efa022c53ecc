import Mathlib.Data.List.DropRight
import Mathlib.Data.List.Induction
import SpriteStage.Proofs.Script.Growth

namespace SpriteStage

namespace Happening
variable {κ σ : Type}

/-- A start or a reset: the tasks from before no longer count. -/
def opens : Happening κ σ → Bool
  | .notice (.started _) | .notice .reset => true
  | _ => false

def begun? : Happening κ σ → Option Nat
  | .started ticket => some ticket
  | _ => none

def promised? : Happening κ σ → Option Nat
  | .promised task => some task
  | _ => none

def polled? : Happening κ σ → Option Nat
  | .polled task => some task
  | _ => none

def answered? : Happening κ σ → Option Nat
  | .answered task => some task
  | _ => none

/-- A happening that says nothing of startup handlers and their tasks. -/
structure Neutral (happening : Happening κ σ) : Prop where
  opens : happening.opens = false
  begun : happening.begun? = none
  promised : happening.promised? = none
  polled : happening.polled? = none
  answered : happening.answered? = none

/-- A neutral happening that is no handler of the game either. -/
structure Quiet (happening : Happening κ σ) : Prop extends Neutral happening where
  rest : happening.isPlay = false

theorem quiet_notice {notice : Notice}
    (closed : (.notice notice : Happening κ σ).opens = false) :
    (.notice notice : Happening κ σ).Quiet := ⟨⟨closed, rfl, rfl, rfl, rfl⟩, rfl⟩

theorem quiet_of_isAside {happening : Happening κ σ} (aside : happening.isAside) :
    happening.Quiet := by
  cases happening with
  | notice n => exact quiet_notice (by cases n <;> simp_all [isAside, Notice.level, opens])
  | called | imageApplied => exact ⟨⟨rfl, rfl, rfl, rfl, rfl⟩, rfl⟩
  | _ => simp [isAside] at aside

theorem neutral_of_isGame {happening : Happening κ σ} (game : happening.isGame) :
    happening.Neutral := by
  rcases Bool.or_eq_true_iff.mp game with aside | play
  · exact (quiet_of_isAside aside).toNeutral
  · cases happening <;> simp [isPlay] at play <;> exact ⟨rfl, rfl, rfl, rfl, rfl⟩

end Happening

namespace Journal
variable {κ σ : Type}

/-- What happened since the latest start, or since the latest reset if that came later. -/
def sinceStart (journal : List (Happening κ σ)) : List (Happening κ σ) :=
  journal.rtakeWhile fun happening => !happening.opens

def starters (journal : List (Happening κ σ)) : List Nat := journal.filterMap (·.begun?)

def promises (journal : List (Happening κ σ)) : List Nat := journal.filterMap (·.promised?)

def polls (journal : List (Happening κ σ)) : List Nat := journal.filterMap (·.polled?)

def answers (journal : List (Happening κ σ)) : List Nat := journal.filterMap (·.answered?)

/-- The tasks of the latest start that have not answered, in the order of their handlers. -/
def owed (journal : List (Happening κ σ)) : List Nat :=
  (promises (sinceStart journal)).filter (· ∉ answers (sinceStart journal))

variable {journal news : List (Happening κ σ)}

@[simp] theorem starters_append (first second : List (Happening κ σ)) :
    starters (first ++ second) = starters first ++ starters second := List.filterMap_append

@[simp] theorem promises_append (first second : List (Happening κ σ)) :
    promises (first ++ second) = promises first ++ promises second := List.filterMap_append

@[simp] theorem polls_append (first second : List (Happening κ σ)) :
    polls (first ++ second) = polls first ++ polls second := List.filterMap_append

@[simp] theorem answers_append (first second : List (Happening κ σ)) :
    answers (first ++ second) = answers first ++ answers second := List.filterMap_append

theorem starters_neutral (neutral : ∀ happening ∈ news, happening.Neutral) : starters news = [] :=
  List.filterMap_eq_nil_iff.mpr fun happening member => (neutral happening member).begun

theorem promises_neutral (neutral : ∀ happening ∈ news, happening.Neutral) : promises news = [] :=
  List.filterMap_eq_nil_iff.mpr fun happening member => (neutral happening member).promised

theorem polls_neutral (neutral : ∀ happening ∈ news, happening.Neutral) : polls news = [] :=
  List.filterMap_eq_nil_iff.mpr fun happening member => (neutral happening member).polled

theorem answers_neutral (neutral : ∀ happening ∈ news, happening.Neutral) : answers news = [] :=
  List.filterMap_eq_nil_iff.mpr fun happening member => (neutral happening member).answered

theorem mem_promises {task : Nat} : task ∈ promises journal ↔ .promised task ∈ journal := by
  constructor
  · intro member
    obtain ⟨happening, present, same⟩ := List.mem_filterMap.mp member
    cases happening <;> simp [Happening.promised?] at same
    exact same ▸ present
  · exact fun member => List.mem_filterMap.mpr ⟨_, member, rfl⟩

theorem mem_answers {task : Nat} : task ∈ answers journal ↔ .answered task ∈ journal := by
  constructor
  · intro member
    obtain ⟨happening, present, same⟩ := List.mem_filterMap.mp member
    cases happening <;> simp [Happening.answered?] at same
    exact same ▸ present
  · exact fun member => List.mem_filterMap.mpr ⟨_, member, rfl⟩

theorem sinceStart_append (closed : ∀ happening ∈ news, happening.opens = false) :
    sinceStart (journal ++ news) = sinceStart journal ++ news := by
  induction news using List.reverseRecOn with
  | nil => simp
  | append_singleton news last ih =>
    have last_closed := closed last (by simp)
    rw [← List.append_assoc, sinceStart, List.rtakeWhile_concat_pos _ _ _ (by simp [last_closed]),
      ← sinceStart, ih fun happening member => closed happening (by simp [member]),
      List.append_assoc]

theorem sinceStart_opened {happening : Happening κ σ} (opens : happening.opens)
    (closed : ∀ happening ∈ news, happening.opens = false) :
    sinceStart (journal ++ happening :: news) = news := by
  have split : journal ++ happening :: news = journal ++ [happening] ++ news := by simp
  rw [split, sinceStart_append closed, sinceStart,
    List.rtakeWhile_concat_neg _ _ _ (by simp [opens]), List.nil_append]

theorem sinceStart_suffix {happening : Happening κ σ} (opens : happening.opens) :
    sinceStart (journal ++ happening :: news) <:+ news := by
  induction news using List.reverseRecOn with
  | nil => exact ⟨[], sinceStart_opened opens (by simp)⟩
  | append_singleton news last ih =>
    cases closed : last.opens with
    | false =>
      rw [← List.cons_append, ← List.append_assoc, sinceStart_append (by simp [closed])]
      exact (List.suffix_append_inj_of_length_eq rfl).mpr ⟨ih, rfl⟩
    | true =>
      rw [← List.cons_append, ← List.append_assoc, sinceStart_opened closed (by simp)]
      exact List.nil_suffix

theorem owed_eq_nil_iff : owed journal = [] ↔
    ∀ task, .promised task ∈ sinceStart journal → .answered task ∈ sinceStart journal := by
  simp only [owed, List.filter_eq_nil_iff, mem_promises, mem_answers, decide_not,
    Bool.not_eq_true', decide_eq_false_iff_not, not_not]

theorem owed_sublist (journal : List (Happening κ σ)) : (owed journal).Sublist (promises journal) :=
  List.filter_sublist.trans ((List.rtakeWhile_suffix _ journal).sublist.filterMap _)

/-- Polls take those that answer off the list. -/
theorem owed_append (closed : ∀ happening ∈ news, happening.opens = false)
    (none : promises news = []) :
    owed (journal ++ news) = (owed journal).filter (· ∉ answers news) := by
  simp only [owed, sinceStart_append closed, promises_append, none, List.append_nil,
    answers_append, List.mem_append, List.filter_filter]
  congr 1
  funext task
  simp [not_or, and_comm]

theorem owed_neutral (neutral : ∀ happening ∈ news, happening.Neutral) :
    owed (journal ++ news) = owed journal := by
  rw [owed_append (fun happening member => (neutral happening member).opens)
    (promises_neutral neutral), answers_neutral neutral]
  simp

theorem owed_opened {happening : Happening κ σ} (opens : happening.opens)
    (closed : ∀ happening ∈ news, happening.opens = false) (none : answers news = []) :
    owed (journal ++ happening :: news) = promises news := by
  rw [owed, sinceStart_opened opens closed, none]
  simp

/-- Whenever a handler of the game began to run, no task of the latest start was owed. -/
def SettledBeforePlay (journal : List (Happening κ σ)) : Prop :=
  ∀ before happening later, journal = before ++ happening :: later → happening.isPlay →
    owed before = []

theorem SettledBeforePlay.append (settled : SettledBeforePlay journal)
    (closed : ∀ before happening later, news = before ++ happening :: later → happening.isPlay →
      owed (journal ++ before) = []) : SettledBeforePlay (journal ++ news) := by
  intro before happening later same play
  rcases List.append_eq_append_iff.mp same with ⟨between, rfl, rest⟩ | ⟨between, old, rest⟩
  · exact closed between happening later rest play
  · cases between with
    | nil =>
      rw [List.append_nil] at old
      subst old
      simpa using closed [] happening later (by simpa using rest.symm) play
    | cons first between =>
      obtain ⟨rfl, rfl⟩ := List.cons.inj rest
      exact settled before happening between old play

theorem SettledBeforePlay.append_neutral (settled : SettledBeforePlay journal)
    (neutral : ∀ happening ∈ news, happening.Neutral)
    (free : ∀ happening ∈ news, happening.isPlay → owed journal = []) :
    SettledBeforePlay (journal ++ news) := by
  refine settled.append fun before happening later same play => ?_
  rw [owed_neutral fun other member => neutral other (by simp [same, member])]
  exact free happening (by simp [same]) play

theorem SettledBeforePlay.append_rest (settled : SettledBeforePlay journal)
    (rest : ∀ happening ∈ news, happening.isPlay = false) : SettledBeforePlay (journal ++ news) :=
  settled.append fun before happening later same play => by
    simp [rest happening (by simp [same])] at play

end Journal
end SpriteStage
