import SpriteStage.Proofs.Engine.Duty

namespace SpriteStage
namespace Journal
variable {κ σ : Type} {news more : List (Happening κ σ)}

/-- Which startup handlers the news run and which tasks they poll. -/
structure Tally (begun polled : List Nat) (news : List (Happening κ σ)) : Prop where
  starters : starters news = begun
  polls : polls news = polled
  answers : (answers news).Sublist polled

theorem Tally.of_neutral (neutral : ∀ happening ∈ news, happening.Neutral) : Tally [] [] news :=
  ⟨starters_neutral neutral, polls_neutral neutral, by simp [answers_neutral neutral]⟩

theorem Tally.append {begun polled begun' polled' : List Nat} (first : Tally begun polled news)
    (second : Tally begun' polled' more) :
    Tally (begun ++ begun') (polled ++ polled') (news ++ more) where
  starters := by simp [first.starters, second.starters]
  polls := by simp [first.polls, second.polls]
  answers := by simpa using first.answers.append second.answers

/-- The news of a start: these startup handlers ran, and left these tasks. -/
structure Opening (tickets tasks : List Nat) (news : List (Happening κ σ)) : Prop
    extends Tally tickets [] news where
  promises : promises news = tasks
  closed : ∀ happening ∈ news, happening.opens = false
  rest : ∀ happening ∈ news, happening.isPlay = false

theorem Opening.unanswered {tickets tasks : List Nat} (opening : Opening tickets tasks news) :
    Journal.answers news = [] := List.sublist_nil.mp opening.answers

theorem Opening.of_quiet (quiet : ∀ happening ∈ news, happening.Quiet) : Opening [] [] news :=
  have neutral happening member := (quiet happening member).toNeutral
  ⟨.of_neutral neutral, promises_neutral neutral,
    fun happening member => (quiet happening member).opens,
    fun happening member => (quiet happening member).rest⟩

theorem Opening.begun (ticket : Nat) : Opening [ticket] [] [(.started ticket : Happening κ σ)] :=
  ⟨⟨rfl, rfl, .refl _⟩, rfl, by simp [Happening.opens], by simp [Happening.isPlay]⟩

theorem Opening.promised (task : Nat) : Opening [] [task] [(.promised task : Happening κ σ)] :=
  ⟨⟨rfl, rfl, .refl _⟩, rfl, by simp [Happening.opens], by simp [Happening.isPlay]⟩

theorem Opening.append {tickets tasks tickets' tasks' : List Nat}
    (first : Opening tickets tasks news) (second : Opening tickets' tasks' more) :
    Opening (tickets ++ tickets') (tasks ++ tasks') (news ++ more) where
  toTally := first.toTally.append second.toTally
  promises := by simp [first.promises, second.promises]
  closed := List.forall_mem_append.mpr ⟨first.closed, second.closed⟩
  rest := List.forall_mem_append.mpr ⟨first.rest, second.rest⟩

/-- The news of a round of polls: each task that was due is polled once and in turn, and those that
do not answer are left. -/
structure Round (due left : List Nat) (news : List (Happening κ σ)) : Prop
    extends Tally [] due news where
  left : due.Nodup → left = due.filter (· ∉ Journal.answers news)
  promises : promises news = []
  closed : ∀ happening ∈ news, happening.opens = false

theorem Round.of_neutral (neutral : ∀ happening ∈ news, happening.Neutral) : Round [] [] news :=
  ⟨.of_neutral neutral, by simp, promises_neutral neutral,
    fun happening member => (neutral happening member).opens⟩

theorem Round.polled (task : Nat) : Round [task] [task] [(.polled task : Happening κ σ)] where
  toTally := ⟨rfl, rfl, List.nil_sublist _⟩
  left _ := by simp [Journal.answers, Happening.answered?]
  promises := rfl
  closed := by simp [Happening.opens]

theorem Round.unanswered {task : Nat} (waiting : Round [task] [task] news) :
    Journal.answers news = [] := by
  have absent : task ∉ Journal.answers news := by
    simpa [List.filter_cons] using (waiting.left (by simp)).symm
  refine List.eq_nil_iff_forall_not_mem.mpr fun other member => ?_
  have same := List.mem_singleton.mp (waiting.answers.subset member)
  exact absent (same ▸ member)

theorem Round.answered {task : Nat} (waiting : Round [task] [task] news) :
    Round [task] [] (news ++ [(.answered task : Happening κ σ)]) where
  starters := by rw [starters_append, waiting.starters]; rfl
  polls := by rw [polls_append, waiting.polls]; rfl
  answers := by rw [answers_append, waiting.unanswered]; exact .refl _
  left _ := by simp [Journal.answers, Happening.answered?]
  promises := by rw [promises_append, waiting.promises]; rfl
  closed := List.forall_mem_append.mpr ⟨waiting.closed, by simp [Happening.opens]⟩

theorem Round.append {due left due' left' : List Nat} (first : Round due left news)
    (second : Round due' left' more) : Round (due ++ due') (left ++ left') (news ++ more) where
  toTally := first.toTally.append second.toTally
  left unique := by
    obtain ⟨firstUnique, secondUnique, apart⟩ := List.nodup_append.mp unique
    rw [first.left firstUnique, second.left secondUnique, List.filter_append, answers_append]
    congr 1
    · refine List.filter_congr fun task member => ?_
      have elsewhere : task ∉ Journal.answers more := fun later =>
        apart task member task (second.answers.subset later) rfl
      simp [elsewhere]
    · refine List.filter_congr fun task member => ?_
      have elsewhere : task ∉ Journal.answers news := fun earlier =>
        apart task (first.answers.subset earlier) task member rfl
      simp [elsewhere]
  promises := by simp [first.promises, second.promises]
  closed := List.forall_mem_append.mpr ⟨first.closed, second.closed⟩

theorem Round.between {due left : List Nat} {before after : List (Happening κ σ)}
    (round : Round due left news) (early : ∀ happening ∈ before, happening.Neutral)
    (late : ∀ happening ∈ after, happening.Neutral) : Round due left (before ++ news ++ after) := by
  simpa using ((Round.of_neutral early).append round).append (.of_neutral late)

structure QuietRound (due left : List Nat) (news : List (Happening κ σ)) : Prop
    extends Round due left news where
  rest : ∀ happening ∈ news, happening.isPlay = false

theorem QuietRound.of_quiet (quiet : ∀ happening ∈ news, happening.Quiet) :
    QuietRound [] [] news :=
  ⟨.of_neutral fun happening member => (quiet happening member).toNeutral,
    fun happening member => (quiet happening member).rest⟩

theorem QuietRound.polled (task : Nat) :
    QuietRound [task] [task] [(.polled task : Happening κ σ)] :=
  ⟨.polled task, by simp [Happening.isPlay]⟩

theorem QuietRound.answered {task : Nat} (waiting : QuietRound [task] [task] news) :
    QuietRound [task] [] (news ++ [(.answered task : Happening κ σ)]) where
  toRound := waiting.toRound.answered
  rest := List.forall_mem_append.mpr ⟨waiting.rest, by simp [Happening.isPlay]⟩

theorem QuietRound.append {due left due' left' : List Nat} (first : QuietRound due left news)
    (second : QuietRound due' left' more) :
    QuietRound (due ++ due') (left ++ left') (news ++ more) where
  toRound := first.toRound.append second.toRound
  rest := List.forall_mem_append.mpr ⟨first.rest, second.rest⟩

end Journal

namespace Machine
variable {κ σ S : Type}

theorem Writes.answered {before after : Machine κ σ S} {task : Nat}
    (polls : before.Writes (Journal.QuietRound [task] [task]) after) :
    before.Writes (Journal.QuietRound [task] []) (after.record (.answered task)) := by
  obtain ⟨news, journal, round⟩ := polls.journal
  exact ⟨⟨_, by simp [Machine.record, journal], round.answered⟩, polls.starters⟩

variable [Surface S]

/-- A start runs all of its handlers, whatever becomes of them, and keeps a task of each handler
that leaves one. -/
theorem startPass_opening (p : Program κ σ) (serial : Nat) (handlers : List (Registered κ))
    (m : Machine κ σ S) :
    m.Writes (Journal.Opening (handlers.map (·.ticket))
      ((startPass p serial handlers m).1.map (·.serial))) (startPass p serial handlers m).2 := by
  induction handlers generalizing serial m with
  | nil => exact .of_same (.of_quiet (by simp)) rfl rfl
  | cons h rest ih =>
    have begins : m.Writes (Journal.Opening [h.ticket] []) (m.record (.started h.ticket)) :=
      writes_record (.begun h.ticket)
    have runs := begins.append (kept_aside.run (p.onStart h.handler) _) fun begun asides =>
      begun.append (.of_quiet fun happening member => Happening.quiet_of_isAside (asides _ member))
    rw [startPass]
    split
    · rename_i m' ran
      rw [ran] at runs
      exact runs.append (ih serial m') .append
    · rename_i task m' ran
      rw [ran] at runs
      have promises : m'.Writes (Journal.Opening [] [serial]) (m'.record (.promised serial)) :=
        writes_record (.promised serial)
      have leaves : m.Writes (Journal.Opening [h.ticket] [serial]) _ := runs.append promises .append
      exact leaves.append (ih (serial + 1) _) .append
    · rename_i error m' ran
      rw [ran] at runs
      have notes : m'.Writes (Journal.Opening [] []) (m'.note (.startHandlerFailed error)) :=
        writes_record (.of_quiet (by simpa using Happening.quiet_notice rfl))
      have fails : m.Writes (Journal.Opening [h.ticket] []) _ := runs.append notes .append
      exact fails.append (ih serial _) .append

theorem startPass_serials (p : Program κ σ) (serial : Nat) (handlers : List (Registered κ))
    (m : Machine κ σ S) : (startPass p serial handlers m).1.map (·.serial) =
      List.range' serial (startPass p serial handlers m).1.length := by
  induction handlers generalizing serial m with
  | nil => rfl
  | cons h rest ih =>
    rw [startPass]
    split
    · exact ih serial _
    · simp only [List.map_cons, List.length_cons, List.range'_succ]
      rw [ih (serial + 1)]
    · exact ih serial _

/-- Handlers that end or fail leave nothing to wait for: there are no more tasks than handlers that
can leave one. -/
theorem startPass_length_le (p : Program κ σ) (serial : Nat) (handlers : List (Registered κ))
    (m : Machine κ σ S) (leaves : Registered κ → Bool)
    (known : ∀ h ∈ handlers, ∀ (m : Machine κ σ S) task,
      ((p.onStart h.handler).run m).1 = .ok (some task) → leaves h) :
    (startPass p serial handlers m).1.length ≤ handlers.countP leaves := by
  induction handlers generalizing serial m with
  | nil => simp [startPass]
  | cons h rest ih =>
    have others serial m := ih serial m fun other member => known other (by simp [member])
    have more : rest.countP leaves ≤ (h :: rest).countP leaves :=
      (List.sublist_cons_self h rest).countP_le
    rw [startPass]
    split
    · exact (others serial _).trans more
    · rename_i task m' ran
      have counted := known h (by simp) (m.record (.started h.ticket)) task (by rw [ran])
      rw [List.countP_cons_of_pos counted]
      exact Nat.succ_le_succ (others (serial + 1) _)
    · exact (others serial _).trans more

theorem pollAll_round (p : Program κ σ) (tasks : List (Waiting κ)) (m : Machine κ σ S) :
    m.Writes (Journal.QuietRound (tasks.map (·.serial)) ((pollAll p tasks m).1.map (·.serial)))
      (pollAll p tasks m).2 := by
  induction tasks generalizing m with
  | nil => exact .of_same (.of_quiet (by simp)) rfl rfl
  | cons w rest ih =>
    have asks : m.Writes (Journal.QuietRound [w.serial] [w.serial]) (m.record (.polled w.serial)) :=
      writes_record (.polled w.serial)
    have polls := asks.append (leads_pollTask p w.task _) fun polled asides =>
      polled.append (.of_quiet fun happening member => Happening.quiet_of_isAside (asides _ member))
    rw [pollAll]
    split
    · rename_i task m' ran
      rw [ran] at polls
      exact polls.append (ih m') .append
    · rename_i task m' ran
      rw [ran] at polls
      exact polls.answered.append (ih _) .append
    · rename_i error task m' ran
      rw [ran] at polls
      have notes : (m'.record (.answered w.serial)).Writes (Journal.QuietRound [] [])
          ((m'.record (.answered w.serial)).note (.startHandlerFailed error)) :=
        writes_record (.of_quiet (by simpa using Happening.quiet_notice rfl))
      have fails : m.Writes (Journal.QuietRound [w.serial] []) _ :=
        polls.answered.append notes .append
      exact fails.append (ih _) .append

end Machine
end SpriteStage
