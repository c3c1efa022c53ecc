import SpriteStage.Proofs.Script.Growth

/-! The journal as the history of a part of the stage: what the part is after a number of happenings
is what they make of it, one after the other. -/

namespace SpriteStage

/-- A part of the stage, and what each happening can make of it. -/
structure Aspect (κ σ α : Type) where
  read : Context κ → α
  step : α → Happening κ σ → α → Prop

namespace Aspect
variable {κ σ α S : Type} {aspect : Aspect κ σ α}

inductive History (aspect : Aspect κ σ α) : α → List (Happening κ σ) → α → Prop
  | nil (state : α) : History aspect state [] state
  | cons {before between after : α} {happening : Happening κ σ} {news : List (Happening κ σ)}
      (step : aspect.step before happening between) (rest : History aspect between news after) :
      History aspect before (happening :: news) after

section History
variable {before between after state : α} {news more : List (Happening κ σ)}

theorem History.append (first : aspect.History before news between)
    (second : aspect.History between more after) : aspect.History before (news ++ more) after := by
  induction first with
  | nil state => exact second
  | cons step rest ih => exact .cons step (ih second)

theorem History.split (history : aspect.History before (news ++ more) after) :
    ∃ between, aspect.History before news between ∧ aspect.History between more after := by
  induction news generalizing before with
  | nil => exact ⟨before, .nil before, history⟩
  | cons happening news ih =>
    cases history with
    | cons step rest =>
      obtain ⟨between, first, second⟩ := ih rest
      exact ⟨between, .cons step first, second⟩

theorem History.silent (silent : ∀ happening ∈ news, aspect.step state happening state) :
    aspect.History state news state := by
  induction news with
  | nil => exact .nil state
  | cons happening news ih =>
    have others : ∀ happening ∈ news, aspect.step state happening state := fun other member =>
      silent other (List.mem_cons_of_mem _ member)
    exact .cons (silent happening List.mem_cons_self) (ih others)

theorem History.invariant {I : α → Prop} (history : aspect.History before news after)
    (kept : ∀ {before happening after}, I before → aspect.step before happening after → I after)
    (holds : I before) : I after := by
  induction history with
  | nil state => exact holds
  | cons step rest ih => exact ih (kept holds step)

/-- Where each happening either issues the next number or none, the numbers that are issued are
consecutive. -/
theorem History.issued {count : α → Nat} {issue? : Happening κ σ → Option Nat}
    (issues : ∀ {before happening after}, aspect.step before happening after →
      issue? happening = none ∧ count after = count before ∨
        issue? happening = some (count before) ∧ count after = count before + 1)
    (history : aspect.History before news after) : ∃ made,
      news.filterMap issue? = List.range' (count before) made ∧
        count after = count before + made := by
  induction history with
  | nil state => exact ⟨0, rfl, rfl⟩
  | cons step rest ih =>
    obtain ⟨made, issued, total⟩ := ih
    rcases issues step with ⟨none, same⟩ | ⟨some, next⟩
    · exact ⟨made, by rw [List.filterMap_cons_none none, issued, same], total.trans (by rw [same])⟩
    · refine ⟨made + 1, ?_, by omega⟩
      rw [List.filterMap_cons_some some, issued, next, List.range'_succ]

end History

/-- One machine comes after another, and the journal tells what became of the part. -/
def Follows (aspect : Aspect κ σ α) (before after : Machine κ σ S) : Prop :=
  ∃ news, after.journal = before.journal ++ news ∧
    aspect.History (aspect.read before.context) news (aspect.read after.context)

section Follows
variable {before middle after : Machine κ σ S}

theorem Follows.of_same (journal : after.journal = before.journal)
    (same : aspect.read after.context = aspect.read before.context) :
    aspect.Follows before after :=
  ⟨[], by simp [journal], same ▸ .nil _⟩

theorem Follows.refl (m : Machine κ σ S) : aspect.Follows m m := .of_same rfl rfl

theorem Follows.trans (first : aspect.Follows before middle)
    (second : aspect.Follows middle after) : aspect.Follows before after := by
  obtain ⟨news, journal, early⟩ := first
  obtain ⟨more, moreJournal, late⟩ := second
  exact ⟨news ++ more, by simp [journal, moreJournal], early.append late⟩

end Follows

end Aspect
end SpriteStage
