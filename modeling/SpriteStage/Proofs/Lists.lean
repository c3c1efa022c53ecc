import Mathlib.Data.List.Basic
import Mathlib.Data.List.Induction

namespace SpriteStage
section Lookup
variable {α β : Type} [BEq α] [LawfulBEq α] [DecidableEq α]

theorem lookup_entry (key other : α) (value : β) (rest : List (α × β)) :
    ((key, value) :: rest).lookup other =
      if other = key then some value else rest.lookup other := by
  by_cases same : other = key
  · simp [same]
  · rw [List.lookup_cons, beq_false_of_ne same, if_neg same]

theorem lookup_without (key other : α) (entries : List (α × β)) :
    (entries.filter (·.1 ≠ key)).lookup other =
      if other = key then none else entries.lookup other := by
  induction entries with
  | nil => simp
  | cons entry rest ih =>
    obtain ⟨name, old⟩ := entry
    by_cases found : name = key
    · rw [List.filter_cons_of_neg (by simpa using found), ih, lookup_entry, found]
      split <;> rfl
    · rw [List.filter_cons_of_pos (by simpa using found), lookup_entry, lookup_entry, ih]
      by_cases same : other = name
      · simp [same, found]
      · simp [same]

end Lookup

section Standing
variable {α : Type} {event last : α} {undoes : α → Bool} {past : List α}

/-- The event has happened, and none of those after it undoes it. -/
def Standing (event : α) (undoes : α → Bool) (past : List α) : Prop :=
  ∃ early later, past = early ++ event :: later ∧ ∀ other ∈ later, ¬ undoes other

theorem not_standing_nil : ¬ Standing event undoes [] := by
  rintro ⟨early, later, split, _⟩
  exact List.append_ne_nil_of_right_ne_nil early (List.cons_ne_nil event later) split.symm

/-- What stands after one more event is that event, or it stood before and is not undone by it. -/
theorem standing_concat : Standing event undoes (past ++ [last]) ↔
    last = event ∨ ¬ undoes last ∧ Standing event undoes past := by
  constructor
  · rintro ⟨early, later, split, kept⟩
    rcases List.eq_nil_or_concat later with rfl | ⟨later, other, rfl⟩
    · obtain ⟨-, only⟩ := List.append_inj' split rfl
      exact .inl (List.singleton_inj.mp only)
    · rw [List.concat_eq_append] at split kept
      rw [← List.cons_append, ← List.append_assoc] at split
      obtain ⟨same, only⟩ := List.append_inj' split rfl
      obtain rfl := List.singleton_inj.mp only
      obtain ⟨before, latest⟩ := List.forall_mem_append.mp kept
      exact .inr ⟨latest last (List.mem_singleton_self last), early, later, same, before⟩
  · rintro (rfl | ⟨spares, early, later, rfl, kept⟩)
    · exact ⟨past, [], rfl, by simp⟩
    · refine ⟨early, later ++ [last], by simp, ?_⟩
      exact List.forall_mem_append.mpr ⟨kept, List.forall_mem_singleton.mpr spares⟩

theorem standing_concat_of_spared (other : last ≠ event) (spares : ¬ undoes last) :
    Standing event undoes (past ++ [last]) ↔ Standing event undoes past := by
  simp [standing_concat, other, spares]

theorem not_standing_concat (other : last ≠ event) (undone : undoes last) :
    ¬ Standing event undoes (past ++ [last]) := by
  simp [standing_concat, other, undone]

theorem standing_map {β : Type} (f : α → β) (event : β) (undoes : β → Bool) (past : List α) :
    Standing event undoes (past.map f) ↔
      ∃ source, f source = event ∧ Standing source (fun other => undoes (f other)) past := by
  constructor
  · rintro ⟨early, later, split, kept⟩
    obtain ⟨before, rest, rfl, rfl, tail⟩ := List.map_eq_append_iff.mp split
    obtain ⟨source, after, rfl, same, rfl⟩ := List.map_eq_cons_iff.mp tail
    exact ⟨source, same, before, after, rfl, fun other member =>
      kept _ (List.mem_map_of_mem member)⟩
  · rintro ⟨source, rfl, before, after, rfl, kept⟩
    refine ⟨before.map f, after.map f, by simp, ?_⟩
    simpa using kept

end Standing
end SpriteStage
