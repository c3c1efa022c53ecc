import SpriteStage.Deferred.Board
import Mathlib.Data.List.Basic

namespace SpriteStage.Board

@[simp] theorem add_id (board : Board) (outcome : Settled) :
    (board.add outcome).1 = board.slots.length := rfl

@[simp] theorem add_length (board : Board) (outcome : Settled) :
    (board.add outcome).2.slots.length = board.slots.length + 1 := by
  simp [add]

theorem state_beyond {board : Board} {id : DeferredId} (beyond : board.slots.length ≤ id) :
    board.state id = .pending := by
  simp [state, List.getD_eq_getElem?_getD, List.getElem?_eq_none beyond]

/-- Numbers beyond the board count as pending, so a new pending value changes no state. -/
@[simp] theorem add_pending_state (board : Board) :
    (board.add .pending).2.state = board.state := by
  funext id
  simp only [add, state, List.getD_eq_getElem?_getD]
  rcases Nat.lt_trichotomy id board.slots.length with below | same | above
  · rw [List.getElem?_append_left below]
  · subst id
    simp
  · have beyond : (board.slots ++ [Settled.pending]).length ≤ id := by
      simpa using Nat.succ_le_of_lt above
    rw [List.getElem?_eq_none beyond, List.getElem?_eq_none (Nat.le_of_lt above)]

@[simp] theorem settle_length (board : Board) (id : DeferredId) (outcome : Settled) :
    (board.settle id outcome).2.slots.length = board.slots.length := by
  unfold settle
  split <;> simp

theorem settle_other {board : Board} {id other : DeferredId} (outcome : Settled)
    (different : other ≠ id) : (board.settle id outcome).2.state other = board.state other := by
  unfold settle
  split
  · simp [state, List.getD_eq_getElem?_getD, Ne.symm different]
  · rfl

theorem settle_elsewhere {board : Board} {id other : DeferredId} {outcome : Settled}
    (elsewhere : other = id → (board.settle other outcome).1 = false) :
    (board.settle other outcome).2.state id = board.state id := by
  by_cases same : other = id
  · have refused := elsewhere same
    by_cases slot : board.slots[other]? = some .pending
    · rw [settle, if_pos slot] at refused
      cases refused
    · rw [settle, if_neg slot]
  · exact settle_other outcome (Ne.symm same)

theorem slot_of_pending {board : Board} {id : DeferredId} (made : id < board.slots.length)
    (isOpen : board.state id = .pending) : board.slots[id]? = some .pending := by
  rw [List.getElem?_eq_getElem made]
  simpa [state, List.getD_eq_getElem?_getD, made] using isOpen

theorem slot_pending {board : Board} {id : DeferredId} (slot : board.slots[id]? = some .pending) :
    id < board.slots.length ∧ board.state id = .pending := by
  obtain ⟨made, _⟩ := List.getElem?_eq_some_iff.mp slot
  exact ⟨made, by simp [state, List.getD_eq_getElem?_getD, slot]⟩

theorem settle_pending {board : Board} {id : DeferredId} (outcome : Settled)
    (made : id < board.slots.length) (isOpen : board.state id = .pending) :
    (board.settle id outcome).2.state id = outcome := by
  rw [settle, if_pos (slot_of_pending made isOpen)]
  simp [state, List.getD_eq_getElem?_getD, made]

theorem add_state_old {board : Board} {id : DeferredId} (outcome : Settled)
    (old : id < board.slots.length) : (board.add outcome).2.state id = board.state id := by
  simp only [add, state, List.getD_eq_getElem?_getD]
  rw [List.getElem?_append_left old]

theorem add_state_new (board : Board) (outcome : Settled) :
    (board.add outcome).2.state board.slots.length = outcome := by
  simp [add, state, List.getD_eq_getElem?_getD]

/-- A board goes on: it loses no value, and what is settled stays as it is. -/
structure Extends (before after : Board) : Prop where
  made : before.slots.length ≤ after.slots.length
  settled : ∀ id, before.state id ≠ .pending → after.state id = before.state id

namespace Extends
variable {before middle after : Board}

theorem refl (board : Board) : board.Extends board := ⟨Nat.le_refl _, fun _ _ => rfl⟩

theorem trans (first : before.Extends middle) (second : middle.Extends after) :
    before.Extends after where
  made := Nat.le_trans first.made second.made
  settled id done := by
    have same := first.settled id done
    exact (second.settled id (same ▸ done)).trans same

theorem add (board : Board) (outcome : Settled) : board.Extends (board.add outcome).2 where
  made := by simp
  settled id done := by
    rcases Nat.lt_or_ge id board.slots.length with old | beyond
    · exact add_state_old outcome old
    · exact absurd (state_beyond beyond) done

theorem settle (board : Board) (id : DeferredId) (outcome : Settled) :
    board.Extends (board.settle id outcome).2 where
  made := by simp
  settled other done := by
    by_cases same : other = id
    · have closed : board.slots[id]? ≠ some .pending := by
        intro isOpen
        subst same
        exact done (by simp [state, List.getD_eq_getElem?_getD, isOpen])
      rw [Board.settle, if_neg closed]
    · exact settle_other outcome same

end Extends

/-- Of the values on a board, some may be settled and no others. -/
structure Settles (ids : List DeferredId) (before after : Board) : Prop where
  made : after.slots.length = before.slots.length
  kept : ∀ id, before.state id ≠ .pending → after.state id = before.state id
  others : ∀ id, id ∉ ids → after.state id = before.state id

namespace Settles
variable {ids more : List DeferredId} {before middle after : Board}

theorem refl (ids : List DeferredId) (board : Board) : board.Settles ids board :=
  ⟨rfl, fun _ _ => rfl, fun _ _ => rfl⟩

theorem goesOn (settles : before.Settles ids after) : before.Extends after :=
  ⟨Nat.le_of_eq settles.made.symm, settles.kept⟩

theorem mono (settles : before.Settles ids after) (subset : ids ⊆ more) :
    before.Settles more after :=
  { settles with others := fun id none => settles.others id fun member => none (subset member) }

theorem trans (first : before.Settles ids middle) (second : middle.Settles ids after) :
    before.Settles ids after where
  made := second.made.trans first.made
  kept := (first.goesOn.trans second.goesOn).settled
  others id none := (second.others id none).trans (first.others id none)

theorem append (first : before.Settles ids middle) (second : middle.Settles more after) :
    before.Settles (ids ++ more) after :=
  (first.mono (List.subset_append_left ids more)).trans
    (second.mono (List.subset_append_right ids more))

theorem settle (board : Board) (id : DeferredId) (outcome : Settled) :
    board.Settles [id] (board.settle id outcome).2 where
  made := settle_length board id outcome
  kept := (Extends.settle board id outcome).settled
  others _ none := settle_other outcome fun same => none (same ▸ List.mem_singleton_self id)

end Settles

end SpriteStage.Board
