import Mathlib.Data.List.Basic
import SpriteStage.Collision.Registry

namespace SpriteStage
variable {κ : Type}

def Registration.withHandler (id : CollisionId) (handler : Option κ) (r : Registration κ) :
    Registration κ :=
  if r.id = id then { r with handler := handler } else r

@[simp] theorem Registration.withHandler_id (id : CollisionId) (handler : Option κ)
    (r : Registration κ) : (r.withHandler id handler).id = r.id := by
  unfold withHandler
  split <;> rfl

@[simp] theorem Registration.withHandler_names (id : CollisionId) (handler : Option κ)
    (r : Registration κ) (figure : FigureId) :
    (r.withHandler id handler).names figure = r.names figure := by
  unfold withHandler
  split <;> rfl

theorem Registration.withHandler_other {id : CollisionId} {r : Registration κ} (other : r.id ≠ id)
    (handler : Option κ) : r.withHandler id handler = r := if_neg other

/-- A handler that was taken out is the registration's own again once it is put back. -/
theorem Registration.withHandler_own {r : Registration κ} {id : CollisionId} {handler : κ}
    (own : r.id = id → r.handler = some handler) :
    (r.withHandler id none).withHandler id (some handler) = r := by
  by_cases same : r.id = id
  · obtain ⟨_, first, second, held⟩ := r
    obtain rfl : _ = some handler := own same
    simp only [withHandler, if_pos same]
  · rw [withHandler_other same, withHandler_other same]

namespace CollisionRegistry

abbrev Ascending (entries : List (Registration κ)) : Prop := entries.Pairwise (·.id < ·.id)

theorem find?_of_mem {entries : List (Registration κ)} (ascending : Ascending entries)
    {r : Registration κ} (member : r ∈ entries) : entries.find? (·.id = r.id) = some r := by
  induction entries with
  | nil => cases member
  | cons entry rest ih =>
    obtain ⟨least, ascending⟩ := List.pairwise_cons.mp ascending
    rcases List.mem_cons.mp member with rfl | member
    · simp
    · have other : entry.id ≠ r.id := Nat.ne_of_lt (least r member)
      rw [List.find?_cons_of_neg (by simpa using other)]
      exact ih ascending member

theorem map_withHandler_other {id : CollisionId} {entries : List (Registration κ)}
    (others : ∀ r ∈ entries, r.id ≠ id) (handler : Option κ) :
    entries.map (·.withHandler id handler) = entries := by
  refine (List.map_congr_left fun r member => ?_).trans (List.map_id entries)
  exact Registration.withHandler_other (others r member) handler

theorem setHandler_eq_map (id : CollisionId) (handler : Option κ)
    {entries : List (Registration κ)} (ascending : Ascending entries) :
    setHandler id handler entries = entries.map (·.withHandler id handler) := by
  induction entries with
  | nil => rfl
  | cons entry rest ih =>
    obtain ⟨least, ascending⟩ := List.pairwise_cons.mp ascending
    by_cases same : entry.id = id
    · have others : ∀ r ∈ rest, r.id ≠ id := fun r member =>
        same ▸ Nat.ne_of_gt (least r member)
      rw [setHandler, if_pos same, List.map_cons, map_withHandler_other others,
        Registration.withHandler, if_pos same]
    · rw [setHandler, if_neg same, List.map_cons, ih ascending, Registration.withHandler_other same]

/-- A registry at rest: ids ascend to the latest, and no handler is lent out. -/
structure Sound (registry : CollisionRegistry κ) : Prop where
  ascending : Ascending registry.entries
  bound : ∀ r ∈ registry.entries, r.id ≤ registry.latest
  held : ∀ r ∈ registry.entries, ∃ handler, r.handler = some handler

theorem sound_of_nil {registry : CollisionRegistry κ} (none : registry.entries = []) :
    Sound registry where
  ascending := none ▸ .nil
  bound := by simp [none]
  held := by simp [none]

section Lent
variable {registry : CollisionRegistry κ} {r : Registration κ}

theorem Sound.find?_of_mem (sound : Sound registry) (member : r ∈ registry.entries) :
    registry.find? r.id = some r := CollisionRegistry.find?_of_mem sound.ascending member

theorem Sound.take (sound : Sound registry) (id : CollisionId) :
    (registry.take id).2.entries = registry.entries.map (·.withHandler id none) :=
  setHandler_eq_map id none sound.ascending

/-- While a handler is lent out, registrations may be dropped and added: once the handler is back,
nothing else has changed. -/
theorem Sound.restore_take (sound : Sound registry) (member : r ∈ registry.entries) {handler : κ}
    (own : r.handler = some handler) (keep : Registration κ → Bool)
    (blind : ∀ s other, keep (s.withHandler r.id other) = keep s)
    {added : List (Registration κ)} (ascending : Ascending added)
    (new : ∀ s ∈ added, registry.latest < s.id) :
    setHandler r.id (some handler) ((registry.take r.id).2.entries.filter keep ++ added) =
      registry.entries.filter keep ++ added := by
  have kept : ((registry.take r.id).2.entries.filter keep) =
      (registry.entries.filter keep).map (·.withHandler r.id none) := by
    rw [sound.take, List.filter_map]
    congr 1
    exact List.filter_congr fun s _ => blind s none
  have old (s : Registration κ) (old : s ∈ registry.entries.filter keep) : s.id ≤ registry.latest :=
    sound.bound s (List.mem_of_mem_filter old)
  -- ids still ascend, so that giving the handler back changes one entry alone
  have ordered : Ascending
      ((registry.entries.filter keep).map (·.withHandler r.id none) ++ added) := by
    refine List.pairwise_append.mpr ⟨?_, ascending, ?_⟩
    · rw [List.pairwise_map]
      simpa using sound.ascending.filter keep
    · intro s lent t fresh
      obtain ⟨s, present, rfl⟩ := List.mem_map.mp lent
      rw [Registration.withHandler_id]
      exact Nat.lt_of_le_of_lt (old s present) (new t fresh)
  have later : ∀ s ∈ added, s.id ≠ r.id := fun s fresh =>
    Nat.ne_of_gt (Nat.lt_of_le_of_lt (sound.bound r member) (new s fresh))
  rw [kept, setHandler_eq_map r.id (some handler) ordered, List.map_append,
    map_withHandler_other later, List.map_map]
  congr 1
  refine (List.map_congr_left fun s present => ?_).trans (List.map_id _)
  -- the one entry under that id is the one that the handler was taken from
  refine Registration.withHandler_own fun same => ?_
  have found := sound.find?_of_mem (List.mem_of_mem_filter present)
  rw [same, sound.find?_of_mem member] at found
  exact Option.some.inj found ▸ own

end Lent
end CollisionRegistry
end SpriteStage
