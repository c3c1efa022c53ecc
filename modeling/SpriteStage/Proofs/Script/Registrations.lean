import SpriteStage.Proofs.Collision.Registry
import SpriteStage.Proofs.Script.Idle

namespace SpriteStage
variable {κ σ S : Type}

def Happening.purges (r : Registration κ) : Happening κ σ → Bool
  | .called (.removeFigure figure) true => r.names figure
  | _ => false

def Happening.registration? : Happening κ σ → Option (Registration κ)
  | .called (.onCollision first second handler) id => some ⟨id, first, second, some handler⟩
  | _ => none

def Happening.collided? : Happening κ σ → Option CollisionId
  | .collided id => some id
  | _ => none

theorem Happening.collided?_of_isAside {happening : Happening κ σ} (aside : happening.isAside) :
    happening.collided? = none := by
  cases happening with
  | collided => cases aside
  | _ => rfl

theorem Happening.purges_eq {happening : Happening κ σ} {r s : Registration κ}
    (names : ∀ figure, r.names figure = s.names figure) :
    happening.purges r = happening.purges s := by
  unfold purges
  split
  · exact names _
  · rfl

namespace Journal

def purged (news : List (Happening κ σ)) (r : Registration κ) : Bool := news.any (·.purges r)

/-- The registrations that were made, in order, without those that were purged afterwards. -/
def added : List (Happening κ σ) → List (Registration κ)
  | [] => []
  | happening :: news =>
    (happening.registration?.filter fun r => !purged news r).toList ++ added news

theorem purged_append (news more : List (Happening κ σ)) (r : Registration κ) :
    purged (news ++ more) r = (purged news r || purged more r) := List.any_append

theorem added_append (news more : List (Happening κ σ)) :
    added (news ++ more) = (added news).filter (fun r => !purged more r) ++ added more := by
  induction news with
  | nil => rfl
  | cons happening news ih =>
    rw [List.cons_append, added, ih, added, List.filter_append, List.append_assoc]
    congr 1
    cases happening.registration? with
    | none => rfl
    | some r =>
      cases early : purged news r <;> cases late : purged more r <;>
        simp [Option.filter, purged_append, early, late]

theorem purged_withHandler (news : List (Happening κ σ)) (r : Registration κ) (id : CollisionId)
    (handler : Option κ) : purged news (r.withHandler id handler) = purged news r := by
  refine congrArg news.any (funext fun _ => Happening.purges_eq fun figure => ?_)
  exact Registration.withHandler_names id handler r figure

end Journal

open Journal

/-- What happenings do to a registry: what was there and has not been purged is followed by what was
added, under new numbers. -/
structure CollisionRegistry.Changes (before : CollisionRegistry κ) (news : List (Happening κ σ))
    (after : CollisionRegistry κ) : Prop where
  entries : after.entries = before.entries.filter (fun r => !purged news r) ++ added news
  latest : before.latest ≤ after.latest
  ascending : Ascending (added news)
  numbers : ∀ r ∈ added news, before.latest < r.id ∧ r.id ≤ after.latest
  held : ∀ r ∈ added news, ∃ handler, r.handler = some handler

namespace CollisionRegistry
variable {before between after : CollisionRegistry κ} {news more : List (Happening κ σ)}

theorem Changes.refl (registry : CollisionRegistry κ) :
    registry.Changes ([] : List (Happening κ σ)) registry := by
  refine ⟨?_, Nat.le_refl _, .nil, by simp [added], by simp [added]⟩
  simp [purged, added]

theorem Changes.of_silent {happening : Happening κ σ} (same : after = before)
    (unmade : happening.registration? = none) (kept : ∀ r, happening.purges r = false) :
    before.Changes [happening] after := by
  have none : added [happening] = ([] : List (Registration κ)) := by simp [added, unmade]
  refine ⟨?_, same ▸ Nat.le_refl _, by simp [none], by simp [none], by simp [none]⟩
  rw [none, same, List.append_nil]
  exact (List.filter_eq_self.mpr fun r _ => by simp [purged, kept r]).symm

theorem changes_purge (registry : CollisionRegistry κ) (figure : FigureId) :
    registry.Changes [(.called (.removeFigure figure) true : Happening κ σ)]
      (registry.purge figure) := by
  refine ⟨?_, Nat.le_refl _, .nil, by simp [added, Happening.registration?], by simp [added,
    Happening.registration?]⟩
  simp [purge, purged, added, Happening.purges, Happening.registration?]

theorem changes_register (registry : CollisionRegistry κ) (first second : FigureId) (handler : κ) :
    registry.Changes [(.called (.onCollision first second handler)
      (registry.register first second handler).1 : Happening κ σ)]
      (registry.register first second handler).2 := by
  have made : added [(.called (.onCollision first second handler)
      (registry.register first second handler).1 : Happening κ σ)] =
      [⟨registry.latest + 1, first, second, some handler⟩] := by
    simp [added, Happening.registration?, register, purged, Option.filter]
  refine ⟨?_, Nat.le_succ _, ?_, ?_, ?_⟩
  · rw [made]
    simp [register, purged, Happening.purges]
  · simp [made]
  · rw [made]
    simp [register]
  · simp [made]

theorem Changes.append (first : before.Changes news between) (second : between.Changes more after) :
    before.Changes (news ++ more) after where
  entries := by
    rw [second.entries, first.entries, added_append, List.filter_append, List.filter_filter,
      List.append_assoc]
    congr 1
    refine List.filter_congr fun r _ => ?_
    rw [purged_append, Bool.not_or, Bool.and_comm]
  latest := Nat.le_trans first.latest second.latest
  ascending := by
    rw [added_append]
    refine List.pairwise_append.mpr ⟨first.ascending.filter _, second.ascending, ?_⟩
    intro r old s new
    have early := (first.numbers r (List.mem_of_mem_filter old)).2
    exact Nat.lt_of_le_of_lt early (second.numbers s new).1
  numbers r member := by
    rw [added_append, List.mem_append] at member
    rcases member with old | new
    · obtain ⟨above, below⟩ := first.numbers r (List.mem_of_mem_filter old)
      exact ⟨above, Nat.le_trans below second.latest⟩
    · obtain ⟨above, below⟩ := second.numbers r new
      exact ⟨Nat.lt_of_le_of_lt first.latest above, below⟩
  held r member := by
    rw [added_append, List.mem_append] at member
    rcases member with old | new
    · exact first.held r (List.mem_of_mem_filter old)
    · exact second.held r new

theorem Changes.sound (changes : before.Changes news after) (sound : before.Sound) :
    after.Sound where
  ascending := by
    rw [Ascending, changes.entries]
    refine List.pairwise_append.mpr ⟨sound.ascending.filter _, changes.ascending, ?_⟩
    intro r old s new
    exact Nat.lt_of_le_of_lt (sound.bound r (List.mem_of_mem_filter old)) (changes.numbers s new).1
  bound r member := by
    rw [changes.entries, List.mem_append] at member
    rcases member with old | new
    · exact Nat.le_trans (sound.bound r (List.mem_of_mem_filter old)) changes.latest
    · exact (changes.numbers r new).2
  held r member := by
    rw [changes.entries, List.mem_append] at member
    rcases member with old | new
    · exact sound.held r (List.mem_of_mem_filter old)
    · exact changes.held r new

theorem Changes.find? (changes : before.Changes news after) (sound : before.Sound)
    {r : Registration κ} (member : r ∈ before.entries) :
    after.find? r.id = if purged news r then none else some r := by
  cases gone : purged news r with
  | false =>
    have present : r ∈ after.entries := by
      rw [changes.entries]
      exact List.mem_append_left _ (List.mem_filter.mpr ⟨member, by simp [gone]⟩)
    exact (changes.sound sound).find?_of_mem present
  | true =>
    refine List.find?_eq_none.mpr fun s present => ?_
    rw [changes.entries, List.mem_append] at present
    rcases present with old | new
    · obtain ⟨old, kept⟩ := List.mem_filter.mp old
      intro same
      have found := sound.find?_of_mem old
      rw [show s.id = r.id by simpa using same, sound.find?_of_mem member] at found
      obtain rfl := Option.some.inj found
      simp [gone] at kept
    · have later := Nat.lt_of_le_of_lt (sound.bound r member) (changes.numbers s new).1
      simpa using Nat.ne_of_gt later

end CollisionRegistry

def Aspect.registry : Aspect κ σ (CollisionRegistry κ) where
  read c := c.collisions
  step before happening after := before.Changes [happening] after

theorem Aspect.registry_arranged [Surface S] :
    (Aspect.registry (κ := κ) (σ := σ)).Arranged S where
  reads same := congrArg Arrangement.collisions same
  plain state happening plain := by
    cases happening with
    | called => cases plain
    | _ => exact .of_silent rfl rfl fun _ => rfl
  idle c m idle := by
    cases c with
    | onCollision | removeFigure => cases idle
    | _ => exact .of_silent rfl rfl fun _ => rfl
  arranges c m arranges := by
    cases c with
    | onCollision first second handler =>
      exact m.context.collisions.changes_register first second handler
    | removeFigure figure =>
      change m.context.collisions.Changes
        [.called (.removeFigure figure) (m.context.removeFigure figure).1]
        (m.context.removeFigure figure).2.collisions
      cases there : m.context.figures.contains figure with
      | true =>
        rw [Context.removeFigure, if_pos there]
        exact m.context.collisions.changes_purge figure
      | false =>
        rw [Context.removeFigure, if_neg (by simp [there])]
        exact .of_silent rfl rfl fun _ => rfl
    | createFigure | requestStop | onStart | onFrame | onKey =>
      exact .of_silent rfl rfl fun _ => rfl
    | _ => cases arranges

theorem CollisionRegistry.Changes.of_history {before after : CollisionRegistry κ}
    {news : List (Happening κ σ)} (history : Aspect.registry.History before news after) :
    before.Changes news after := by
  induction history with
  | nil state => exact .refl state
  | cons step rest ih => exact .append step ih

end SpriteStage
