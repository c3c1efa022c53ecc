import SpriteStage.Proofs.Engine.Lending
import SpriteStage.Proofs.Engine.Moves

namespace SpriteStage
variable {κ σ S : Type}

/-- What happenings make of the tables, if some of them may be forgotten. -/
structure Handlers.Descends (before : Handlers κ) (news : List (Happening κ σ))
    (after : Handlers κ) : Prop where
  counts : before.issued ≤ after.issued
  fresh : ∀ (table : HandlerTable), ∀ h ∈ news.filterMap (·.registered? table),
    h.ticket < after.issued
  tables : ∀ (table : HandlerTable), ∀ h ∈ table.of after,
    h ∈ table.of before ∨ before.issued ≤ h.ticket
  invoked : ∀ ticket ∈ news.filterMap (·.invoked?),
    (∃ table : HandlerTable, ∃ h ∈ table.of before, h.ticket = ticket) ∨ before.issued ≤ ticket

namespace Handlers
variable {before between after : Handlers κ} {news more : List (Happening κ σ)}

theorem Grows.descends (grows : before.Grows news after)
    (invoked : ∀ ticket ∈ news.filterMap (·.invoked?),
      ∃ table : HandlerTable, ∃ h ∈ table.of before, h.ticket = ticket) :
    before.Descends news after where
  counts := grows.counts
  fresh table h member := (grows.fresh table h member).2
  tables table h member := by
    rw [grows.tables table, List.mem_append] at member
    rcases member with old | new
    · exact .inl old
    · exact .inr (grows.fresh table h new).1
  invoked ticket member := .inl (invoked ticket member)

theorem Descends.append (first : before.Descends news between)
    (second : between.Descends more after) : before.Descends (news ++ more) after where
  counts := Nat.le_trans first.counts second.counts
  fresh table h member := by
    rw [List.filterMap_append, List.mem_append] at member
    rcases member with early | late
    · exact Nat.lt_of_lt_of_le (first.fresh table h early) second.counts
    · exact second.fresh table h late
  tables table h member := by
    rcases second.tables table h member with old | new
    · exact first.tables table h old
    · exact .inr (Nat.le_trans first.counts new)
  invoked ticket member := by
    rw [List.filterMap_append, List.mem_append] at member
    rcases member with early | late
    · exact first.invoked ticket early
    · rcases second.invoked ticket late with ⟨table, h, old, rfl⟩ | new
      · rcases first.tables table h old with older | newer
        · exact .inl ⟨table, h, older, rfl⟩
        · exact .inr newer
      · exact .inr (Nat.le_trans first.counts new)

theorem descends_silent (handlers : Handlers κ) (uninvoked : ∀ happening ∈ news,
      happening.invoked? = none) (unregistered : ∀ happening ∈ news, ∀ table,
      happening.registered? table = none) : handlers.Descends news handlers := by
  have none : news.filterMap (·.invoked?) = [] := List.filterMap_eq_nil_iff.mpr uninvoked
  have grows : handlers.Grows news handlers := .of_same rfl unregistered
  exact grows.descends (by simp [none])

theorem descends_marks (handlers : Handlers κ) (marks : ∀ happening ∈ news, happening.isMark) :
    handlers.Descends news handlers := by
  refine descends_silent handlers (fun happening member => ?_) fun happening member =>
    Happening.registered?_plain (Happening.isPlain_of_isMark (marks happening member))
  have mark := marks happening member
  cases happening with
  | started | framed | keyed => cases mark
  | _ => rfl

theorem descends_clear (handlers : Handlers κ) :
    handlers.Descends ([.notice .reset] : List (Happening κ σ)) handlers.clear where
  counts := Nat.le_refl _
  fresh table h member := by cases member
  tables table h member := by
    cases table with
    | start | frame | key => cases member
  invoked ticket member := by cases member

end Handlers

namespace Machine
variable {before middle after m : Machine κ σ S}

def Descends (before after : Machine κ σ S) : Prop :=
  ∃ news, after.journal = before.journal ++ news ∧
    before.context.handlers.Descends news after.context.handlers

theorem Descends.of_same (journal : after.journal = before.journal)
    (same : after.context.handlers = before.context.handlers) : before.Descends after :=
  ⟨[], by simp [journal], same ▸ Handlers.descends_marks _ (by simp)⟩

theorem Descends.trans (first : before.Descends middle) (second : middle.Descends after) :
    before.Descends after := by
  obtain ⟨news, journal, early⟩ := first
  obtain ⟨more, moreJournal, late⟩ := second
  exact ⟨news ++ more, by simp [journal, moreJournal], early.append late⟩

variable [Surface S]

/-- A pass over a lent table invokes handlers of that table alone. -/
theorem Lending.descends {ρ : Type} {table : HandlerTable} {begins : Registered κ → Happening κ σ}
    {script : κ → Script κ σ ρ} {invoked rest : List (Registered κ)}
    {outcomes : List (Except ScriptError ρ)}
    (lending : Lending table begins script invoked rest outcomes before after)
    (begin : Begins begins) : before.Descends after := by
  obtain ⟨news, journal, begun, grows⟩ := lending.grows begin
  refine ⟨news, journal, grows.descends fun ticket member => ?_⟩
  rw [begun] at member
  obtain ⟨h, among, rfl⟩ := List.mem_map.mp member
  exact ⟨table, h, lending.whole ▸ List.mem_append_left rest among, rfl⟩

theorem LendsUntilFailure.descends {table : HandlerTable} {begins : Registered κ → Happening κ σ}
    {script : κ → Script κ σ Unit} {result : Except ScriptError Unit × Machine κ σ S}
    (lends : LendsUntilFailure table begins script before result) (begin : Begins begins) :
    before.Descends result.2 := by
  obtain ⟨_, _, _, _, lending, _⟩ := lends
  exact lending.descends begin

theorem descends_perform (c : Call κ σ) (m : Machine κ σ S) : m.Descends (m.perform c).2 := by
  obtain ⟨news, journal, quiet, grows⟩ := run_grows (Script.perform c) m
  exact ⟨news, journal, grows.descends (by simp [quiet])⟩

end Machine

namespace Engine
open Machine
variable [Surface S] {p : Program κ σ} {e : Engine κ σ S}

theorem kept_descends : Kept (Descends (κ := κ) (σ := σ) (S := S)) :=
  ⟨fun _ => .of_same rfl rfl, .trans, descends_perform⟩

theorem routine_descends (p : Program κ σ) :
    Routine p (Descends (κ := κ) (σ := σ) (S := S)) where
  toKept := kept_descends
  notes m happening report := ⟨[happening], rfl, Handlers.descends_marks _
    (List.forall_mem_singleton.mpr (Happening.isMark_of_isReport report))⟩
  launches e := by
    obtain ⟨outcomes, lending⟩ := runStartHandlers_lends p e
    exact lending.descends ⟨fun _ => rfl, fun _ => rfl⟩
  frames elapsed m := (runFrameHandlers_lends p elapsed m).descends ⟨fun _ => rfl, fun _ => rfl⟩
  keys key m := (dispatchKey_lends p key m).descends ⟨fun _ => rfl, fun _ => rfl⟩
  collides m := by
    have begins (m : Machine κ σ S) (id : CollisionId) : m.Descends (m.beginCollision id) :=
      ⟨[.collided id], rfl, Handlers.descends_silent _ (List.forall_mem_singleton.mpr rfl)
        (List.forall_mem_singleton.mpr fun _ => rfl)⟩
    exact kept_descends.collideAll p (fun m id _ _ _ => begins m id)
      (fun _ _ _ => .of_same rfl rfl) m.context.collisions.ids m

theorem Touch.descends {call : HostCall κ σ S} {before after : Machine κ σ S}
    (touch : Touch call before after) : before.Descends after := by
  have remarked {after : Machine κ σ S} (leads : before.Leads (·.isRemark) after)
      (same : after.context.handlers = before.context.handlers) : before.Descends after := by
    obtain ⟨news, journal, remarks⟩ := leads.journal
    exact ⟨news, journal, same ▸ Handlers.descends_marks _ fun happening member =>
      Happening.isMark_of_isRemark (remarks happening member)⟩
  cases touch with
  | forgotten => exact ⟨[.notice .reset], rfl, Handlers.descends_clear _⟩
  | loaded =>
    obtain ⟨_, _, _, _, _, same⟩ := before.completeLoads_frame
    exact remarked (leads_completeLoads before) (by rw [same])
  | drawn now draws =>
    obtain ⟨_, prompt, same, _⟩ := draws.context
    exact remarked draws.leads (by rw [same])
  | attached | placed | timed | hidden | heard | fired | unguarded | untapped | pressed | typed
  | released | moused => exact .of_same rfl rfl

theorem descends_step (p : Program κ σ) (e : Engine κ σ S) (call : HostCall κ σ S) :
    e.machine.Descends (e.step p call).2.machine :=
  (routine_descends p).step (fun _ _ touch => touch.descends) e

theorem descends_after (p : Program κ σ) (calls : List (HostCall κ σ S)) (e : Engine κ σ S) :
    e.machine.Descends (e.after p calls).machine := by
  induction calls generalizing e with
  | nil => exact .of_same rfl rfl
  | cons call rest ih => exact (descends_step p e call).trans (ih (e.step p call).2)

/-- Every handler that was ever registered has a number that has been issued. -/
theorem Reachable.registered_issued (reached : Reachable p e) (table : HandlerTable) :
    ∀ h ∈ e.machine.journal.filterMap (·.registered? table),
      h.ticket < e.context.handlers.issued := by
  induction reached with
  | new => exact fun h member => absurd member List.not_mem_nil
  | @step e _ call ih =>
    intro h member
    obtain ⟨news, journal, descends⟩ := descends_step p e call
    rw [journal, List.filterMap_append, List.mem_append] at member
    rcases member with old | new
    · exact Nat.lt_of_lt_of_le (ih h old) descends.counts
    · exact descends.fresh table h new

end Engine
end SpriteStage
