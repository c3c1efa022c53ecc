import SpriteStage.Proofs.Lists
import SpriteStage.Proofs.Script.Idle

namespace SpriteStage

inductive HandlerTable where
  | start
  | frame
  | key (name : String)
  deriving DecidableEq

def HandlerTable.of {κ : Type} (handlers : Handlers κ) : HandlerTable → List (Registered κ)
  | .start => handlers.start
  | .frame => handlers.frame
  | .key name => handlers.ofKey name

namespace Handlers
variable {κ : Type}

theorem lookup_setKey (key other : String) (table : List (Registered κ))
    (entries : List (String × List (Registered κ))) :
    (setKey key table entries).lookup other =
      if other = key then some table else entries.lookup other := by
  induction entries with
  | nil => exact lookup_entry key other table []
  | cons entry rest ih =>
    obtain ⟨name, old⟩ := entry
    by_cases found : name = key
    · rw [setKey, if_pos found, lookup_entry, lookup_entry, found]
      split <;> rfl
    · rw [setKey, if_neg found, lookup_entry, lookup_entry, ih]
      by_cases same : other = name
      · simp [same, found]
      · simp [same]

section Register
variable (handlers : Handlers κ) (handler : κ)

theorem addStart_of (table : HandlerTable) : table.of (handlers.addStart handler).2 =
    table.of handlers ++ if table = .start then [⟨handlers.issued, handler⟩] else [] := by
  cases table <;> simp [addStart, HandlerTable.of, ofKey]

theorem addFrame_of (table : HandlerTable) : table.of (handlers.addFrame handler).2 =
    table.of handlers ++ if table = .frame then [⟨handlers.issued, handler⟩] else [] := by
  cases table <;> simp [addFrame, HandlerTable.of, ofKey]

theorem addKey_of (key : String) (table : HandlerTable) :
    table.of (handlers.addKey key handler).2 = table.of handlers ++
      if table = .key (Key.canonical key) then [⟨handlers.issued, handler⟩] else [] := by
  cases table with
  | start => simp [addKey, HandlerTable.of]
  | frame => simp [addKey, HandlerTable.of]
  | key name =>
    by_cases same : name = Key.canonical key <;>
      simp [addKey, HandlerTable.of, ofKey, lookup_setKey, same]

end Register

/-- A table is lent out: it is empty, and the others are as they were. -/
structure Lends (table : HandlerTable) (before after : Handlers κ) : Prop where
  tables : ∀ other : HandlerTable,
    other.of after = if other = table then [] else other.of before
  issued : after.issued = before.issued

/-- A table is put back in front of what it holds now, and the others are as they are. -/
structure Restores (table : HandlerTable) (lent : List (Registered κ)) (before after : Handlers κ) :
    Prop where
  tables : ∀ other : HandlerTable,
    other.of after = if other = table then lent ++ other.of before else other.of before
  issued : after.issued = before.issued

variable (handlers : Handlers κ) (lent : List (Registered κ))

theorem lends_takeStart : Lends .start handlers handlers.takeStart.2 := by
  refine ⟨fun other => ?_, rfl⟩
  cases other <;> simp [takeStart, HandlerTable.of, ofKey]

theorem lends_takeFrame : Lends .frame handlers handlers.takeFrame.2 := by
  refine ⟨fun other => ?_, rfl⟩
  cases other <;> simp [takeFrame, HandlerTable.of, ofKey]

theorem lends_takeKey (key : String) : Lends (.key key) handlers (handlers.takeKey key).2 := by
  refine ⟨fun other => ?_, rfl⟩
  cases other with
  | start => simp [takeKey, HandlerTable.of]
  | frame => simp [takeKey, HandlerTable.of]
  | key name =>
    simp only [takeKey, HandlerTable.of, ofKey, lookup_without]
    by_cases same : name = key <;> simp [same]

theorem lends_empty {table : HandlerTable} (empty : table.of handlers = []) :
    Lends table handlers handlers := by
  refine ⟨fun other => ?_, rfl⟩
  by_cases same : other = table
  · rw [if_pos same, same, empty]
  · rw [if_neg same]

theorem restores_restoreStart : Restores .start lent handlers (handlers.restoreStart lent) := by
  refine ⟨fun other => ?_, rfl⟩
  cases other <;> simp [restoreStart, HandlerTable.of, ofKey]

theorem restores_restoreFrame : Restores .frame lent handlers (handlers.restoreFrame lent) := by
  refine ⟨fun other => ?_, rfl⟩
  cases other <;> simp [restoreFrame, HandlerTable.of, ofKey]

theorem restores_nothing (table : HandlerTable) : Restores table [] handlers handlers :=
  ⟨by simp, rfl⟩

theorem restores_restoreKey (key : String) :
    Restores (.key key) lent handlers (handlers.restoreKey key lent) := by
  unfold restoreKey
  dsimp only
  split
  · rename_i empty
    obtain ⟨rfl, -⟩ : lent = [] ∧ handlers.ofKey key = [] := by simpa using empty
    exact restores_nothing handlers (.key key)
  · refine ⟨fun other => ?_, rfl⟩
    cases other with
    | start => simp [HandlerTable.of]
    | frame => simp [HandlerTable.of]
    | key name =>
      by_cases same : name = key <;> simp [HandlerTable.of, ofKey, lookup_setKey, same]

end Handlers

section Journal
variable {κ σ S : Type}

def Happening.registered? (table : HandlerTable) : Happening κ σ → Option (Registered κ)
  | .called (.onStart handler) ticket => if table = .start then some ⟨ticket, handler⟩ else none
  | .called (.onFrame handler) ticket => if table = .frame then some ⟨ticket, handler⟩ else none
  | .called (.onKey key handler) ticket =>
    if table = .key (Key.canonical key) then some ⟨ticket, handler⟩ else none
  | _ => none

def Happening.invoked? : Happening κ σ → Option Nat
  | .started ticket | .framed ticket _ | .keyed ticket => some ticket
  | _ => none

theorem Happening.invoked?_of_isAside {happening : Happening κ σ} (aside : happening.isAside) :
    happening.invoked? = none := by
  cases happening with
  | started | framed | keyed => cases aside
  | _ => rfl

theorem Happening.registered?_plain {happening : Happening κ σ} (plain : happening.isPlain)
    (table : HandlerTable) : happening.registered? table = none := by
  cases happening with
  | called => cases plain
  | _ => rfl

/-- What happenings do to the tables: each has on top what was registered in it, under new numbers.
-/
structure Handlers.Grows (before : Handlers κ) (news : List (Happening κ σ)) (after : Handlers κ) :
    Prop where
  tables : ∀ table : HandlerTable,
    table.of after = table.of before ++ news.filterMap (·.registered? table)
  counts : before.issued ≤ after.issued
  fresh : ∀ (table : HandlerTable), ∀ h ∈ news.filterMap (·.registered? table),
    before.issued ≤ h.ticket ∧ h.ticket < after.issued

theorem Handlers.Grows.of_same {before after : Handlers κ} {news : List (Happening κ σ)}
    (same : after = before)
    (silent : ∀ happening ∈ news, ∀ table, happening.registered? table = none) :
    before.Grows news after := by
  have none (table : HandlerTable) : news.filterMap (·.registered? table) = [] :=
    List.filterMap_eq_nil_iff.mpr fun happening member => silent happening member table
  exact ⟨by simp [none, same], same ▸ Nat.le_refl _, by simp [none]⟩

theorem Handlers.Grows.of_one {before after : Handlers κ} {happening : Happening κ σ}
    {place : HandlerTable} {handler : κ}
    (registers : ∀ table, happening.registered? table =
      if table = place then some ⟨before.issued, handler⟩ else none)
    (tables : ∀ table : HandlerTable, table.of after = table.of before ++
      if table = place then [⟨before.issued, handler⟩] else [])
    (counts : after.issued = before.issued + 1) : before.Grows [happening] after where
  tables table := by
    rw [tables table, List.filterMap_cons, registers table]
    split <;> rfl
  counts := by omega
  fresh table h member := by
    by_cases here : table = place
    · have same : h = ⟨before.issued, handler⟩ := by
        rw [List.filterMap_cons, registers table, if_pos here] at member
        exact List.mem_singleton.mp member
      simp [same, counts]
    · rw [List.filterMap_cons, registers table, if_neg here] at member
      cases member

theorem Handlers.Grows.append {before between after : Handlers κ}
    {news more : List (Happening κ σ)} (first : before.Grows news between)
    (second : between.Grows more after) : before.Grows (news ++ more) after where
  tables table := by simp [second.tables table, first.tables table]
  counts := Nat.le_trans first.counts second.counts
  fresh table h member := by
    have counts := first.counts
    have laterCounts := second.counts
    rw [List.filterMap_append, List.mem_append] at member
    rcases member with early | late
    · have := first.fresh table h early
      omega
    · have := second.fresh table h late
      omega

def Aspect.handlers : Aspect κ σ (Handlers κ) where
  read c := c.handlers
  step before happening after := before.Grows [happening] after

theorem Aspect.handlers_arranged [Surface S] :
    (Aspect.handlers (κ := κ) (σ := σ)).Arranged S where
  reads same := congrArg Arrangement.handlers same
  plain state happening plain :=
    .of_same rfl (by simpa using Happening.registered?_plain plain)
  idle c m idle := by
    refine .of_same rfl (List.forall_mem_singleton.mpr fun table => ?_)
    cases c with
    | onStart | onFrame | onKey => cases idle
    | _ => rfl
  arranges c m arranges := by
    cases c with
    | onStart handler => exact .of_one (fun _ => rfl) (m.context.handlers.addStart_of handler) rfl
    | onFrame handler => exact .of_one (fun _ => rfl) (m.context.handlers.addFrame_of handler) rfl
    | onKey key handler =>
      exact .of_one (fun _ => rfl) (m.context.handlers.addKey_of handler key) rfl
    | removeFigure figure =>
      have same : (m.effect (.removeFigure figure)).2.context.handlers = m.context.handlers := by
        simp only [Machine.effect, Machine.withContext, Context.removeFigure]
        split <;> rfl
      exact .of_same same (List.forall_mem_singleton.mpr fun _ => rfl)
    | createFigure | requestStop | onCollision =>
      exact .of_same rfl (List.forall_mem_singleton.mpr fun _ => rfl)
    | _ => cases arranges

theorem Handlers.Grows.of_history {before after : Handlers κ} {news : List (Happening κ σ)}
    (history : Aspect.handlers.History before news after) : before.Grows news after := by
  induction history with
  | nil state => exact ⟨by simp, Nat.le_refl _, by simp⟩
  | cons step rest ih => exact Handlers.Grows.append step ih

/-- What is registered while a table is lent out stands behind it once it is back. -/
theorem Handlers.Grows.lent {table : HandlerTable} {before lent ran after : Handlers κ}
    {news : List (Happening κ σ)} (grows : lent.Grows news ran) (lends : Lends table before lent)
    (restores : Restores table (table.of before) ran after) : before.Grows news after where
  tables other := by
    rw [restores.tables, grows.tables, lends.tables]
    by_cases same : other = table
    · simp [same]
    · simp [same]
  counts := by
    rw [restores.issued, ← lends.issued]
    exact grows.counts
  fresh other h member := by
    rw [restores.issued, ← lends.issued]
    exact grows.fresh other h member

def Handlers.Numbered (handlers : Handlers κ) : Prop :=
  ∀ table : HandlerTable, ∀ h ∈ table.of handlers, h.ticket < handlers.issued

theorem Handlers.Grows.numbered {before after : Handlers κ} {news : List (Happening κ σ)}
    (grows : before.Grows news after) (numbered : before.Numbered) : after.Numbered := by
  intro table h member
  rw [grows.tables table, List.mem_append] at member
  rcases member with old | new
  · exact Nat.lt_of_lt_of_le (numbered table h old) grows.counts
  · exact (grows.fresh table h new).2

end Journal
end SpriteStage
