import SpriteStage.Proofs.Engine.Steady

/-! Passes over a table that is lent out. Its handlers have their turns in the order of
registration; whatever they register has to wait, and stands behind them when the table is back. -/

namespace SpriteStage.Machine
variable {κ σ S ρ : Type} [Surface S]

/-- A handler has its turn: it begins to run, comes to an outcome, and remarks may be made on it. -/
structure Turn (begins : Happening κ σ) (script : Script κ σ ρ) (outcome : Except ScriptError ρ)
    (before after : Machine κ σ S) : Prop where
  outcome : (script.run (before.record begins)).1 = outcome
  remarks : ∃ remarks, after = (script.run (before.record begins)).2.recordAll remarks ∧
    ∀ remark ∈ remarks, remark.isPlain ∧ remark.invoked? = none

/-- Handlers have their turns, each on the stage that the one before it left. -/
inductive Turns (begins : Registered κ → Happening κ σ) (script : κ → Script κ σ ρ) :
    List (Registered κ) → List (Except ScriptError ρ) → Machine κ σ S → Machine κ σ S → Prop
  | nil (m : Machine κ σ S) : Turns begins script [] [] m m
  | cons {h : Registered κ} {handlers : List (Registered κ)} {outcome : Except ScriptError ρ}
      {outcomes : List (Except ScriptError ρ)} {before between after : Machine κ σ S}
      (first : Turn (begins h) (script h.handler) outcome before between)
      (rest : Turns begins script handlers outcomes between after) :
      Turns begins script (h :: handlers) (outcome :: outcomes) before after

theorem Turn.of_run {begins : Happening κ σ} {script : Script κ σ ρ}
    {outcome : Except ScriptError ρ} {before after : Machine κ σ S}
    (ran : script.run (before.record begins) = (outcome, after)) :
    Turn begins script outcome before after :=
  ⟨by rw [ran], [], by simp [ran, recordAll], by simp⟩

theorem Turn.remarked {begins : Happening κ σ} {script : Script κ σ ρ}
    {outcome : Except ScriptError ρ} {before after : Machine κ σ S}
    (ran : script.run (before.record begins) = (outcome, after)) {remark : Happening κ σ}
    (plain : remark.isPlain) (silent : remark.invoked? = none) :
    Turn begins script outcome before (after.record remark) :=
  ⟨by rw [ran], [remark], by rw [ran]; rfl, List.forall_mem_singleton.mpr ⟨plain, silent⟩⟩

structure Begins (begins : Registered κ → Happening κ σ) : Prop where
  plain : ∀ h, (begins h).isPlain
  ticket : ∀ h, (begins h).invoked? = some h.ticket

/-- How a pass ends that goes on while nothing fails: with the last handler, or with the first that
fails. -/
inductive Ends : Except ScriptError Unit → List (Registered κ) →
    List (Except ScriptError Unit) → Prop
  | last {outcomes : List (Except ScriptError Unit)}
    (fine : ∀ outcome ∈ outcomes, outcome = .ok ()) : Ends (.ok ()) [] outcomes
  | failure {outcomes : List (Except ScriptError Unit)} (error : ScriptError)
    (rest : List (Registered κ)) (fine : ∀ outcome ∈ outcomes, outcome = .ok ()) :
    Ends (.error error) rest (outcomes ++ [.error error])

section Turns
variable {begins : Registered κ → Happening κ σ} {before after : Machine κ σ S}

theorem run_grows (script : Script κ σ ρ) (m : Machine κ σ S) : ∃ news,
    (script.run m).2.journal = m.journal ++ news ∧ news.filterMap (·.invoked?) = [] ∧
      m.context.handlers.Grows news (script.run m).2.context.handlers := by
  obtain ⟨news, journal, quiet, history⟩ :=
    Aspect.handlers_arranged.told script m Happening.invoked?_of_isAside
  exact ⟨news, journal, quiet, .of_history history⟩

theorem Turn.grows {script : Script κ σ ρ} {outcome : Except ScriptError ρ} {h : Registered κ}
    (turn : Turn (begins h) script outcome before after) (begin : Begins begins) : ∃ news,
      after.journal = before.journal ++ news ∧ news.filterMap (·.invoked?) = [h.ticket] ∧
        before.context.handlers.Grows news after.context.handlers := by
  obtain ⟨news, journal, quiet, grows⟩ := run_grows script (before.record (begins h))
  obtain ⟨remarks, same, silent⟩ := turn.remarks
  have begun : before.context.handlers.Grows [begins h] before.context.handlers :=
    .of_same rfl (by simpa using Happening.registered?_plain (begin.plain h))
  have remarked : (script.run (before.record (begins h))).2.context.handlers.Grows remarks
      after.context.handlers :=
    .of_same (same ▸ rfl) fun remark member =>
      Happening.registered?_plain (silent remark member).1
  refine ⟨[begins h] ++ news ++ remarks, ?_, ?_, (begun.append grows).append remarked⟩
  · rw [same]
    simp only [recordAll, journal]
    simp [record]
  · have unheard : remarks.filterMap (·.invoked?) = [] :=
      List.filterMap_eq_nil_iff.mpr fun remark member => (silent remark member).2
    simp [quiet, unheard, begin.ticket]

theorem Turns.grows {script : κ → Script κ σ ρ} {handlers : List (Registered κ)}
    {outcomes : List (Except ScriptError ρ)}
    (turns : Turns begins script handlers outcomes before after) (begin : Begins begins) :
    ∃ news, after.journal = before.journal ++ news ∧
      news.filterMap (·.invoked?) = handlers.map (·.ticket) ∧
        before.context.handlers.Grows news after.context.handlers := by
  induction turns with
  | nil m => exact ⟨[], by simp, rfl, .of_same rfl (by simp)⟩
  | cons first rest ih =>
    obtain ⟨news, journal, begun, grows⟩ := first.grows begin
    obtain ⟨more, moreJournal, moreBegun, moreGrows⟩ := ih
    refine ⟨news ++ more, by simp [moreJournal, journal], ?_, grows.append moreGrows⟩
    rw [List.filterMap_append, begun, moreBegun]
    rfl

end Turns

theorem passUntilFailure_turns (begins : Registered κ → Happening κ σ)
    (script : κ → Script κ σ Unit) (handlers : List (Registered κ)) (m : Machine κ σ S) :
    ∃ invoked rest outcomes, handlers = invoked ++ rest ∧
      Turns begins script invoked outcomes m (passUntilFailure begins script handlers m).2 ∧
      Ends (passUntilFailure begins script handlers m).1 rest outcomes := by
  induction handlers generalizing m with
  | nil => exact ⟨[], [], [], rfl, .nil m, .last (by simp)⟩
  | cons h others ih =>
    rw [passUntilFailure]
    split
    · rename_i m' ran
      obtain ⟨invoked, rest, outcomes, rfl, turns, ends⟩ := ih m'
      refine ⟨h :: invoked, rest, .ok () :: outcomes, rfl, .cons (.of_run ran) turns, ?_⟩
      generalize (passUntilFailure begins script (invoked ++ rest) m').1 = result at ends
      cases ends with
      | last fine => exact .last (by simpa using fine)
      | @failure oks error rest fine =>
        have all : ∀ outcome ∈ .ok () :: oks, outcome = .ok () := by simpa using fine
        exact .failure error rest all
    · rename_i error m' ran
      have none : ∀ outcome ∈ ([] : List (Except ScriptError Unit)), outcome = .ok () := by simp
      exact ⟨[h], others, [.error error], rfl, .cons (.of_run ran) (.nil m'),
        .failure error others none⟩

theorem startPass_turns (p : Program κ σ) (serial : Nat) (handlers : List (Registered κ))
    (m : Machine κ σ S) : ∃ outcomes,
      Turns (fun h => .started h.ticket) p.onStart handlers outcomes m
        (startPass p serial handlers m).2 := by
  induction handlers generalizing serial m with
  | nil => exact ⟨[], .nil m⟩
  | cons h rest ih =>
    rw [startPass]
    split
    · rename_i m' ran
      obtain ⟨outcomes, turns⟩ := ih serial m'
      exact ⟨_, .cons (.of_run ran) turns⟩
    · rename_i task m' ran
      obtain ⟨outcomes, turns⟩ := ih (serial + 1) (m'.record (.promised serial))
      exact ⟨_, .cons (.remarked ran rfl rfl) turns⟩
    · rename_i error m' ran
      obtain ⟨outcomes, turns⟩ := ih serial (m'.note (.startHandlerFailed error))
      exact ⟨_, .cons (.remarked ran rfl rfl) turns⟩

/-- A pass over a table: those of its handlers that are invoked have their turns on a stage without
the table, and then the table is back. -/
structure Lending (table : HandlerTable) (begins : Registered κ → Happening κ σ)
    (script : κ → Script κ σ ρ) (invoked rest : List (Registered κ))
    (outcomes : List (Except ScriptError ρ)) (before after : Machine κ σ S) : Prop where
  whole : table.of before.context.handlers = invoked ++ rest
  turns : ∃ lent restored ended,
    Turns begins script invoked outcomes (before.onHandlers fun _ => lent) ended ∧
      Handlers.Lends table before.context.handlers lent ∧
      after = ended.onHandlers (fun _ => restored) ∧
      Handlers.Restores table (invoked ++ rest) ended.context.handlers restored

/-- What a pass writes down, and what becomes of all tables. -/
structure Conserves (invoked : List (Registered κ)) (before after : Machine κ σ S)
    (news : List (Happening κ σ)) : Prop where
  journal : after.journal = before.journal ++ news
  invoked : news.filterMap (·.invoked?) = invoked.map (·.ticket)
  tables : ∀ table : HandlerTable, table.of after.context.handlers =
    table.of before.context.handlers ++ news.filterMap (·.registered? table)
  waits : before.context.handlers.Numbered → ∀ table : HandlerTable,
    ∀ h ∈ news.filterMap (·.registered? table), h.ticket ∉ news.filterMap (·.invoked?)
  numbered : before.context.handlers.Numbered → after.context.handlers.Numbered

section Lending
variable {table : HandlerTable} {begins : Registered κ → Happening κ σ} {script : κ → Script κ σ ρ}
  {invoked rest : List (Registered κ)} {outcomes : List (Except ScriptError ρ)}
  {before after : Machine κ σ S}

theorem Lending.grows (lending : Lending table begins script invoked rest outcomes before after)
    (begin : Begins begins) : ∃ news, after.journal = before.journal ++ news ∧
      news.filterMap (·.invoked?) = invoked.map (·.ticket) ∧
        before.context.handlers.Grows news after.context.handlers := by
  obtain ⟨lent, restored, ended, turns, lends, rfl, restores⟩ := lending.turns
  obtain ⟨news, journal, begun, grows⟩ := turns.grows begin
  exact ⟨news, journal, begun, grows.lent lends (lending.whole ▸ restores)⟩

theorem Lending.conserves (lending : Lending table begins script invoked rest outcomes before after)
    (begin : Begins begins) : ∃ news, Conserves invoked before after news := by
  obtain ⟨news, journal, begun, grown⟩ := lending.grows begin
  refine ⟨news, journal, begun, grown.tables, fun numbered place h registered => ?_, grown.numbered⟩
  rw [begun, List.mem_map]
  rintro ⟨old, member, same⟩
  -- tickets are issued in order, and the handlers of the pass got theirs before it
  have early : old.ticket < before.context.handlers.issued :=
    numbered table old (lending.whole ▸ List.mem_append_left rest member)
  have late := (grown.fresh place h registered).1
  omega

end Lending

def LendsUntilFailure (table : HandlerTable) (begins : Registered κ → Happening κ σ)
    (script : κ → Script κ σ Unit) (before : Machine κ σ S)
    (result : Except ScriptError Unit × Machine κ σ S) : Prop :=
  ∃ invoked rest outcomes news, Lending table begins script invoked rest outcomes before result.2 ∧
    Ends result.1 rest outcomes ∧ Conserves invoked before result.2 news

theorem LendsUntilFailure.of_lending {table : HandlerTable} {begins : Registered κ → Happening κ σ}
    {script : κ → Script κ σ Unit} {before after : Machine κ σ S}
    {result : Except ScriptError Unit} {invoked rest : List (Registered κ)}
    {outcomes : List (Except ScriptError Unit)} (begin : Begins begins)
    (lending : Lending table begins script invoked rest outcomes before after)
    (ends : Ends result rest outcomes) :
    LendsUntilFailure table begins script before (result, after) := by
  obtain ⟨news, conserves⟩ := lending.conserves begin
  exact ⟨invoked, rest, outcomes, news, lending, ends, conserves⟩

theorem runFrameHandlers_lends (p : Program κ σ) (elapsed : Float32) (m : Machine κ σ S) :
    LendsUntilFailure .frame (fun h => .framed h.ticket elapsed)
      (fun label => p.onFrame label elapsed) m (m.runFrameHandlers p elapsed) := by
  obtain ⟨invoked, rest, outcomes, whole, turns, ends⟩ := passUntilFailure_turns
    (fun h => .framed h.ticket elapsed) (fun label => p.onFrame label elapsed)
    m.context.handlers.frame (m.onHandlers fun _ => m.context.handlers.takeFrame.2)
  refine .of_lending ⟨fun _ => rfl, fun _ => rfl⟩ ⟨whole, _, _, _, turns, ?_, rfl, ?_⟩ ends
  · exact Handlers.lends_takeFrame _
  · rw [← whole]
    exact Handlers.restores_restoreFrame ..

theorem dispatchKey_some (p : Program κ σ) {key : String} {m : Machine κ σ S}
    (some : m.context.handlers.ofKey key ≠ []) :
    let ran := passUntilFailure (fun h => .keyed h.ticket) p.onKey (m.context.handlers.ofKey key)
      (m.onHandlers fun _ => (m.context.handlers.takeKey key).2)
    m.dispatchKey p key =
      (ran.1, ran.2.onHandlers (·.restoreKey key (m.context.handlers.ofKey key))) :=
  if_neg (by simpa [Handlers.takeKey] using some)

theorem dispatchKey_lends (p : Program κ σ) (key : String) (m : Machine κ σ S) :
    LendsUntilFailure (.key key) (fun h => .keyed h.ticket) p.onKey m (m.dispatchKey p key) := by
  by_cases empty : m.context.handlers.ofKey key = []
  · have lending : Lending (.key key) (fun h => .keyed h.ticket) p.onKey [] [] [] m m := by
      refine ⟨empty, m.context.handlers, m.context.handlers, m, .nil m, ?_, rfl, ?_⟩
      · exact Handlers.lends_empty _ empty
      · exact Handlers.restores_nothing ..
    rw [dispatchKey_empty p key empty]
    exact .of_lending ⟨fun _ => rfl, fun _ => rfl⟩ lending (.last (by simp))
  · obtain ⟨invoked, rest, outcomes, whole, turns, ends⟩ := passUntilFailure_turns
      (fun h => .keyed h.ticket) p.onKey (m.context.handlers.ofKey key)
      (m.onHandlers fun _ => (m.context.handlers.takeKey key).2)
    rw [dispatchKey_some p empty]
    refine .of_lending ⟨fun _ => rfl, fun _ => rfl⟩ ⟨whole, _, _, _, turns, ?_, rfl, ?_⟩ ends
    · exact Handlers.lends_takeKey ..
    · rw [← whole]
      exact Handlers.restores_restoreKey ..

end SpriteStage.Machine

namespace SpriteStage.Engine
variable {κ σ S : Type} [Surface S]

theorem runStartHandlers_lends (p : Program κ σ) (e : Engine κ σ S) : ∃ outcomes,
    Machine.Lending .start (fun h => .started h.ticket) p.onStart e.context.handlers.start []
      outcomes e.machine (e.runStartHandlers p).machine := by
  obtain ⟨outcomes, turns⟩ := Machine.startPass_turns p e.tasksMade e.context.handlers.start
    (e.machine.onHandlers fun _ => e.context.handlers.takeStart.2)
  refine ⟨outcomes, (List.append_nil _).symm, _, _, _, turns, ?_, rfl, ?_⟩
  · exact Handlers.lends_takeStart _
  · rw [List.append_nil]
    exact Handlers.restores_restoreStart ..

theorem routine_grows (p : Program κ σ) : Routine p fun before after : Machine κ σ S =>
    ∃ news, after.journal = before.journal ++ news ∧
      before.context.handlers.Grows news after.context.handlers where
  refl m := ⟨[], by simp, .of_same rfl (by simp)⟩
  trans := by
    rintro before middle after ⟨news, journal, grows⟩ ⟨more, moreJournal, moreGrows⟩
    exact ⟨news ++ more, by simp [journal, moreJournal], grows.append moreGrows⟩
  perform c m := by
    obtain ⟨news, journal, history⟩ := Aspect.handlers_arranged.kept.perform c m
    exact ⟨news, journal, .of_history history⟩
  notes m happening report := by
    have plain := Happening.isPlain_of_isMark (Happening.isMark_of_isReport report)
    exact ⟨[happening], rfl, .of_same rfl
      (List.forall_mem_singleton.mpr (Happening.registered?_plain plain))⟩
  launches e := by
    obtain ⟨outcomes, lending⟩ := runStartHandlers_lends p e
    obtain ⟨news, journal, _, grows⟩ := lending.grows ⟨fun _ => rfl, fun _ => rfl⟩
    exact ⟨news, journal, grows⟩
  frames elapsed m := by
    obtain ⟨_, _, _, _, lending, _, _⟩ := Machine.runFrameHandlers_lends p elapsed m
    obtain ⟨news, journal, _, grows⟩ := lending.grows ⟨fun _ => rfl, fun _ => rfl⟩
    exact ⟨news, journal, grows⟩
  keys key m := by
    obtain ⟨_, _, _, _, lending, _, _⟩ := Machine.dispatchKey_lends p key m
    obtain ⟨news, journal, _, grows⟩ := lending.grows ⟨fun _ => rfl, fun _ => rfl⟩
    exact ⟨news, journal, grows⟩
  collides m := by
    have begins (m : Machine κ σ S) (id : CollisionId) :
        Aspect.handlers.Follows m (m.beginCollision id) := by
      refine ⟨[.collided id], rfl, .silent fun happening member => ?_⟩
      rw [List.mem_singleton.mp member]
      exact .of_same rfl (List.forall_mem_singleton.mpr fun _ => rfl)
    obtain ⟨news, journal, history⟩ := Aspect.handlers_arranged.kept.collideAll p
      (fun m id _ _ _ => begins m id) (fun _ _ _ => .of_same rfl rfl) m.context.collisions.ids m
    exact ⟨news, journal, .of_history history⟩

/-- Between the calls of a host all tables are whole, and in each call but a reset each gets on top
what is registered in it. -/
theorem step_tables (p : Program κ σ) (e : Engine κ σ S) {call : HostCall κ σ S}
    (kept : call ≠ .reset) (table : HandlerTable) :
    table.of (e.step p call).2.context.handlers =
      table.of e.context.handlers ++ (e.news p call).filterMap (·.registered? table) := by
  have idle {before after : Machine κ σ S} (idles : before.Idles after) : ∃ news,
      after.journal = before.journal ++ news ∧
        before.context.handlers.Grows news after.context.handlers := by
    obtain ⟨news, journal, history⟩ := Aspect.handlers_arranged.idles idles
    exact ⟨news, journal, .of_history history⟩
  obtain ⟨news, journal, grows⟩ := (routine_grows p).step_kept idle
    (fun m => ⟨[], (List.append_nil _).symm, .of_same rfl (by simp)⟩) e kept
  rw [news_eq journal]
  exact grows.tables table

/-- Whatever handlers register and wherever they fail, a pass over a lent table invokes the handlers
that were in it, in order, up to the first failure where it stops at one, and conserves all tables.
-/
theorem lending_conserves_tables (p : Program κ σ) (e : Engine κ σ S) :
    (∃ outcomes news,
      Machine.Lending .start (fun h => .started h.ticket) p.onStart e.context.handlers.start []
        outcomes e.machine (e.runStartHandlers p).machine ∧
      Machine.Conserves e.context.handlers.start e.machine (e.runStartHandlers p).machine news) ∧
    (∀ elapsed, Machine.LendsUntilFailure .frame (fun h => .framed h.ticket elapsed)
      (fun label => p.onFrame label elapsed) e.machine (e.machine.runFrameHandlers p elapsed)) ∧
    ∀ key, Machine.LendsUntilFailure (.key key) (fun h => .keyed h.ticket) p.onKey e.machine
      (e.machine.dispatchKey p key) := by
  refine ⟨?_, fun elapsed => Machine.runFrameHandlers_lends p elapsed e.machine,
    fun key => Machine.dispatchKey_lends p key e.machine⟩
  obtain ⟨outcomes, lending⟩ := runStartHandlers_lends p e
  obtain ⟨news, conserves⟩ := lending.conserves ⟨fun _ => rfl, fun _ => rfl⟩
  exact ⟨outcomes, news, lending, conserves⟩

end SpriteStage.Engine
