import SpriteStage.Proofs.Engine.CollisionPass
import SpriteStage.Proofs.Engine.Lending

namespace SpriteStage.Machine
variable {κ σ S α : Type}

section Turns
variable (turn : α → Machine κ σ S → Except ScriptError Unit × Machine κ σ S)

/-- Turns are had in order until one fails. -/
def haveTurns : List α → Machine κ σ S → Except ScriptError Unit × Machine κ σ S
  | [], m => (.ok (), m)
  | a :: rest, m =>
    match turn a m with
    | (.ok (), m) => haveTurns rest m
    | (.error error, m) => (.error error, m)

inductive FailsAt : List α → Machine κ σ S → α → ScriptError → Machine κ σ S → Prop
  | here {a : α} {rest : List α} {before after : Machine κ σ S} {error : ScriptError}
      (failed : turn a before = (.error error, after)) : FailsAt (a :: rest) before a error after
  | later {a b : α} {rest : List α} {before between after : Machine κ σ S} {error : ScriptError}
      (fine : turn a before = (.ok (), between)) (fails : FailsAt rest between b error after) :
      FailsAt (a :: rest) before b error after

variable {turn} {turns : List α} {before after m : Machine κ σ S} {a : α} {error : ScriptError}

theorem FailsAt.haveTurns (fails : FailsAt turn turns m a error after) :
    haveTurns turn turns m = (.error error, after) := by
  induction fails with
  | here failed => simp only [Machine.haveTurns, failed]
  | later fine _ ih => simp only [Machine.haveTurns, fine, ih]

theorem failsAt_of_haveTurns (failed : haveTurns turn turns m = (.error error, after)) :
    ∃ a, FailsAt turn turns m a error after := by
  induction turns generalizing m with
  | nil => cases failed
  | cons a rest ih =>
    rw [haveTurns] at failed
    split at failed
    · rename_i between fine
      obtain ⟨b, fails⟩ := ih failed
      exact ⟨b, .later fine fails⟩
    · rename_i own between ran
      cases failed
      exact ⟨a, .here ran⟩

/-- Between two stages a handler began to run, and after it no other, nor was a task polled. -/
structure LastPlay (play : Happening κ σ) (before after : Machine κ σ S) : Prop where
  journal : ∃ early own, after.journal = before.journal ++ (early ++ play :: own) ∧
    ∀ happening ∈ own, happening.Quiet

section LastPlay
variable {between : Machine κ σ S} {play : Happening κ σ}

theorem LastPlay.later (last : LastPlay play between after)
    (grows : before.journal <+: between.journal) : LastPlay play before after := by
  obtain ⟨news, journal⟩ := grows
  obtain ⟨early, own, moreJournal, silent⟩ := last.journal
  refine ⟨news ++ early, own, ?_, silent⟩
  rw [moreJournal, ← journal]
  simp

theorem LastPlay.append {rest : List (Happening κ σ)} (last : LastPlay play before between)
    (journal : after.journal = between.journal ++ rest)
    (silent : ∀ happening ∈ rest, happening.Quiet) : LastPlay play before after := by
  obtain ⟨early, own, earlier, alsoSilent⟩ := last.journal
  refine ⟨early, own ++ rest, ?_, List.forall_mem_append.mpr ⟨alsoSilent, silent⟩⟩
  rw [journal, earlier]
  simp

theorem LastPlay.of_same (last : LastPlay play before between)
    (same : after.journal = between.journal) : LastPlay play before after :=
  last.append (same.trans (List.append_nil _).symm) (by simp)

theorem FailsAt.last (fails : FailsAt turn turns before a error after)
    {begins : α → Happening κ σ} (grows : ∀ a m, m.journal <+: (turn a m).2.journal)
    (tells : ∀ a m error after, turn a m = (.error error, after) → LastPlay (begins a) m after) :
    LastPlay (begins a) before after := by
  induction fails with
  | here failed => exact tells _ _ _ _ failed
  | @later a b rest before between after error fine fails ih =>
    have first := grows a before
    rw [fine] at first
    exact ih.later first

end LastPlay
end Turns

variable [Surface S] {p : Program κ σ} {m after : Machine κ σ S} {error : ScriptError}

def handlerTurn (begins : Registered κ → Happening κ σ) (script : κ → Script κ σ Unit)
    (h : Registered κ) (m : Machine κ σ S) : Except ScriptError Unit × Machine κ σ S :=
  (script h.handler).run (m.record (begins h))

theorem passUntilFailure_eq (begins : Registered κ → Happening κ σ) (script : κ → Script κ σ Unit)
    (handlers : List (Registered κ)) (m : Machine κ σ S) :
    passUntilFailure begins script handlers m =
      haveTurns (handlerTurn begins script) handlers m := by
  induction handlers generalizing m with
  | nil => rfl
  | cons h rest ih =>
    rw [passUntilFailure, haveTurns, handlerTurn]
    obtain ⟨result, between⟩ := (script h.handler).run (m.record (begins h))
    cases result with
    | ok done => exact ih between
    | error error => rfl

theorem collideAll_eq (p : Program κ σ) (ids : List CollisionId) (m : Machine κ σ S) :
    m.collideAll p ids = haveTurns (collide p) ids m := by
  induction ids generalizing m with
  | nil => rfl
  | cons id rest ih =>
    rw [collideAll, haveTurns]
    obtain ⟨result, between⟩ := m.collide p id
    cases result with
    | ok done => exact ih between
    | error error => rfl

theorem run_lastPlay {ρ : Type} (script : Script κ σ ρ) {before begun : Machine κ σ S}
    {play : Happening κ σ} (begins : begun.journal = before.journal ++ [play]) :
    LastPlay play before (script.run begun).2 := by
  obtain ⟨own, journal, asides⟩ := (kept_aside.run script begun).journal
  have began : LastPlay play before begun := ⟨[], [], begins, by simp⟩
  exact began.append journal fun happening member =>
    Happening.quiet_of_isAside (asides happening member)

theorem FailsAt.last_handler {begins : Registered κ → Happening κ σ}
    {script : κ → Script κ σ Unit} {handlers : List (Registered κ)} {h : Registered κ}
    (fails : FailsAt (handlerTurn begins script) handlers m h error after) :
    LastPlay (begins h) m after := by
  apply fails.last
  · intro h m
    have begun : m.journal <+: (m.record (begins h)).journal := List.prefix_append ..
    exact begun.trans (kept_aside.run (script h.handler) (m.record (begins h))).grows
  · intro h m error after ran
    have last : LastPlay (begins h) m (handlerTurn begins script h m).2 := run_lastPlay _ rfl
    rwa [ran] at last

theorem FailsAt.last_collision {ids : List CollisionId} {id : CollisionId}
    (fails : FailsAt (collide p) ids m id error after) : LastPlay (.collided id) m after := by
  apply fails.last
  · intro id m
    rcases collide_cases p id m with same | ⟨r, handler, _, _, _, same⟩
    · have stays : (m.collide p id).2.journal = m.journal :=
        congrArg (fun result => result.2.journal) same
      exact ⟨[], (List.append_nil _).trans stays.symm⟩
    · have begun : m.journal <+: (m.beginCollision id).journal := List.prefix_append ..
      rw [same]
      exact begun.trans (kept_aside.run (p.onCollision handler) (m.beginCollision id)).grows
  · intro id m error after ran
    rcases collide_cases p id m with same | ⟨r, handler, _, _, _, same⟩
    · -- a turn in which nothing happens does not fail
      rw [same] at ran
      cases ran
    · rw [same] at ran
      have last : LastPlay (.collided id) m
          ((p.onCollision handler).run (m.beginCollision id)).2 := run_lastPlay _ rfl
      have back : LastPlay (.collided id) m (m.collision p id handler).2 := last.of_same rfl
      rwa [ran] at back

/-- A handler of a table fails while the table is lent out, and then the table is back. -/
def TableFails (begins : Registered κ → Happening κ σ) (script : κ → Script κ σ Unit)
    (lent : List (Registered κ)) (others : Handlers κ) (restore : Handlers κ → Handlers κ)
    (before : Machine κ σ S) (h : Registered κ) (error : ScriptError) (after : Machine κ σ S) :
    Prop :=
  ∃ ended, FailsAt (handlerTurn begins script) lent (before.onHandlers fun _ => others) h error
      ended ∧ after = ended.onHandlers restore

section Table
variable {begins : Registered κ → Happening κ σ} {script : κ → Script κ σ Unit}
  {lent : List (Registered κ)} {others : Handlers κ} {restore : Handlers κ → Handlers κ}

theorem tableFails_iff :
    let ran := passUntilFailure begins script lent (m.onHandlers fun _ => others)
    (ran.1, ran.2.onHandlers restore) = (.error error, after) ↔
      ∃ h, TableFails begins script lent others restore m h error after := by
  dsimp only
  rw [passUntilFailure_eq]
  constructor
  · intro failed
    obtain ⟨result, rfl⟩ := Prod.mk.inj failed
    obtain ⟨h, fails⟩ := failsAt_of_haveTurns (Prod.ext result rfl)
    exact ⟨h, _, fails, rfl⟩
  · rintro ⟨h, ended, fails, rfl⟩
    rw [fails.haveTurns]

theorem TableFails.last {h : Registered κ}
    (fails : TableFails begins script lent others restore m h error after) :
    LastPlay (begins h) m after := by
  obtain ⟨ended, fails, rfl⟩ := fails
  have begun : m.journal <+: (m.onHandlers fun _ => others).journal := List.prefix_rfl
  exact (fails.last_handler.later begun).of_same rfl

end Table

def FrameFails (p : Program κ σ) (elapsed : Float32) (before : Machine κ σ S) :
    Registered κ → ScriptError → Machine κ σ S → Prop :=
  let (lent, others) := before.context.handlers.takeFrame
  TableFails (fun h => .framed h.ticket elapsed) (fun label => p.onFrame label elapsed) lent others
    (·.restoreFrame lent) before

def KeyFails (p : Program κ σ) (key : String) (before : Machine κ σ S) :
    Registered κ → ScriptError → Machine κ σ S → Prop :=
  let (lent, others) := before.context.handlers.takeKey key
  TableFails (fun h => .keyed h.ticket) p.onKey lent others (·.restoreKey key lent) before

/-- The handler of a registration fails; that it is given back is part of its turn. -/
def CollisionFails (p : Program κ σ) (before : Machine κ σ S) :
    CollisionId → ScriptError → Machine κ σ S → Prop :=
  FailsAt (collide p) before.context.collisions.ids before

theorem runFrameHandlers_fails {elapsed : Float32} :
    m.runFrameHandlers p elapsed = (.error error, after) ↔
      ∃ h, FrameFails p elapsed m h error after := tableFails_iff

theorem dispatchKey_fails {key : String} :
    m.dispatchKey p key = (.error error, after) ↔ ∃ h, KeyFails p key m h error after := by
  -- without handlers the table is not lent out at all
  by_cases empty : m.context.handlers.ofKey key = []
  · rw [dispatchKey_empty p key empty]
    constructor
    · nofun
    · rintro ⟨h, ended, fails, _⟩
      rw [empty] at fails
      cases fails
  · rw [dispatchKey_some p empty]
    exact tableFails_iff

theorem runCollisions_fails :
    m.runCollisions p = (.error error, after) ↔ ∃ id, CollisionFails p m id error after := by
  rw [runCollisions, collideAll_eq]
  constructor
  · exact failsAt_of_haveTurns
  · rintro ⟨id, fails⟩
    exact fails.haveTurns

end SpriteStage.Machine

namespace SpriteStage

def HostReply.scriptError? : HostReply → Option ScriptError
  | .framed (.error (.script error)) => some error
  | .handled (.error (.script error)) => some error
  | _ => Option.none

namespace Engine
variable {κ σ S : Type} [Surface S] {p : Program κ σ} {e : Engine κ σ S}

/-- A handler fails in a call of the host: the happening tells how it began to run, and the engine
is what the handlers have left. -/
inductive Fails (p : Program κ σ) (e : Engine κ σ S) :
    HostCall κ σ S → Happening κ σ → ScriptError → Engine κ σ S → Prop
  | framed {now : Nat} {h : Registered κ} {error : ScriptError} {left : Machine κ σ S}
      (plays : e.Plays p now)
      (fails : Machine.FrameFails p (e.elapsedAt now) (e.polledAt p now).machine h error left) :
      Fails p e (.frame now) (.framed h.ticket (e.elapsedAt now)) error
        { e.polledAt p now with machine := left }
  | collided {now : Nat} {id : CollisionId} {error : ScriptError} {framed left : Machine κ σ S}
      (plays : e.Plays p now)
      (ran : (e.polledAt p now).machine.runFrameHandlers p (e.elapsedAt now) = (.ok (), framed))
      (fails : Machine.CollisionFails p framed.untapped id error left) :
      Fails p e (.frame now) (.collided id) error { e.polledAt p now with machine := left }
  | keyed {key : String} {h : Registered κ} {error : ScriptError} {left : Machine κ σ S}
      (admitted : e.admits key)
      (fails : Machine.KeyFails p (Key.canonical key) (e.pressKey (Key.canonical key)).machine h
        error left) :
      Fails p e (.input (.keyDown key false)) (.keyed h.ticket) error { e with machine := left }

variable {call : HostCall κ σ S} {play : Happening κ σ} {error : ScriptError}
  {left : Engine κ σ S}

theorem Fails.halts (fails : e.Fails p call play error left) :
    (e.step p call).1.scriptError? = some error ∧ (e.step p call).2 = left.halt error := by
  cases fails with
  | @framed now h error m plays fails =>
    have failed := Machine.runFrameHandlers_fails.mpr ⟨h, fails⟩
    have ended : e.frame p now =
        (.error (.script error), { e.polledAt p now with machine := m }.halt error) := by
      rw [frame_playing p now plays.running plays.down plays.hidden, playFrame, failed]
    rw [Engine.step, ended]
    exact ⟨rfl, rfl⟩
  | @collided now id error framed m plays ran fails =>
    have failed := Machine.runCollisions_fails.mpr ⟨id, fails⟩
    have ended : e.frame p now =
        (.error (.script error), { e.polledAt p now with machine := m }.halt error) := by
      have seen : e.collidesAt p now = some framed.untapped := by rw [plays.collidesAt_eq, ran]
      rw [frame_collides seen, failed]
    rw [Engine.step, ended]
    exact ⟨rfl, rfl⟩
  | @keyed key h error m admitted fails =>
    have failed := Machine.dispatchKey_fails.mpr ⟨h, fails⟩
    have brings : e.keyOf (.keyDown key false) = some key := if_pos admitted
    have ended : e.handleInput p (.keyDown key false) =
        (.error (.script error), { e with machine := m }.halt error) := by
      rw [handleInput_some brings, dispatch, failed]
    rw [Engine.step, ended]
    exact ⟨rfl, rfl⟩

end Engine
end SpriteStage
