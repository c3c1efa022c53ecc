import Mathlib.Data.List.DropRight
import SpriteStage.Proofs.Engine.KeyRouting

namespace SpriteStage
variable {κ σ S : Type}

def Happening.ticket? : Happening κ σ → Option Nat
  | .called (.onStart _) ticket | .called (.onFrame _) ticket | .called (.onKey ..) ticket =>
    some ticket
  | _ => none

def Happening.isReset : Happening κ σ → Bool
  | .notice .reset => true
  | _ => false

theorem Happening.ticket?_plain {happening : Happening κ σ} (plain : happening.isPlain) :
    happening.ticket? = none := by
  cases happening with
  | called => cases plain
  | _ => rfl

def Journal.current (journal : List (Happening κ σ)) : List (Happening κ σ) :=
  journal.rtakeWhile (!·.isReset)

theorem Journal.current_append {journal news : List (Happening κ σ)}
    (lasting : ∀ happening ∈ news, happening.isReset = false) :
    Journal.current (journal ++ news) = Journal.current journal ++ news := by
  have passing : ∀ happening ∈ news.reverse, (!happening.isReset) = true := by simpa using lasting
  rw [Journal.current, List.rtakeWhile, List.reverse_append,
    List.takeWhile_append_of_pos passing, List.reverse_append, List.reverse_reverse]
  rfl

theorem Journal.current_reset (journal : List (Happening κ σ)) :
    Journal.current (journal ++ [.notice .reset]) = [] :=
  List.rtakeWhile_concat_neg _ _ _ (by simp [Happening.isReset])

theorem Journal.tickets_notices (notices : List Notice) :
    (notices.map (Happening.notice (κ := κ) (σ := σ))).filterMap (·.ticket?) = [] := by
  refine List.filterMap_eq_nil_iff.mpr fun happening member => ?_
  obtain ⟨notice, _, rfl⟩ := List.mem_map.mp member
  rfl

/-- The tickets that were given out. Nothing that is told of here is a reset. -/
def Aspect.tickets : Aspect κ σ Nat where
  read c := c.handlers.issued
  step before happening after := happening.isReset = false ∧
    (happening.ticket? = none ∧ after = before ∨
      happening.ticket? = some before ∧ after = before + 1)

theorem Aspect.tickets_arranged [Surface S] :
    (Aspect.tickets (κ := κ) (σ := σ)).Arranged S where
  reads same := congrArg (fun arrangement => arrangement.handlers.issued) same
  plain state happening plain := by
    refine ⟨?_, .inl ⟨Happening.ticket?_plain plain, rfl⟩⟩
    cases happening with
    | notice notice =>
      cases notice with
      | reset => cases plain
      | _ => rfl
    | _ => rfl
  idle c m idle := by
    refine ⟨rfl, .inl ⟨?_, rfl⟩⟩
    cases c with
    | onStart | onFrame | onKey => cases idle
    | _ => rfl
  arranges c m arranges := by
    refine ⟨rfl, ?_⟩
    cases c with
    | onStart | onFrame | onKey => exact .inr ⟨rfl, rfl⟩
    | removeFigure figure =>
      have same : (m.effect (.removeFigure figure)).2.context.handlers = m.context.handlers := by
        simp only [Machine.effect, Machine.withContext, Context.removeFigure]
        split <;> rfl
      exact .inl ⟨rfl, congrArg Handlers.issued same⟩
    | createFigure | requestStop | onCollision => exact .inl ⟨rfl, rfl⟩
    | _ => cases arranges

section History
variable {before after : Nat} {news : List (Happening κ σ)}

theorem Aspect.tickets_lasting (history : Aspect.tickets.History before news after) :
    ∀ happening ∈ news, happening.isReset = false := by
  induction history with
  | nil => exact fun _ => nofun
  | cons step _ ih => exact List.forall_mem_cons.mpr ⟨step.1, ih⟩

theorem Aspect.tickets_issued (history : Aspect.tickets.History before news after) : ∃ made,
    news.filterMap (·.ticket?) = List.range' before made ∧ after = before + made := by
  have issues {before after : Nat} {happening : Happening κ σ}
      (step : Aspect.tickets.step before happening after) :
      happening.ticket? = none ∧ id after = id before ∨
        happening.ticket? = some (id before) ∧ id after = id before + 1 := step.2
  exact history.issued issues

end History

namespace Engine
open Journal
variable [Surface S] {p : Program κ σ} {e : Engine κ σ S}

theorem routine_tickets (p : Program κ σ) :
    Routine p (Aspect.tickets.Follows (κ := κ) (σ := σ) (S := S)) := by
  refine .of_kept Aspect.tickets_arranged.kept (fun m happening entry => ?_)
    (fun m f same => .of_same rfl (same _)) (fun m id => ?_) fun m id handler => .of_same rfl rfl
  · have plain := Happening.isPlain_of_isEntry entry
    exact Aspect.tickets_arranged.idles (Machine.idles_record plain)
  · exact ⟨[.collided id], rfl, .cons ⟨rfl, .inl ⟨rfl, rfl⟩⟩ (.nil _)⟩

/-- What the journal tells of registrations at the end of a run. -/
structure Enlisted (e : Engine κ σ S) : Prop where
  tickets : e.machine.journal.filterMap (·.ticket?) = List.range' 0 e.context.handlers.issued
  tables : ∀ table : HandlerTable, table.of e.context.handlers =
    (current e.machine.journal).filterMap (·.registered? table)

theorem Enlisted.kept (enlisted : e.Enlisted) {call : HostCall κ σ S} (kept : call ≠ .reset) :
    (e.step p call).2.Enlisted := by
  obtain ⟨news, journal, history⟩ := (routine_tickets p).step_kept Aspect.tickets_arranged.idles
    (fun _ => .of_same rfl rfl) e kept
  constructor
  · obtain ⟨made, issued, total⟩ := Aspect.tickets_issued history
    have counted : (e.step p call).2.context.handlers.issued = e.context.handlers.issued + made :=
      total
    have joined := List.range'_append_1 (s := 0) (m := e.context.handlers.issued) (n := made)
    rw [Nat.zero_add] at joined
    rw [journal, List.filterMap_append, enlisted.tickets, issued, counted]
    exact joined
  · intro table
    rw [step_tables p e kept table, enlisted.tables table, news_eq journal, journal,
      current_append (Aspect.tickets_lasting history), List.filterMap_append]

omit [Surface S] in
theorem Enlisted.reset (enlisted : e.Enlisted) : e.reset.Enlisted := by
  obtain ⟨notices, journal⟩ := stop_notices e
  have whole : e.reset.machine.journal =
      e.machine.journal ++ notices.map .notice ++ [.notice .reset] := by
    rw [← journal]
    rfl
  have handlers : e.reset.context.handlers = e.context.handlers.clear :=
    congrArg (fun arrangement => arrangement.handlers.clear) (idles_stop e).arrangement
  constructor
  · rw [whole, handlers, List.filterMap_append, List.filterMap_append, tickets_notices,
      List.append_nil, enlisted.tickets]
    exact List.append_nil _
  · intro table
    rw [whole, current_reset, handlers]
    cases table <;> rfl

theorem Reachable.enlisted (reached : Reachable p e) : e.Enlisted := by
  induction reached with
  | new => exact ⟨rfl, fun table => by cases table <;> rfl⟩
  | step _ call ih =>
    by_cases forgets : call = .reset
    · exact forgets ▸ ih.reset
    · exact ih.kept forgets

end Engine
end SpriteStage
