import SpriteStage.Proofs.Engine.Loads
import SpriteStage.Proofs.Engine.Queue
import SpriteStage.Proofs.Engine.Tickets

/-! Resets. What the program has made is gone after one, and whatever the host does next is apart
from it: old handlers and tasks never run again, old prompts stay open, and loads that are still in
the queue find no figure. -/

namespace SpriteStage
variable {κ σ S : Type}

/-- Nothing that was left in the past runs any more. -/
structure Journal.Forgets (past news : List (Happening κ σ)) : Prop where
  handlers : ∀ table : HandlerTable, ∀ h ∈ past.filterMap (·.registered? table),
    h.ticket ∉ news.filterMap (·.invoked?)
  collisions : ∀ first second handler (id : CollisionId),
    .called (.onCollision first second handler) id ∈ past → .collided id ∉ news
  tasks : ∀ task, .promised task ∈ past → .polled task ∉ news

def Machine.loading (m : Machine κ σ S) (surface : S) : Loading S :=
  ⟨m.context.figures, m.board, surface, [], []⟩

namespace Engine
open Machine Journal

/-- What the program has made is gone, and what belongs to the host is kept. -/
structure Wiped (before after : Engine κ σ S) : Prop where
  halted : after.running = false
  barrier : after.barrier = none
  clocks : after.lastTick = none ∧ after.startedAt = none
  figures : after.context.figures.figures = []
  registrations : after.context.collisions.entries = []
  handlers : after.context.handlers.start = [] ∧ after.context.handlers.frame = [] ∧
    after.context.handlers.keys = []
  keys : after.context.input.keys = .empty
  mouse : after.context.input.mouse = .start
  prompt : after.context.prompt.active = false ∧ after.context.prompt.answer = none
  promptQueue : after.context.prompt.queue = []
  promptGuard : after.context.prompt.justEnded = false
  stopRequest : after.context.stopRequested = false
  surface : after.machine.surface = before.machine.surface
  listener : after.context.input.listener = before.context.input.listener
  placement : after.context.input.placement = before.context.input.placement
  figureIds : after.context.figures.nextId = before.context.figures.nextId
  collisionIds : after.context.collisions.latest = before.context.collisions.latest

theorem reset_machine (e : Engine κ σ S) : e.reset.machine =
    { e.machine with context := e.context.clearWorld, journal := e.reset.machine.journal } := by
  unfold reset stop
  cases e.running <;> rfl

theorem reset_context (e : Engine κ σ S) : e.reset.context = e.context.clearWorld := by
  rw [context, reset_machine]

theorem reset_wiped (e : Engine κ σ S) : e.Wiped e.reset where
  halted := rfl
  barrier := rfl
  clocks := ⟨rfl, rfl⟩
  figures := rfl
  registrations := rfl
  handlers := ⟨rfl, rfl, rfl⟩
  keys := rfl
  mouse := rfl
  prompt := ⟨rfl, rfl⟩
  promptQueue := rfl
  promptGuard := rfl
  stopRequest := rfl
  surface := by rw [reset_machine]
  listener := by rw [reset_context]; rfl
  placement := by rw [reset_context]; rfl
  figureIds := by rw [reset_context]; rfl
  collisionIds := by rw [reset_context]; rfl

variable [Surface S] {p : Program κ σ} {e : Engine κ σ S}

/-- Whatever the host does after a reset, the journal tells nothing of what was there before it. -/
structure Apart (p : Program κ σ) (e : Engine κ σ S) (calls : List (HostCall κ σ S))
    (news : List (Happening κ σ)) : Prop where
  journal : (e.reset.after p calls).machine.journal = e.reset.machine.journal ++ news
  forgets : Forgets e.machine.journal news
  /-- The engine settles no answer that was asked for before, so an answer changes only if a script
  settles it. -/
  unanswered : ∀ question (answer : DeferredId),
    .called (.ask question) answer ∈ e.machine.journal →
    (∀ happening ∈ news, happening.settles answer = false) →
    (e.reset.after p calls).machine.board.state answer = e.machine.board.state answer

/-- Loads at the front of the queue are completed in a frame, and find no figure. -/
structure FindsNothing (p : Program κ σ) (loads : List LoadRequest) (e : Engine κ σ S) (now : Nat)
    (surface : S) : Prop where
  queued : loads <+: e.context.loads
  untouched : ∃ board, Loading.complete e.machine.loadRules loads (e.machine.loading surface) =
    { e.machine.loading surface with board := board }
  unheard : ∀ heard, Loading.complete e.machine.loadRules loads
      ((e.machine.loading surface).overheard heard) =
    (Loading.complete e.machine.loadRules loads (e.machine.loading surface)).overheard heard
  completed : ∀ later, e.context.loads = loads ++ later →
    let begun := (e.machine.setNow now).completeLoads
    let stranded := Loading.complete e.machine.loadRules loads (e.machine.loading surface)
    let done := Loading.complete e.machine.loadRules later stranded
    begun.context.loads = [] ∧ begun.context.figures = done.figures ∧ begun.board = done.board ∧
      begun.surface = some done.surface
  rejected : ∀ request ∈ loads, ∀ done, request.kind = .swap done →
    e.machine.board.state done = .pending → ∀ more,
      (e.after p (.frame now :: more)).machine.board.state done =
        .rejected (.asset (.missingFigure request.figure))

/-- A reset isolates the past. -/
structure ResetIsolates (p : Program κ σ) (e : Engine κ σ S) : Prop where
  wiped : e.Wiped e.reset
  apart : ∀ calls, ∃ news, Apart p e calls news
  waits : ∀ calls, e.reset.Unserved p calls →
    e.context.loads <+: (e.reset.after p calls).context.loads
  findsNothing : ∀ calls now surface, e.reset.Unserved p calls →
    (e.reset.after p calls).machine.surface = some surface →
    FindsNothing p e.context.loads (e.reset.after p calls) now surface

theorem Barred.polls_fresh (barred : e.Barred) (p : Program κ σ) (calls : List (HostCall κ σ S))
    {early : List (Happening κ σ)} {last : Happening κ σ} (opens : last.opens)
    (journal : e.machine.journal = early ++ [last]) : (e.after p calls).Barred ∧
      ∃ news, (e.after p calls).machine.journal = e.machine.journal ++ news ∧
        polls news ⊆ promises news := by
  induction calls using List.reverseRecOn with
  | nil => exact ⟨barred, [], (List.append_nil _).symm, List.Subset.refl _⟩
  | append_singleton calls call ih =>
    obtain ⟨between, news, grown, fresh⟩ := ih
    obtain ⟨more, moreGrown, tally⟩ := between.step_tally p call
    have since : owed (e.after p calls).machine.journal ⊆ promises news := by
      rw [grown, journal, List.append_assoc]
      exact List.Subset.trans (List.filter_subset_self _)
        ((sinceStart_suffix opens).sublist.filterMap _).subset
    have asked : (e.after p calls).asks call ⊆ promises news := by
      unfold asks
      split
      · split
        · exact since
        · exact List.nil_subset _
      · exact List.nil_subset _
    rw [after, List.foldl_append]
    refine ⟨between.step p call, news ++ more, ?_, ?_⟩
    · rw [← List.append_assoc, ← grown]
      exact moreGrown
    · rw [polls_append, promises_append, tally.polls]
      have both := List.append_subset.mpr ⟨fresh, asked⟩
      exact List.subset_append_of_subset_left _ both

section Apart
variable {calls : List (HostCall κ σ S)} {news : List (Happening κ σ)}

/-- The journal grows in one way only, so what is known of some news is known of all. -/
theorem told {early late : List (Happening κ σ)} {P : List (Happening κ σ) → Prop}
    (tells : ∃ more, late = early ++ more ∧ P more) (journal : late = early ++ news) : P news := by
  obtain ⟨more, same, holds⟩ := tells
  exact List.append_cancel_left (same.symm.trans journal) ▸ holds

theorem Reachable.tasks_apart (reached : Reachable p e)
    (journal : (e.reset.after p calls).machine.journal = e.reset.machine.journal ++ news)
    {task : Nat} (promised : .promised task ∈ e.machine.journal) : .polled task ∉ news := by
  intro polled
  have opening : e.reset.machine.journal = e.stop.machine.journal ++ [.notice .reset] := rfl
  obtain ⟨barred, tells⟩ := reached.barred.reset.polls_fresh p calls rfl opening
  have late : task ∈ promises news :=
    told tells journal (List.mem_filterMap.mpr ⟨_, polled, rfl⟩)
  obtain ⟨stopped, stop, _⟩ := reset_tally e
  have early : task ∈ promises e.reset.machine.journal := by
    rw [stop, promises_append]
    exact List.mem_append_left _ (mem_promises.mpr promised)
  have numbered := barred.numbered
  rw [journal, promises_append, List.pairwise_append] at numbered
  exact Nat.lt_irrefl task (numbered.2.2 task early task late)

theorem Reachable.collisions_apart (reached : Reachable p e)
    (journal : (e.reset.after p calls).machine.journal = e.reset.machine.journal ++ news)
    {first second : FigureId} {handler : κ} {id : CollisionId}
    (registered : .called (.onCollision first second handler) id ∈ e.machine.journal) :
    .collided id ∉ news := by
  intro collided
  have history := told (cast_after p calls e.reset) journal
  have given : ⟨id, first, second, some handler⟩ ∈
      e.machine.journal.filterMap (·.registration?) := List.mem_filterMap.mpr ⟨_, registered, rfl⟩
  have old : id ≤ e.context.cast.latest := (reached.cast_history.registration_id given).2
  have latest : e.reset.context.cast.latest = e.context.cast.latest := e.reset_wiped.collisionIds
  obtain ⟨before, later, rfl⟩ := List.append_of_mem collided
  obtain ⟨between, told, rest⟩ := history.split
  cases rest with
  | cons step _ =>
    cases step with
    | other _ silent => cases silent
    | @collided _ _ a b pair =>
      -- the stage was empty at the reset, so the pair that collides was registered after it
      rcases told.pairs pair with none | ⟨r, made, named⟩
      · cases none
      · have new : e.reset.context.cast.latest < r.id := (told.registration_id made).1
        have same : r.id = id := congrArg Prod.fst named
        exact Nat.not_lt.mpr old (latest ▸ same ▸ new)

theorem Reachable.handlers_apart (reached : Reachable p e)
    (journal : (e.reset.after p calls).machine.journal = e.reset.machine.journal ++ news)
    (table : HandlerTable) {h : Registered κ}
    (registered : h ∈ e.machine.journal.filterMap (·.registered? table)) :
    h.ticket ∉ news.filterMap (·.invoked?) := by
  intro invoked
  have descends := told (descends_after p calls e.reset) journal
  have old := reached.registered_issued table h registered
  have issued : e.reset.context.handlers.issued = e.context.handlers.issued := by
    rw [reset_context]
    rfl
  rcases descends.invoked h.ticket invoked with ⟨emptied, other, stands, _⟩ | new
  · cases emptied with
    | start | frame | key => cases stands
  · exact Nat.not_lt.mpr new (issued ▸ old)

theorem Reachable.answers_apart (reached : Reachable p e)
    (journal : (e.reset.after p calls).machine.journal = e.reset.machine.journal ++ news)
    {question : String} {answer : DeferredId}
    (asked : .called (.ask question) answer ∈ e.machine.journal)
    (unsettled : ∀ happening ∈ news, happening.settles answer = false) :
    (e.reset.after p calls).machine.board.state answer = e.machine.board.state answer := by
  obtain ⟨made, unswapped, untimed⟩ := reached.pledges_sound.asked question answer asked
  have forgotten : e.reset.machine.pledges = { e.machine.pledges with answers := [] } := by
    rw [reset_machine]
    rfl
  have unheld : e.reset.machine.pledges.Unheld answer :=
    forgotten ▸ ⟨made, unswapped, untimed, List.not_mem_nil⟩
  have history := told (deals_after p calls e.reset) journal
  have kept := (history.unheld unheld).2 unsettled
  exact kept.trans (by rw [forgotten]; rfl)

end Apart

theorem Reachable.reset_apart (reached : Reachable p e) (calls : List (HostCall κ σ S)) :
    ∃ news, Apart p e calls news := by
  obtain ⟨news, journal, _⟩ := descends_after p calls e.reset
  exact ⟨news, journal,
    ⟨fun table _ => reached.handlers_apart journal table,
      fun _ _ _ _ => reached.collisions_apart journal, fun _ => reached.tasks_apart journal⟩,
    fun _ _ => reached.answers_apart journal⟩

/-- Loads from before a reset are for figures that stay away. -/
theorem Reachable.loads_missing (reached : Reachable p e) (calls : List (HostCall κ σ S)) :
    ∀ request ∈ e.context.loads,
      (e.reset.after p calls).context.figures.get? request.figure = none := by
  intro request queued
  have next : e.reset.context.cast.next = e.context.cast.next :=
    congrArg (max · 1) e.reset_wiped.figureIds
  have gone : e.reset.context.cast.Gone request.figure :=
    ⟨List.not_mem_nil, next ▸ reached.enrolled.loads request queued⟩
  obtain ⟨news, _, history⟩ := cast_after p calls e.reset
  have still := history.invariant (fun gone step => Cast.Step.gone step gone) gone
  by_contra there
  have present := (FigureStore.contains_iff (e.reset.after p calls).context.figures
    request.figure).mp (Option.isSome_iff_ne_none.mpr there)
  exact still.absent present

theorem loads_waiting {calls : List (HostCall κ σ S)}
    (unserved : e.reset.Unserved p calls) :
    e.context.loads <+: (e.reset.after p calls).context.loads := by
  have waits := loads_wait p calls unserved
  rwa [reset_context] at waits

section FindsNothing
variable {loads : List LoadRequest} {now : Nat} {surface : S}

theorem Reachable.load_rejected (reached : Reachable p e) (now : Nat)
    (queued : loads <+: e.context.loads)
    (missing : ∀ request ∈ loads, e.context.figures.get? request.figure = none)
    (here : e.machine.surface = some surface) {request : LoadRequest} (member : request ∈ loads)
    {done : DeferredId} (swaps : request.kind = .swap done)
    (isOpen : e.machine.board.state done = .pending) :
    (e.frame p now).2.machine.board.state done =
      .rejected (.asset (.missingFigure request.figure)) := by
  let stranded := Loading.complete e.machine.loadRules loads (e.machine.loading surface)
  have sound := reached.pledges_sound
  have distinct : (loads.filterMap (·.kind.done?)).Nodup :=
    sound.distinct.sublist (queued.sublist.filterMap _)
  have made : done < e.machine.board.slots.length :=
    sound.swaps done (List.mem_filterMap.mpr ⟨request, queued.subset member, by rw [swaps]; rfl⟩)
  have rejected : stranded.board.state done = .rejected (.asset (.missingFigure request.figure)) :=
    Loading.complete_missing_told _ missing distinct member swaps
      (Board.slot_of_pending made isOpen)
  have begun : stranded.board.Extends (e.machine.setNow now).completeLoads.board := by
    obtain ⟨rest, split⟩ := queued
    have others := Loading.complete_board e.machine.loadRules rest stranded
    have done := ((reached.loads_done (by simp [here]) now).completes surface here).2.2.1
    rw [done, ← split, Loading.complete_append]
    exact others.goesOn
  have goesOn := begun.trans (frame_goesOn p now e)
  exact (goesOn.settled done (by simp [rejected])).trans rejected

theorem Reachable.finds_nothing (reached : Reachable p e) (queued : loads <+: e.context.loads)
    (missing : ∀ request ∈ loads, e.context.figures.get? request.figure = none)
    (here : e.machine.surface = some surface) : FindsNothing p loads e now surface := by
  obtain ⟨told, silent⟩ :=
    Loading.complete_missing e.machine.loadRules loads (e.machine.loading surface) missing
  refine ⟨queued, told, fun heard => ?_, fun rest split => ?_, ?_⟩
  · have calls :=
      Loading.complete_calls e.machine.loadRules loads (e.machine.loading surface) heard
    rwa [silent, List.append_nil] at calls
  · have begun := (reached.loads_done (by simp [here]) now).completes surface here
    rwa [split, Loading.complete_append] at begun
  · intro request member done swaps isOpen more
    have rejected := reached.load_rejected now queued missing here member swaps isOpen
    obtain ⟨_, _, history⟩ := deals_after p more (e.frame p now).2
    exact (history.board.settled done (by simp [Machine.pledges, rejected])).trans rejected

end FindsNothing

/-- Resets isolate the past, in every run. -/
theorem Reachable.reset_isolates (reached : Reachable p e) : ResetIsolates p e where
  wiped := e.reset_wiped
  apart := reached.reset_apart
  waits _ unserved := loads_waiting unserved
  findsNothing calls _ _ unserved here :=
    (reachable_after p calls (reached.step .reset)).finds_nothing (loads_waiting unserved)
      (reached.loads_missing calls) here

/-- A stage with handlers of all kinds, on which a program has started that waits for its first
task, an image swap and a prompt. -/
def crowdedStage : Engine Unit Unit RecordingSurface :=
  let register : Script Unit Unit Unit := do
    let _ ← Script.perform (.createFigure "a.png")
    let _ ← Script.perform (.createFigure "b.png")
    let _ ← Script.perform (.onStart ())
    let _ ← Script.perform (.onFrame ())
    let _ ← Script.perform (.onKey "a" ())
    let _ ← Script.perform (.onCollision 1 2 ())
  let wait : Script Unit Unit Unit := do
    let _ ← Script.perform (.swapImage 1 "b.png")
    let _ ← Script.perform (.ask "Name?")
  (new .standard (fun _ => false) ()).after patient
    [.attach (.ofSize 640 480), .script register, .start 0 "12:00:00", .frame 16, .script wait]

def secondGame : List (HostCall Unit Unit RecordingSurface) :=
  [.script (do let _ ← Script.perform (.onStart ())), .start 32 "12:00:01"]

/-- The second game polls its own task, and the first is over: its handlers and its task rest, its
prompt stays open, and its image swap is rejected. -/
theorem second_game_is_apart :
    let game := crowdedStage.reset.after patient secondGame
    let frame := crowdedStage.reset.after patient (secondGame ++ [.frame 48])
    Reachable patient crowdedStage ∧ game.machine.surface.isSome ∧
      (∃ news, frame.machine.journal = crowdedStage.reset.machine.journal ++ news ∧
        .started 3 ∈ news ∧ .polled 1 ∈ news ∧ 0 ∉ news.filterMap (·.invoked?) ∧
        .collided 1 ∉ news ∧ .polled 0 ∉ news) ∧
      frame.machine.board.state 2 = .pending ∧
      (game.after patient [.frame 48]).machine.board.state 1 =
        .rejected (.asset (.missingFigure 1)) := by
  intro game frame
  have reached : Reachable patient crowdedStage := reachable_after patient _ (.new ..)
  have isolates := reached.reset_isolates
  have surface : game.machine.surface.isSome := by rfl
  obtain ⟨news, journal, forgets, unanswered⟩ := isolates.apart (secondGame ++ [.frame 48])
  have told : news = frame.machine.journal.drop 18 := by
    rw [journal, List.drop_left' (by rfl)]
  have started : .started 3 ∈ news := told ▸ List.mem_of_getElem? (i := 2) (by rfl)
  have polled : .polled 1 ∈ news := told ▸ List.mem_of_getElem? (i := 5) (by rfl)
  have handler : ⟨0, ()⟩ ∈ crowdedStage.machine.journal.filterMap (·.registered? .start) :=
    List.mem_of_getElem? (i := 0) (by rfl)
  have pair : .called (.onCollision 1 2 ()) (1 : CollisionId) ∈ crowdedStage.machine.journal :=
    List.mem_of_getElem? (i := 6) (by rfl)
  have task : .promised 0 ∈ crowdedStage.machine.journal := List.mem_of_getElem? (i := 10) (by rfl)
  have asked : .called (.ask "Name?") (2 : DeferredId) ∈ crowdedStage.machine.journal :=
    List.mem_of_getElem? (i := 15) (by rfl)
  have unsettled : ∀ happening ∈ news, happening.settles 2 = false := by
    rw [told]
    decide +kernel
  refine ⟨reached, surface, ⟨news, journal, started, polled, forgets.handlers .start _ handler,
    forgets.collisions 1 2 () 1 pair, forgets.tasks 0 task⟩, ?_, ?_⟩
  · exact (unanswered "Name?" 2 asked unsettled).trans (by rfl)
  · obtain ⟨s, here⟩ := Option.isSome_iff_exists.mp surface
    have unserved : crowdedStage.reset.Unserved patient secondGame := by
      intro before now after same
      have member : .frame now ∈ secondGame := same ▸ List.mem_append_right _ List.mem_cons_self
      simp [secondGame] at member
    have swap : ⟨1, "b.png", .swap 1⟩ ∈ crowdedStage.context.loads :=
      List.mem_of_getElem? (i := 0) (by rfl)
    exact (isolates.findsNothing secondGame 48 s unserved here).rejected _ swap 1 rfl (by rfl) []

end Engine
end SpriteStage
