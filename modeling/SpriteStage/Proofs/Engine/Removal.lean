import SpriteStage.Proofs.Engine.Steady
import SpriteStage.Proofs.Figure.Cast

namespace SpriteStage
variable {κ σ S : Type}

/-- A happening takes a figure off the stage: it is removed, or the stage is reset after it was
made. -/
inductive Journal.Removal (figure : FigureId) : List (Happening κ σ) → Happening κ σ → Prop
  | removed (early : List (Happening κ σ)) :
      Removal figure early (.called (.removeFigure figure) true)
  | reset {early : List (Happening κ σ)} {asset : String}
      (made : .called (.createFigure asset) figure ∈ early) : Removal figure early (.notice .reset)

def Cast.start : Cast := ⟨[], 1, [], 0⟩

theorem Cast.sound_start : Cast.start.Sound :=
  ⟨List.nodup_nil, fun _ present => absurd present List.not_mem_nil⟩

namespace Aspect
open Cast
variable {there next : Cast} {figure : FigureId} {early : List (Happening κ σ)}
  {removal : Happening κ σ}

theorem History.gone (history : Aspect.cast.History Cast.start early there)
    (step : Cast.Step there removal next) (takes : Journal.Removal figure early removal) :
    next.Gone figure := by
  have sound : there.Sound :=
    history.invariant (fun sound step => Step.sound step sound) sound_start
  cases takes with
  | removed =>
    cases step with
    | @removed _ _ present => exact ⟨sound.distinct.not_mem_erase, sound.below figure present⟩
    | other _ silent => cases silent
  | reset made =>
    obtain ⟨count, issued, total⟩ := history.created
    have member : figure ∈ early.filterMap (·.created?) := List.mem_filterMap.mpr ⟨_, made, rfl⟩
    rw [issued, List.mem_range'_1] at member
    cases step with
    | cleared => exact ⟨List.not_mem_nil, total ▸ member.2⟩
    | other _ silent => cases silent

end Aspect

theorem CollisionRegistry.setHandler_pairs (id : CollisionId) (handler : Option κ)
    (entries : List (Registration κ)) :
    (setHandler id handler entries).map (·.pair) = entries.map (·.pair) := by
  induction entries with
  | nil => rfl
  | cons entry rest ih =>
    rw [setHandler]
    split
    · rfl
    · rw [List.map_cons, List.map_cons, ih]

namespace Engine
open Journal
variable {p : Program κ σ} {e : Engine κ σ S}

theorem setHandler_cast (m : Machine κ σ S) (id : CollisionId) (handler : Option κ) :
    (m.onCollisions fun registry =>
      { registry with
        entries := CollisionRegistry.setHandler id handler registry.entries }).context.cast =
      m.context.cast := by
  have pairs := CollisionRegistry.setHandler_pairs id handler m.context.collisions.entries
  exact congrArg (Cast.mk _ _ · _) pairs

variable [Surface S]

theorem steady_cast (p : Program κ σ) :
    Steady p (Aspect.cast.Follows (κ := κ) (σ := σ) (S := S)) := by
  refine .of_arranged Aspect.cast_arranged (fun _ _ => rfl) (fun m id r found touches => ?_)
    fun m id handler => setHandler_cast m id (some handler)
  obtain ⟨first, second⟩ := FigureStore.touching_ids touches
  obtain rfl : r.id = id := by simpa using List.find?_some found
  have pair : (r.id, r.first, r.second) ∈ m.context.cast.pairs :=
    List.mem_map.mpr ⟨r, List.mem_of_find?_eq_some found, rfl⟩
  have same : (m.beginCollision r.id).context.cast = m.context.cast := setHandler_cast m r.id none
  refine ⟨[.collided r.id], rfl, ?_⟩
  change Aspect.cast.History m.context.cast [.collided r.id] (m.beginCollision r.id).context.cast
  rw [same]
  exact .cons (.collided m.context.cast pair first second) (.nil _)

theorem cast_step (p : Program κ σ) (e : Engine κ σ S) (call : HostCall κ σ S) :
    Aspect.cast.Follows e.machine (e.step p call).2.machine :=
  (steady_cast p).step (fun _ => .of_same rfl rfl)
    (fun _ => ⟨[.notice .reset], rfl, .cons (.cleared _) (.nil _)⟩) e call

theorem cast_after (p : Program κ σ) (calls : List (HostCall κ σ S)) (e : Engine κ σ S) :
    Aspect.cast.Follows e.machine (e.after p calls).machine := by
  induction calls generalizing e with
  | nil => exact .refl e.machine
  | cons call rest ih => exact (cast_step p e call).trans (ih (e.step p call).2)

theorem Reachable.cast_history (reached : Reachable p e) :
    Aspect.cast.History Cast.start e.machine.journal e.context.cast := by
  induction reached with
  | new => exact .nil Cast.start
  | @step e _ call ih =>
    obtain ⟨news, journal, history⟩ := cast_step p e call
    exact journal ▸ ih.append history

/-- Removals last: what holds of the run that led to an engine. -/
structure RemovalsLast (e : Engine κ σ S) : Prop where
  ascending : (e.machine.journal.filterMap (·.created?)).Pairwise (· < ·)
  purged : ∀ (m : Machine κ σ S) (figure : FigureId), m.context.figures.contains figure →
    (m.perform (.removeFigure figure)).1 = true ∧
      (m.perform (.removeFigure figure)).2.context.collisions.names figure = false
  silent : ∀ early removal late figure, e.machine.journal = early ++ removal :: late →
    Removal figure early removal → ∀ first second handler id,
      .called (.onCollision first second handler) id ∈ e.machine.journal →
      first = figure ∨ second = figure → .collided id ∉ late
  apart : ∀ early removal late figure, e.machine.journal = early ++ removal :: late →
    Removal figure early removal → ∀ context : Context κ,
      context = e.context ∨ .called .view context ∈ late → ∀ other,
        context.touching figure other = false ∧ context.touching other figure = false

theorem purged_names (m : Machine κ σ S) {figure : FigureId}
    (there : m.context.figures.contains figure) :
    (m.perform (.removeFigure figure)).1 = true ∧
      (m.perform (.removeFigure figure)).2.context.collisions.names figure = false := by
  have removed : m.context.removeFigure figure = (true, { m.context with
      figures := m.context.figures.remove figure
      collisions := m.context.collisions.purge figure }) := if_pos there
  change (m.context.removeFigure figure).1 = true ∧
    (m.context.removeFigure figure).2.collisions.names figure = false
  rw [removed]
  exact ⟨rfl, by simp [CollisionRegistry.names, CollisionRegistry.purge]⟩

section Removed
variable {early between rest : List (Happening κ σ)} {removal : Happening κ σ} {figure : FigureId}

theorem Reachable.gone (reached : Reachable p e)
    (journal : e.machine.journal = early ++ removal :: (between ++ rest))
    (takes : Removal figure early removal) :
    ∃ stage : Cast, Aspect.cast.History Cast.start (early ++ removal :: between) stage ∧
      stage.Gone figure ∧ Aspect.cast.History stage rest e.context.cast := by
  have history := reached.cast_history
  rw [journal, ← List.cons_append, ← List.append_assoc] at history
  obtain ⟨stage, told, after⟩ := history.split
  obtain ⟨before, first, second⟩ := told.split
  cases second with
  | cons step ran =>
    have gone := ran.invariant (fun gone step => Cast.Step.gone step gone) (first.gone step takes)
    exact ⟨stage, told, gone, after⟩

theorem Reachable.silent (reached : Reachable p e)
    (journal : e.machine.journal = early ++ removal :: rest) (takes : Removal figure early removal)
    {first second : FigureId} {handler : κ} {id : CollisionId}
    (registered : .called (.onCollision first second handler) id ∈ e.machine.journal)
    (names : first = figure ∨ second = figure) : .collided id ∉ rest := by
  intro heard
  obtain ⟨between, rest, rfl⟩ := List.append_of_mem heard
  obtain ⟨stage, told, gone, after⟩ := reached.gone journal takes
  cases after with
  | cons step _ =>
    cases step with
    | other _ silent => cases silent
    | @collided _ _ a b pair present also =>
      -- the pair that fires is the one that was registered under the id
      rcases told.pairs pair with none | ⟨r, made, same⟩
      · cases none
      · have known : r ∈ e.machine.journal.filterMap (·.registration?) := by
          rw [journal, ← List.cons_append, ← List.append_assoc, List.filterMap_append]
          exact List.mem_append_left _ made
        have given : ⟨id, first, second, some handler⟩ ∈
            e.machine.journal.filterMap (·.registration?) :=
          List.mem_filterMap.mpr ⟨_, registered, rfl⟩
        obtain rfl := reached.cast_history.unique known given (congrArg Prod.fst same)
        obtain ⟨rfl, rfl⟩ : first = a ∧ second = b := by simpa [Registration.pair] using same
        rcases names with rfl | rfl
        · exact gone.absent present
        · exact gone.absent also

theorem Reachable.apart (reached : Reachable p e)
    (journal : e.machine.journal = early ++ removal :: rest) (takes : Removal figure early removal)
    {context : Context κ} (seen : context = e.context ∨ .called .view context ∈ rest)
    (other : FigureId) :
    context.touching figure other = false ∧ context.touching other figure = false := by
  rcases seen with rfl | looked
  · rw [← List.append_nil rest] at journal
    obtain ⟨stage, _, gone, after⟩ := reached.gone journal takes
    cases after with
    | nil => exact gone.apart other
  · obtain ⟨between, rest, rfl⟩ := List.append_of_mem looked
    obtain ⟨stage, _, gone, after⟩ := reached.gone journal takes
    cases after with
    | cons step _ =>
      cases step with
      | viewed => exact gone.apart other
      | other _ silent => cases silent

end Removed

/-- Figures that were removed stay away, in every run. -/
theorem Reachable.removals_last (reached : Reachable p e) : e.RemovalsLast where
  ascending := by
    obtain ⟨made, issued, _⟩ := reached.cast_history.created
    exact issued ▸ List.pairwise_lt_range'
  purged := purged_names
  silent _ _ _ _ journal takes _ _ _ _ registered names :=
    reached.silent journal takes registered names
  apart _ _ _ _ journal takes _ seen other := reached.apart journal takes seen other

/-- A program whose collision handlers remove the second figure, and register the same pair again.
-/
def vanishing : Program Unit Unit where
  onStart _ := return none
  onFrame _ _ := return ()
  onKey _ := return ()
  onCollision _ := do
    let _ ← Script.perform (.removeFigure 2)
    let _ ← Script.perform (.onCollision 1 2 ())
  onSettled _ _ := return ()
  onPoll _ := return .done

def vanishingStage : Engine Unit Unit RecordingSurface :=
  let register : Script Unit Unit Unit := do
    let _ ← Script.perform (.createFigure "a.png")
    let _ ← Script.perform (.createFigure "b.png")
    let _ ← Script.perform (.onCollision 1 2 ())
  (new .standard (fun _ => false) ()).after vanishing
    [.attach (.ofSize 640 480), .script register, .start 0 "12:00:00", .frame 16, .frame 32]

/-- The handler that removed its own figure rests after that, and so does the one it registered. -/
theorem vanished_figure_rests :
    Reachable vanishing vanishingStage ∧ ∃ early late,
      vanishingStage.machine.journal = early ++ .called (.removeFigure 2) true :: late ∧
      .collided 1 ∈ early ∧ .collided 1 ∉ late ∧
      .called (.onCollision 1 2 ()) (2 : CollisionId) ∈ late ∧ .collided 2 ∉ late ∧
      vanishingStage.context.touching 1 2 = false := by
  have reached : Reachable vanishing vanishingStage := reachable_after vanishing _ (.new ..)
  let early := vanishingStage.machine.journal.take 8
  let late := vanishingStage.machine.journal.drop 9
  have journal : vanishingStage.machine.journal =
      early ++ .called (.removeFigure 2) true :: late := by rfl
  have fired : .collided 1 ∈ early := List.mem_of_getElem? (i := 7) (by rfl)
  have before : .called (.onCollision 1 2 ()) (1 : CollisionId) ∈ vanishingStage.machine.journal :=
    List.mem_of_getElem? (i := 3) (by rfl)
  have again : .called (.onCollision 1 2 ()) (2 : CollisionId) ∈ late :=
    List.mem_of_getElem? (i := 0) (by rfl)
  have after : .called (.onCollision 1 2 ()) (2 : CollisionId) ∈ vanishingStage.machine.journal :=
    List.mem_of_mem_drop again
  have last := reached.removals_last
  have takes : Removal 2 early (.called (.removeFigure 2) true) := .removed early
  refine ⟨reached, early, late, journal, fired, ?_, again, ?_, ?_⟩
  · exact last.silent _ _ _ _ journal takes _ _ _ _ before (.inr rfl)
  · exact last.silent _ _ _ _ journal takes _ _ _ _ after (.inr rfl)
  · exact (last.apart _ _ _ _ journal takes _ (.inl rfl) 1).2

end Engine
end SpriteStage
