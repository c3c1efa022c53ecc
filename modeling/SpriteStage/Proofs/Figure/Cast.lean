import Mathlib.Data.List.Nodup
import SpriteStage.Proofs.Figure.Store
import SpriteStage.Proofs.Script.Registrations

/-! The cast: which figures are on the stage, and which pairs of figures are registered to collide.
Ids of figures are not used twice, so a figure that is gone never comes back, and no registration
that names it fires again. -/

namespace SpriteStage
variable {κ σ S : Type}

structure Cast where
  figures : List FigureId
  next : FigureId
  pairs : List (CollisionId × FigureId × FigureId)
  latest : CollisionId

def Registration.pair (r : Registration κ) : CollisionId × FigureId × FigureId :=
  (r.id, r.first, r.second)

def Context.cast (c : Context κ) : Cast where
  figures := c.figures.ids
  next := max c.figures.nextId 1
  pairs := c.collisions.entries.map (·.pair)
  latest := c.collisions.latest

def namesFigure (figure : FigureId) (pair : CollisionId × FigureId × FigureId) : Bool :=
  pair.2.1 = figure || pair.2.2 = figure

def Happening.casts : Happening κ σ → Bool
  | .called (.createFigure _) _ | .called (.removeFigure _) true => true
  | .called (.onCollision ..) _ => true
  | .called .view _ | .collided _ | .notice .reset => true
  | _ => false

def Happening.created? : Happening κ σ → Option FigureId
  | .called (.createFigure _) figure => some figure
  | _ => none

namespace Cast

inductive Step : Cast → Happening κ σ → Cast → Prop
  | made (c : Cast) (asset : String) : Step c (.called (.createFigure asset) c.next)
      { c with figures := c.figures ++ [c.next], next := c.next + 1 }
  | removed (c : Cast) (figure : FigureId) (present : figure ∈ c.figures) :
      Step c (.called (.removeFigure figure) true)
        { c with
          figures := c.figures.erase figure
          pairs := c.pairs.filter (!namesFigure figure ·) }
  | registered (c : Cast) (first second : FigureId) (handler : κ) :
      Step c (.called (.onCollision first second handler) (c.latest + 1))
        { c with pairs := c.pairs ++ [(c.latest + 1, first, second)], latest := c.latest + 1 }
  | viewed (context : Context κ) : Step context.cast (.called .view context) context.cast
  | collided (c : Cast) {id : CollisionId} {first second : FigureId}
      (pair : (id, first, second) ∈ c.pairs) (first_present : first ∈ c.figures)
      (second_present : second ∈ c.figures) : Step c (.collided id) c
  | cleared (c : Cast) : Step c (.notice .reset) { c with figures := [], pairs := [] }
  | other (c : Cast) {happening : Happening κ σ} (silent : happening.casts = false) :
      Step c happening c

end Cast

def Aspect.cast : Aspect κ σ Cast where
  read c := c.cast
  step := Cast.Step

theorem Happening.silent_casts {happening : Happening κ σ} (silent : happening.casts = false) :
    happening.created? = none ∧ happening.registration? = none := by
  cases happening with
  | called c reply =>
    cases c with
    | createFigure | onCollision => cases silent
    | _ => exact ⟨rfl, rfl⟩
  | _ => exact ⟨rfl, rfl⟩

theorem Happening.casts_plain {happening : Happening κ σ} (plain : happening.isPlain) :
    happening.casts = false := by
  cases happening with
  | called | collided => cases plain
  | notice notice =>
    cases notice with
    | reset => cases plain
    | _ => rfl
  | _ => rfl

theorem Context.createFigure_step (c : Context κ) (asset : String) :
    Cast.Step c.cast (.called (.createFigure asset) (c.createFigure asset).1 : Happening κ σ)
      (c.createFigure asset).2.cast := by
  have next : max (max c.figures.nextId 1 + 1) 1 = max c.figures.nextId 1 + 1 :=
    Nat.max_eq_left (Nat.le_add_left 1 _)
  have same : (c.createFigure asset).2.cast =
      { c.cast with figures := c.cast.figures ++ [c.cast.next], next := c.cast.next + 1 } := by
    simp only [createFigure, cast, FigureStore.create_ids]
    exact congrArg (Cast.mk _ · _ _) next
  rw [same]
  exact .made c.cast asset

theorem Context.removeFigure_step (c : Context κ) (figure : FigureId) :
    Cast.Step c.cast (.called (.removeFigure figure) (c.removeFigure figure).1 : Happening κ σ)
      (c.removeFigure figure).2.cast := by
  cases there : c.figures.contains figure with
  | true =>
    have same : (c.removeFigure figure).2.cast = { c.cast with
        figures := c.cast.figures.erase figure
        pairs := c.cast.pairs.filter (!namesFigure figure ·) } := by
      simp only [removeFigure, there, if_true, cast, FigureStore.remove_ids,
        CollisionRegistry.purge, List.filter_map]
      rfl
    rw [same, removeFigure, if_pos there]
    exact .removed c.cast figure ((c.figures.contains_iff figure).mp there)
  | false =>
    rw [removeFigure, if_neg (by simp [there])]
    exact .other c.cast rfl

theorem Context.onCollision_step (c : Context κ) (first second : FigureId) (handler : κ) :
    Cast.Step c.cast (.called (.onCollision first second handler)
        (c.collisions.register first second handler).1 : Happening κ σ)
      { c with collisions := (c.collisions.register first second handler).2 }.cast := by
  have same : { c with collisions := (c.collisions.register first second handler).2 }.cast =
      { c.cast with
        pairs := c.cast.pairs ++ [(c.cast.latest + 1, first, second)]
        latest := c.cast.latest + 1 } := by
    simp only [cast, CollisionRegistry.register, List.map_append]
    rfl
  rw [same]
  exact .registered c.cast first second handler

theorem Aspect.cast_arranged [Surface S] : (Aspect.cast (κ := κ) (σ := σ)).Arranged S where
  reads same := by
    have figures := congrArg Arrangement.figures same
    have next := congrArg Arrangement.nextId same
    have collisions := congrArg Arrangement.collisions same
    simp only [Context.arrangement] at figures next collisions
    simp only [Aspect.cast, Context.cast, figures, next, collisions]
  plain state happening plain := .other state (Happening.casts_plain plain)
  idle c m idle := by
    cases c with
    | view => exact .viewed m.context
    | createFigure | removeFigure | onCollision => cases idle
    | _ => exact .other _ rfl
  arranges c m arranges := by
    cases c with
    | createFigure asset => exact m.context.createFigure_step asset
    | removeFigure figure => exact m.context.removeFigure_step figure
    | onCollision first second handler => exact m.context.onCollision_step first second handler
    | requestStop | onStart | onFrame | onKey => exact .other _ rfl
    | _ => cases arranges

namespace Cast
variable {before after c : Cast} {figure : FigureId} {happening : Happening κ σ}
  {news : List (Happening κ σ)}

/-- No figure is on the stage twice, and none has an id that is still to be given out. -/
structure Sound (c : Cast) : Prop where
  distinct : c.figures.Nodup
  below : ∀ figure ∈ c.figures, figure < c.next

theorem Step.sound (step : Step before happening after) (sound : before.Sound) : after.Sound := by
  cases step with
  | made asset =>
    refine ⟨List.nodup_append.mpr ⟨sound.distinct, List.nodup_singleton _, ?_⟩, ?_⟩
    · intro old present new fresh
      rw [List.mem_singleton.mp fresh]
      exact Nat.ne_of_lt (sound.below old present)
    · intro figure present
      rcases List.mem_append.mp present with old | new
      · exact Nat.lt_succ_of_lt (sound.below figure old)
      · exact List.mem_singleton.mp new ▸ Nat.lt_succ_self _
  | removed =>
    exact ⟨sound.distinct.erase _, fun other kept => sound.below other (List.mem_of_mem_erase kept)⟩
  | cleared => exact ⟨List.nodup_nil, fun _ present => absurd present List.not_mem_nil⟩
  | registered => exact ⟨sound.distinct, sound.below⟩
  | viewed | collided | other => exact sound

/-- A figure was on the stage and is not there any more. -/
structure Gone (figure : FigureId) (c : Cast) : Prop where
  absent : figure ∉ c.figures
  old : figure < c.next

/-- A figure that is gone never comes back: its id is not used twice. -/
theorem Step.gone (step : Step before happening after) (gone : before.Gone figure) :
    after.Gone figure := by
  cases step with
  | made asset =>
    refine ⟨fun present => ?_, Nat.lt_succ_of_lt gone.old⟩
    rcases List.mem_append.mp present with old | new
    · exact gone.absent old
    · exact Nat.ne_of_lt gone.old (List.mem_singleton.mp new)
  | removed => exact ⟨fun present => gone.absent (List.mem_of_mem_erase present), gone.old⟩
  | cleared => exact ⟨List.not_mem_nil, gone.old⟩
  | registered => exact ⟨gone.absent, gone.old⟩
  | viewed | collided | other => exact gone

theorem Gone.apart {context : Context κ} (gone : context.cast.Gone figure) (other : FigureId) :
    context.touching figure other = false ∧ context.touching other figure = false := by
  constructor
  · exact Bool.eq_false_iff.mpr fun touches => gone.absent (FigureStore.touching_ids touches).1
  · exact Bool.eq_false_iff.mpr fun touches => gone.absent (FigureStore.touching_ids touches).2

theorem Step.created (step : Step before happening after) :
    happening.created? = none ∧ after.next = before.next ∨
      happening.created? = some before.next ∧ after.next = before.next + 1 := by
  cases step with
  | made asset => exact .inr ⟨rfl, rfl⟩
  | other _ silent => exact .inl ⟨(Happening.silent_casts silent).1, rfl⟩
  | removed | registered | viewed | collided | cleared => exact .inl ⟨rfl, rfl⟩

theorem Step.registered? (step : Step before happening after) :
    happening.registration?.map (·.id) = none ∧ after.latest + 1 = before.latest + 1 ∨
      happening.registration?.map (·.id) = some (before.latest + 1) ∧
        after.latest + 1 = before.latest + 1 + 1 := by
  cases step with
  | registered first second handler => exact .inr ⟨rfl, rfl⟩
  | other _ silent => exact .inl ⟨by rw [(Happening.silent_casts silent).2]; rfl, rfl⟩
  | made | removed | viewed | collided | cleared => exact .inl ⟨rfl, rfl⟩

theorem Step.pairs (step : Step before happening after)
    {pair : CollisionId × FigureId × FigureId} (member : pair ∈ after.pairs) :
    pair ∈ before.pairs ∨ ∃ r, happening.registration? = some r ∧ r.pair = pair := by
  cases step with
  | removed figure present => exact .inl (List.mem_of_mem_filter member)
  | registered first second handler =>
    rcases List.mem_append.mp member with old | new
    · exact .inl old
    · exact .inr ⟨_, rfl, (List.mem_singleton.mp new).symm⟩
  | cleared => exact absurd member List.not_mem_nil
  | made | viewed | collided | other => exact .inl member

end Cast

namespace Aspect
open Cast
variable {before after : Cast} {news : List (Happening κ σ)}

theorem History.created (history : Aspect.cast.History before news after) : ∃ made,
    news.filterMap (·.created?) = List.range' before.next made ∧
      after.next = before.next + made :=
  history.issued fun step => Step.created step

theorem History.registered (history : Aspect.cast.History before news after) : ∃ made,
    (news.filterMap (·.registration?)).map (·.id) = List.range' (before.latest + 1) made ∧
      after.latest = before.latest + made := by
  obtain ⟨made, issued, total⟩ := history.issued fun step => Step.registered? step
  have latest : after.latest + 1 = before.latest + made + 1 :=
    total.trans (Nat.add_right_comm before.latest 1 made)
  exact ⟨made, by rw [← issued, List.map_filterMap], Nat.succ.inj latest⟩

theorem History.registration_id (history : Aspect.cast.History before news after)
    {r : Registration κ} (member : r ∈ news.filterMap (·.registration?)) :
    before.latest < r.id ∧ r.id ≤ after.latest := by
  obtain ⟨made, ids, latest⟩ := history.registered
  have issued : r.id ∈ (news.filterMap (·.registration?)).map (·.id) := List.mem_map_of_mem member
  rw [ids, List.mem_range'_1, Nat.add_right_comm, ← latest] at issued
  exact ⟨issued.1, Nat.le_of_lt_succ issued.2⟩

theorem History.pairs (history : Aspect.cast.History before news after)
    {pair : CollisionId × FigureId × FigureId} (member : pair ∈ after.pairs) :
    pair ∈ before.pairs ∨ ∃ r ∈ news.filterMap (·.registration?), r.pair = pair := by
  induction history with
  | nil state => exact .inl member
  | cons step rest ih =>
    rcases ih member with between | ⟨r, made, same⟩
    · rcases Step.pairs step between with old | ⟨r, made, same⟩
      · exact .inl old
      · exact .inr ⟨r, by simp [made], same⟩
    · refine .inr ⟨r, ?_, same⟩
      rw [List.filterMap_cons]
      split
      · exact made
      · exact List.mem_cons_of_mem _ made

theorem History.unique (history : Aspect.cast.History before news after) {r s : Registration κ}
    (first : r ∈ news.filterMap (·.registration?)) (second : s ∈ news.filterMap (·.registration?))
    (same : r.id = s.id) : r = s := by
  obtain ⟨made, issued, _⟩ := history.registered
  have distinct : ((news.filterMap (·.registration?)).map (·.id)).Nodup :=
    issued ▸ List.nodup_range'
  exact List.inj_on_of_nodup_map distinct first second same

end Aspect
end SpriteStage
