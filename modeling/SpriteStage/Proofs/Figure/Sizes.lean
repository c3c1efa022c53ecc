import Mathlib.Data.List.Nodup
import SpriteStage.Proofs.Figure.Store
import SpriteStage.Proofs.Script.History

/-! The sizes of figures as the journal tells them. Each axis of a size has a source of its own: the
last length that a script assigned to it, else the last image that the figure was given, else the
size at creation. -/

namespace SpriteStage
variable {κ σ : Type}

inductive Axis where
  | width
  | height
  deriving DecidableEq

def Axis.pick {α : Type} (width height : α) : Axis → α
  | .width => width
  | .height => height

structure Sizing where
  source : SizeSource
  length : Float32

def ImageInfo.natural (image : ImageInfo) (axis : Axis) : Float32 :=
  axis.pick image.width.toFloat32 image.height.toFloat32

def Settings.figureLength (settings : Settings) (axis : Axis) : Float32 :=
  axis.pick settings.figureWidth settings.figureHeight

def FigureEdit.assigns? (axis : Axis) : FigureEdit → Option Float32
  | .setSize width height => some (axis.pick width height)
  | .setWidth width => axis.pick (some width) none
  | .setHeight height => axis.pick none (some height)
  | _ => none

/-- The image that an edit gives a figure; one that is put in the field is not given. -/
def FigureEdit.applies? : FigureEdit → Option ImageInfo
  | .applyImage image => some image
  | _ => none

/-- The length that a script assigns to an axis of a figure that is there. -/
def Happening.assigned? (figure : FigureId) (axis : Axis) : Happening κ σ → Option Float32
  | .called (.editFigure id change) true => if id = figure then change.assigns? axis else none
  | _ => none

/-- The image that a figure is given, by a load or by a script. -/
def Happening.imaged? (figure : FigureId) : Happening κ σ → Option ImageInfo
  | .called (.editFigure id change) true => if id = figure then change.applies? else none
  | .imageApplied id image => if id = figure then some image else none
  | _ => none

namespace Journal

def assigned (figure : FigureId) (axis : Axis) (news : List (Happening κ σ)) : List Float32 :=
  news.filterMap (·.assigned? figure axis)

def imaged (figure : FigureId) (news : List (Happening κ σ)) : List ImageInfo :=
  news.filterMap (·.imaged? figure)

/-- An axis of the size of a figure, from the length that it had at its creation. -/
def sizing (standard : Float32) (figure : FigureId) (axis : Axis) (news : List (Happening κ σ)) :
    Sizing :=
  match (assigned figure axis news).getLast? with
  | some length => ⟨.manual, length⟩
  | none => match (imaged figure news).getLast? with
    | some image => ⟨.auto, image.natural axis⟩
    | none => ⟨.unset, standard⟩

end Journal

/-- What an assignment or an image makes of an axis. -/
def Sizing.under (assigned natural : Option Float32) (s : Sizing) : Sizing :=
  match assigned, natural with
  | some length, _ => ⟨.manual, length⟩
  | none, some length => if s.source = .manual then s else ⟨.auto, length⟩
  | none, none => s

namespace Figure

def source (axis : Axis) (f : Figure) : SizeSource := axis.pick f.widthSource f.heightSource

def length (axis : Axis) (f : Figure) : Float32 := axis.pick f.width f.height

def sizing (axis : Axis) (f : Figure) : Sizing := ⟨f.source axis, f.length axis⟩

def bare (f : Figure) : Figure := { f with image := none }

theorem applyImage_sizing (image : ImageInfo) (axis : Axis) (f : Figure) :
    (f.applyImage image).sizing axis = (f.sizing axis).under none (some (image.natural axis)) := by
  have taken (width height : SizeSource) (w : f.widthSource = width) (h : f.heightSource = height) :
      (f.applyImage image).sizing axis =
        (f.sizing axis).under none (some (image.natural axis)) := by
    cases axis <;> cases width <;> cases height <;>
      simp [sizing, source, length, Axis.pick, Sizing.under, applyImage, snapWidth, snapHeight,
        ImageInfo.natural, w, h]
  exact taken _ _ rfl rfl

/-- An edit assigns a length, or gives an image, or leaves the size alone. -/
theorem edit_sizing (change : FigureEdit) (axis : Axis) (f : Figure) :
    (f.edit change).sizing axis = (f.sizing axis).under (change.assigns? axis)
      (change.applies?.map (·.natural axis)) := by
  cases change with
  | applyImage image => exact applyImage_sizing image axis f
  | setSize width height => cases axis <;> rfl
  | setWidth width => cases axis <;> rfl
  | setHeight height => cases axis <;> rfl
  | _ => rfl

theorem bare_edit (change : FigureEdit) (f : Figure) :
    (f.bare.edit change).bare = (f.edit change).bare := by
  cases change with
  | applyImage image =>
    cases width : f.widthSource <;> cases height : f.heightSource <;>
      simp [edit, applyImage, snapWidth, snapHeight, bare, width, height]
  | _ => rfl

end Figure

/-- An axis of a figure's size is what a journal tells. -/
structure TrueSize (settings : Settings) (past : List (Happening κ σ)) (figure : Figure)
    (axis : Axis) : Prop where
  manual : figure.source axis = .manual ↔ Journal.assigned figure.id axis past ≠ []
  assigned : ∀ length, (Journal.assigned figure.id axis past).getLast? = some length →
    figure.length axis = length
  auto : figure.source axis = .auto ↔
    Journal.assigned figure.id axis past = [] ∧ Journal.imaged figure.id past ≠ []
  natural : Journal.assigned figure.id axis past = [] →
    ∀ image, (Journal.imaged figure.id past).getLast? = some image →
      figure.length axis = image.natural axis
  unset : figure.source axis = .unset ↔
    Journal.assigned figure.id axis past = [] ∧ Journal.imaged figure.id past = []
  created : Journal.assigned figure.id axis past = [] → Journal.imaged figure.id past = [] →
    figure.length axis = settings.figureLength axis

theorem TrueSize.of_sizing {settings : Settings} {past : List (Happening κ σ)} {figure : Figure}
    {axis : Axis} (same : figure.sizing axis =
      Journal.sizing (settings.figureLength axis) figure.id axis past) :
    TrueSize settings past figure axis := by
  unfold Figure.sizing Journal.sizing at same
  cases lengths : (Journal.assigned figure.id axis past).getLast? with
  | some length =>
    have assigned : Journal.assigned figure.id axis past ≠ [] := by
      intro none
      simp [none] at lengths
    rw [lengths] at same
    obtain ⟨source, length⟩ := Sizing.mk.inj same
    constructor <;> simp [assigned, source, lengths, length]
  | none =>
    have unassigned := List.getLast?_eq_none_iff.mp lengths
    rw [lengths] at same
    dsimp only at same
    cases images : (Journal.imaged figure.id past).getLast? with
    | some image =>
      have imaged : Journal.imaged figure.id past ≠ [] := by
        intro none
        simp [none] at images
      rw [images] at same
      obtain ⟨source, length⟩ := Sizing.mk.inj same
      constructor <;> simp [unassigned, imaged, source, images, length]
    | none =>
      have unimaged := List.getLast?_eq_none_iff.mp images
      rw [images] at same
      obtain ⟨source, length⟩ := Sizing.mk.inj same
      constructor <;> simp [unassigned, unimaged, source, length]

namespace FigureStore

def bare (store : FigureStore) : FigureStore := { store with figures := store.figures.map (·.bare) }

@[simp] theorem bare_ids (store : FigureStore) : store.bare.ids = store.ids := by
  simp only [bare, ids, List.map_map]
  rfl

theorem bare_edit (store : FigureStore) (id : FigureId) (change : FigureEdit) :
    (store.bare.edit id change).bare = (store.edit id change).bare := by
  have modified (figures : List Figure) :
      (modifyFirst id (Figure.edit change) (figures.map (·.bare))).map (·.bare) =
        (modifyFirst id (Figure.edit change) figures).map (·.bare) := by
    induction figures with
    | nil => rfl
    | cons figure rest ih =>
      rw [List.map_cons, modifyFirst, modifyFirst]
      by_cases same : figure.id = id
      · have found : figure.bare.id = id := same
        rw [if_pos same, if_pos found, List.map_cons, List.map_cons, Figure.bare_edit, List.map_map]
        rfl
      · have passed : figure.bare.id ≠ id := same
        rw [if_neg same, if_neg passed, List.map_cons, List.map_cons, ih]
        rfl
  exact congrArg (FigureStore.mk · store.nextId) (modified store.figures)

theorem bare_setImage (store : FigureStore) (id : FigureId) (image : Option ImageHandle) :
    (store.edit id (.setImage image)).bare = store.bare := by
  have modified (figures : List Figure) :
      (modifyFirst id (Figure.edit (.setImage image)) figures).map (·.bare) =
        figures.map (·.bare) := by
    induction figures with
    | nil => rfl
    | cons figure rest ih =>
      rw [modifyFirst]
      split
      · rfl
      · rw [List.map_cons, List.map_cons, ih]
  exact congrArg (FigureStore.mk · store.nextId) (modified store.figures)

theorem edit_absent {store : FigureStore} {id : FigureId} (absent : store.contains id = false)
    (change : FigureEdit) : store.edit id change = store := by
  have unmodified (figures : List Figure) (others : ∀ figure ∈ figures, figure.id ≠ id) :
      modifyFirst id (Figure.edit change) figures = figures := by
    induction figures with
    | nil => rfl
    | cons first rest ih =>
      obtain ⟨other, others⟩ := List.forall_mem_cons.mp others
      rw [modifyFirst, if_neg other, ih others]
  have others : ∀ figure ∈ store.figures, figure.id ≠ id := by
    intro figure member same
    have there := (contains_iff store id).mpr (List.mem_map.mpr ⟨figure, member, same⟩)
    exact Bool.false_ne_true (absent.symm.trans there)
  exact congrArg (FigureStore.mk · store.nextId) (unmodified store.figures others)

theorem mem_edit_distinct {store : FigureStore} (distinct : store.ids.Nodup) {id : FigureId}
    {change : FigureEdit} {figure : Figure} (member : figure ∈ (store.edit id change).figures) :
    (figure ∈ store.figures ∧ figure.id ≠ id) ∨
      ∃ old ∈ store.figures, old.id = id ∧ figure = old.edit change := by
  rw [edit_distinct distinct] at member
  obtain ⟨old, there, same⟩ := List.mem_map.mp member
  split at same
  · rename_i found
    exact .inr ⟨old, there, found, same.symm⟩
  · rename_i other
    exact .inl ⟨same ▸ there, same ▸ other⟩

end FigureStore

/-- The figures but for their images, and the size in which new ones come. -/
structure Measures where
  figures : FigureStore
  standard : Axis → Float32

def Context.measures (c : Context κ) : Measures := ⟨c.figures.bare, c.settings.figureLength⟩

def Happening.measures : Happening κ σ → Bool
  | .called (.createFigure _) _ | .called (.editFigure ..) true
  | .called (.removeFigure _) _ => true
  | .called .view _ | .imageApplied .. | .notice .reset => true
  | _ => false

namespace Measures

inductive Step : Measures → Happening κ σ → Measures → Prop
  | made (c : Measures) (asset : String) :
      Step c (.called (.createFigure asset)
          (c.figures.create (c.standard .width) (c.standard .height)).1)
        { c with figures := (c.figures.create (c.standard .width) (c.standard .height)).2 }
  | edited (c : Measures) {figure : FigureId} (there : c.figures.contains figure)
      (change : FigureEdit) : Step c (.called (.editFigure figure change) true)
        { c with figures := (c.figures.edit figure change).bare }
  | removed (c : Measures) (figure : FigureId) (there : Bool) {rest : List Figure}
      (fewer : rest.Sublist c.figures.figures) :
      Step c (.called (.removeFigure figure) there) { c with figures := ⟨rest, c.figures.nextId⟩ }
  | applied (c : Measures) {figure : FigureId} (there : c.figures.contains figure)
      (image : ImageInfo) : Step c (.imageApplied figure image)
        { c with figures := (c.figures.edit figure (.applyImage image)).bare }
  | viewed (context : Context κ) : Step context.measures (.called .view context) context.measures
  | cleared (c : Measures) : Step c (.notice .reset) { c with figures := c.figures.clear }
  | other (c : Measures) {happening : Happening κ σ} (silent : happening.measures = false) :
      Step c happening c

end Measures

def Aspect.measures : Aspect κ σ Measures where
  read c := c.measures
  step := Measures.Step

namespace Journal
variable {standard : Float32} {figure : FigureId} {axis : Axis} {news : List (Happening κ σ)}

theorem sizing_concat (standard : Float32) (figure : FigureId) (axis : Axis)
    (news : List (Happening κ σ)) (happening : Happening κ σ) :
    sizing standard figure axis (news ++ [happening]) =
      (sizing standard figure axis news).under (happening.assigned? figure axis)
        ((happening.imaged? figure).map (·.natural axis)) := by
  have lengths : assigned figure axis (news ++ [happening]) =
      assigned figure axis news ++ (happening.assigned? figure axis).toList := by
    rw [assigned, List.filterMap_append, assigned]
    cases h : happening.assigned? figure axis <;> simp [h]
  have images : imaged figure (news ++ [happening]) =
      imaged figure news ++ (happening.imaged? figure).toList := by
    rw [imaged, List.filterMap_append, imaged]
    cases h : happening.imaged? figure <;> simp [h]
  rw [sizing, lengths, images]
  cases happening.assigned? figure axis with
  | some length => simp [Sizing.under]
  | none =>
    cases happening.imaged? figure with
    | none => simp [Sizing.under, sizing]
    | some image =>
      cases last : (assigned figure axis news).getLast? with
      | some length => simp [Sizing.under, sizing, last]
      | none =>
        cases before : (imaged figure news).getLast? with
        | some old => simp [Sizing.under, sizing, last, before]
        | none => simp [Sizing.under, sizing, last, before]

theorem sizing_untold {happening : Happening κ σ}
    (unassigned : happening.assigned? figure axis = none)
    (unimaged : happening.imaged? figure = none) :
    sizing standard figure axis (news ++ [happening]) = sizing standard figure axis news := by
  rw [sizing_concat, unassigned, unimaged]
  rfl

/-- What a script has assigned stays until the next assignment. -/
theorem sizing_pinned {past : List (Happening κ σ)}
    (manual : (sizing standard figure axis past).source = .manual)
    (unassigned : assigned figure axis news = []) :
    sizing standard figure axis (past ++ news) = sizing standard figure axis past := by
  have lengths : assigned figure axis (past ++ news) = assigned figure axis past := by
    have both : assigned figure axis (past ++ news) =
      assigned figure axis past ++ assigned figure axis news := List.filterMap_append
    rw [both, unassigned, List.append_nil]
  rw [sizing, lengths]
  rw [sizing] at manual ⊢
  split
  · rfl
  · rename_i none
    rw [none] at manual
    dsimp only at manual
    split at manual <;> cases manual

end Journal

theorem Happening.silent_measures {happening : Happening κ σ}
    (silent : happening.measures = false) (figure : FigureId) :
    (∀ axis, happening.assigned? figure axis = none) ∧ happening.imaged? figure = none := by
  cases happening with
  | called c reply =>
    cases c with
    | editFigure id change =>
      cases reply with
      | true => cases silent
      | false => exact ⟨fun _ => rfl, rfl⟩
    | _ => exact ⟨fun _ => rfl, rfl⟩
  | imageApplied => cases silent
  | _ => exact ⟨fun _ => rfl, rfl⟩

namespace Measures
variable {before after c : Measures} {happening : Happening κ σ} {past news : List (Happening κ σ)}

structure Told (past : List (Happening κ σ)) (c : Measures) : Prop where
  distinct : c.figures.ids.Nodup
  below : ∀ id ∈ c.figures.ids, id < max c.figures.nextId 1
  untold : ∀ id, max c.figures.nextId 1 ≤ id → ∀ axis,
    Journal.sizing (c.standard axis) id axis past = ⟨.unset, c.standard axis⟩
  told : ∀ figure ∈ c.figures.figures, ∀ axis,
    figure.sizing axis = Journal.sizing (c.standard axis) figure.id axis past

theorem Told.fewer (told : c.Told past) {rest : List Figure}
    (fewer : rest.Sublist c.figures.figures)
    (silent : ∀ id, (∀ axis, happening.assigned? id axis = none) ∧ happening.imaged? id = none) :
    Told (past ++ [happening]) { c with figures := ⟨rest, c.figures.nextId⟩ } := by
  have ids : (FigureStore.mk rest c.figures.nextId).ids.Sublist c.figures.ids := fewer.map _
  constructor
  case distinct => exact told.distinct.sublist ids
  case below => exact fun id present => told.below id (ids.subset present)
  case untold =>
    intro id free axis
    rw [Journal.sizing_untold ((silent id).1 axis) (silent id).2]
    exact told.untold id free axis
  case told =>
    intro figure member axis
    rw [Journal.sizing_untold ((silent figure.id).1 axis) (silent figure.id).2]
    exact told.told figure (fewer.subset member) axis

theorem Told.other (told : c.Told past)
    (silent : ∀ id, (∀ axis, happening.assigned? id axis = none) ∧ happening.imaged? id = none) :
    Told (past ++ [happening]) c := told.fewer (List.Sublist.refl _) silent

theorem Told.made (told : c.Told past)
    (silent : ∀ id, (∀ axis, happening.assigned? id axis = none) ∧ happening.imaged? id = none) :
    Told (past ++ [happening])
      { c with figures := (c.figures.create (c.standard .width) (c.standard .height)).2 } := by
  have next : max (max c.figures.nextId 1 + 1) 1 = max c.figures.nextId 1 + 1 :=
    Nat.max_eq_left (Nat.le_add_left 1 _)
  constructor
  case distinct =>
    rw [FigureStore.create_ids, List.nodup_append]
    refine ⟨told.distinct, List.nodup_singleton _, ?_⟩
    intro old present new fresh
    rw [List.mem_singleton.mp fresh]
    exact Nat.ne_of_lt (told.below old present)
  case below =>
    intro id present
    rw [FigureStore.create_ids] at present
    change id < max (max c.figures.nextId 1 + 1) 1
    rw [next]
    rcases List.mem_append.mp present with old | new
    · exact Nat.lt_succ_of_lt (told.below id old)
    · exact List.mem_singleton.mp new ▸ Nat.lt_succ_self _
  case untold =>
    intro id free axis
    change max (max c.figures.nextId 1 + 1) 1 ≤ id at free
    rw [next] at free
    rw [Journal.sizing_untold ((silent id).1 axis) (silent id).2]
    exact told.untold id (Nat.le_of_succ_le free) axis
  case told =>
    intro figure member axis
    rw [Journal.sizing_untold ((silent figure.id).1 axis) (silent figure.id).2]
    rcases List.mem_append.mp member with old | new
    · exact told.told figure old axis
    · obtain rfl := List.mem_singleton.mp new
      refine Eq.trans ?_ (told.untold _ (Nat.le_refl _) axis).symm
      cases axis <;> rfl

theorem Told.edited (told : c.Told past) {figure : FigureId}
    (there : c.figures.contains figure) {change : FigureEdit}
    (own : (∀ axis, happening.assigned? figure axis = change.assigns? axis) ∧
      happening.imaged? figure = change.applies?)
    (others : ∀ id, figure ≠ id →
      (∀ axis, happening.assigned? id axis = none) ∧ happening.imaged? id = none) :
    Told (past ++ [happening]) { c with figures := (c.figures.edit figure change).bare } := by
  have present := told.below figure ((FigureStore.contains_iff _ _).mp there)
  constructor
  case distinct =>
    rw [FigureStore.bare_ids, FigureStore.edit_ids]
    exact told.distinct
  case below =>
    intro id member
    rw [FigureStore.bare_ids, FigureStore.edit_ids] at member
    exact told.below id member
  case untold =>
    intro id free axis
    have silent := others id (Nat.ne_of_lt (Nat.lt_of_lt_of_le present free))
    rw [Journal.sizing_untold (silent.1 axis) silent.2]
    exact told.untold id free axis
  case told =>
    intro edited present axis
    obtain ⟨dressed, member, rfl⟩ := List.mem_map.mp present
    change dressed.sizing axis = Journal.sizing (c.standard axis) dressed.id axis _
    rcases FigureStore.mem_edit_distinct told.distinct member with
      ⟨old, other⟩ | ⟨old, stood, rfl, rfl⟩
    · have silent := others dressed.id other.symm
      rw [Journal.sizing_untold (silent.1 axis) silent.2]
      exact told.told dressed old axis
    · rw [Figure.edit_sizing, Figure.edit_id, Journal.sizing_concat, own.1, own.2,
        told.told old stood axis]

theorem Step.told (step : Step before happening after) (told : before.Told past) :
    after.Told (past ++ [happening]) := by
  cases step with
  | made asset => exact told.made fun _ => ⟨fun _ => rfl, rfl⟩
  | @edited _ figure there change =>
    refine told.edited there ⟨fun axis => if_pos rfl, if_pos rfl⟩ fun id other => ?_
    exact ⟨fun axis => if_neg other, if_neg other⟩
  | removed _ figure reply fewer => exact told.fewer fewer fun _ => ⟨fun _ => rfl, rfl⟩
  | @applied _ figure there image =>
    refine told.edited there ⟨fun axis => rfl, if_pos rfl⟩ fun id other => ?_
    exact ⟨fun axis => rfl, if_neg other⟩
  | viewed => exact told.other fun _ => ⟨fun _ => rfl, rfl⟩
  | cleared => exact told.fewer (List.nil_sublist _) fun _ => ⟨fun _ => rfl, rfl⟩
  | other _ silent => exact told.other (Happening.silent_measures silent)

end Measures

/-- Sizes are as the whole journal tells them. -/
theorem Aspect.History.told {before after : Measures} {past news : List (Happening κ σ)}
    (history : Aspect.measures.History before news after) (told : before.Told past) :
    after.Told (past ++ news) := by
  induction history generalizing past with
  | nil state => rwa [List.append_nil]
  | @cons before between after happening news step rest ih =>
    have first : between.Told (past ++ [happening]) := Measures.Step.told step told
    rw [← List.singleton_append, ← List.append_assoc]
    exact ih first

namespace Aspect
variable {before after : Measures} {news : List (Happening κ σ)}

theorem History.standard (history : Aspect.measures.History before news after) :
    after.standard = before.standard := by
  induction history with
  | nil state => rfl
  | cons step rest ih =>
    rw [ih]
    cases step with
    | made | edited | removed | applied | viewed | cleared | other => rfl

theorem History.sizes {standard : Axis → Float32}
    (history : Aspect.measures.History ⟨.empty, standard⟩ news after) :
    ∀ figure ∈ after.figures.figures, ∀ axis,
      figure.sizing axis = Journal.sizing (standard axis) figure.id axis news := by
  have start : Measures.Told ([] : List (Happening κ σ)) ⟨.empty, standard⟩ :=
    ⟨List.nodup_nil, fun _ present => absurd present List.not_mem_nil, fun _ _ _ => rfl,
      fun _ member => absurd member List.not_mem_nil⟩
  have told := (history.told start).told
  rwa [List.nil_append, history.standard] at told

end Aspect
end SpriteStage
