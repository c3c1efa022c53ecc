import SpriteStage.Proofs.Asset.Loading
import SpriteStage.Proofs.Surface.Alike

namespace SpriteStage

/-- A surface hands out an image, or is told to draw one. -/
inductive ImageUse where
  | made (handle : ImageHandle)
  | drawn (handle : ImageHandle)
  deriving DecidableEq

def Shape.uses : Shape → List ImageUse
  | .image handle _ => [.drawn handle]
  | _ => []

/-- A surface with a record of the images that it hands out and of those that it is told to draw,
whether the drawing fails or not. -/
structure Watched (S : Type) where
  surface : S
  uses : List ImageUse

namespace Watched
variable {S : Type} [Surface S]

instance : Surface (Watched S) where
  size s := Surface.size s.surface
  loadImage path := fun s =>
    let (result, surface) := Surface.loadImage path s.surface
    (result, ⟨surface, s.uses ++ result.toOption.toList.map (.made ·.handle)⟩)
  solidImage width height colour := fun s =>
    let (result, surface) := Surface.solidImage width height colour s.surface
    (result, ⟨surface, s.uses ++ result.toOption.toList.map .made⟩)
  paint shape := fun s =>
    let (result, surface) := Surface.paint shape s.surface
    (result, ⟨surface, s.uses ++ shape.uses⟩)
  paintText text x y colour size := fun s =>
    let (result, surface) := Surface.paintText text x y colour size s.surface
    (result, { s with surface := surface })
  textWidth s := Surface.textWidth s.surface
  pose change s := { s with surface := Surface.pose change s.surface }
  present s := { s with surface := Surface.present s.surface }

section Goes
omit [Surface S]

def Goes (uses : List ImageUse) (s t : Watched S) : Prop := t.uses = s.uses ++ uses

theorem Goes.refl (s : Watched S) : Goes [] s s := (List.append_nil _).symm

theorem Goes.trans {s t u : Watched S} {uses more : List ImageUse} (first : Goes uses s t)
    (second : Goes more t u) : Goes (uses ++ more) s u := by
  rw [Goes, second, first, List.append_assoc]

end Goes

theorem painting : Painting (Goes (S := S) []) where
  refl := .refl
  trans := .trans
  shapes shape s plain := by
    have none : shape.uses = [] := by
      cases shape with
      | image handle area => exact absurd rfl (plain handle area)
      | _ => rfl
    exact congrArg (s.uses ++ ·) none
  texts _ _ _ _ _ s := .refl s

theorem poses_go (poses : List Pose) (s : Watched S) :
    Goes [] s (poses.foldl (fun s change => Surface.pose change s) s) := by
  induction poses generalizing s with
  | nil => exact .refl s
  | cons change rest ih => exact Goes.trans (.refl s) (ih _)

theorem figure_goes (figure : Figure) (s : Watched S) :
    Goes (figure.image.toList.map .drawn) s (figure.draw s).2 := by
  unfold Figure.draw
  split
  · rename_i none
    rw [none]
    exact .refl s
  · rename_i image some
    rw [some]
    have posed := poses_go figure.poses s
    have drawn : Goes [.drawn image] _ (Surface.paint (.image image figure.sprite)
      (figure.poses.foldl (fun s change => Surface.pose change s) s)).2 := rfl
    exact (posed.trans drawn).trans (.refl _)

theorem figures_go (figures : List Figure) (s : Watched S) :
    Goes (((figures.filter (·.visible)).filterMap (·.image)).map .drawn) s
      (drawFigures figures s).2 := by
  induction figures generalizing s with
  | nil => exact .refl s
  | cons figure rest ih =>
    have first := figure_goes figure s
    unfold drawFigures
    by_cases visible : figure.visible
    · have uses : ((figure :: rest).filter (·.visible)).filterMap (·.image) =
          figure.image.toList ++ (rest.filter (·.visible)).filterMap (·.image) := by
        rw [List.filter_cons_of_pos visible]
        cases shown : figure.image with
        | none => simp [List.filterMap_cons_none shown]
        | some image => simp [List.filterMap_cons_some shown]
      rw [if_pos visible, uses, List.map_append]
      split
      · rename_i s' ran
        rw [ran] at first
        exact first.trans (ih s')
      · rename_i e s' ran
        rw [ran] at first
        exact first.trans (ih s')
    · rw [if_neg visible, List.filter_cons_of_neg visible]
      exact ih s

end Watched

/-- Where images come from, between two stages of the figures: those of the figures were handed out
in between or were there before, on the same figure, and those that are drawn were handed out
earlier or were there before. -/
structure Provenance (uses : List ImageUse) (before after : FigureStore) : Prop where
  images : ∀ figure ∈ after.figures, ∀ handle, figure.image = some handle →
    .made handle ∈ uses ∨ ∃ old ∈ before.figures, old.id = figure.id ∧ old.image = some handle
  draws : ∀ early handle late, uses = early ++ .drawn handle :: late →
    .made handle ∈ early ∨ ∃ old ∈ before.figures, old.image = some handle

namespace Provenance
variable {uses more : List ImageUse} {before middle after store : FigureStore}

theorem of_same (same : ∀ figure ∈ after.figures, ∀ handle, figure.image = some handle →
    ∃ old ∈ before.figures, old.id = figure.id ∧ old.image = some handle) :
    Provenance [] before after where
  images figure member handle has := .inr (same figure member handle has)
  draws early handle late split := by simp at split

theorem refl (store : FigureStore) : Provenance [] store store :=
  .of_same fun figure member _ has => ⟨figure, member, rfl, has⟩

theorem trans (first : Provenance uses before middle) (second : Provenance more middle after) :
    Provenance (uses ++ more) before after := by
  constructor
  · intro figure member handle has
    rcases second.images figure member handle has with new | ⟨old, there, id, had⟩
    · exact .inl (List.mem_append_right uses new)
    · rcases first.images old there handle had with new | ⟨older, there, same, had⟩
      · exact .inl (List.mem_append_left more new)
      · exact .inr ⟨older, there, same.trans id, had⟩
  · intro early handle late split
    -- the drawing is among the first uses or among those after them
    rcases List.append_eq_append_iff.mp split with ⟨rest, rfl, behind⟩ | ⟨rest, front, behind⟩
    · rcases second.draws rest handle late behind with new | ⟨old, there, had⟩
      · exact .inl (List.mem_append_right uses new)
      · rcases first.images old there handle had with new | ⟨older, there, _, had⟩
        · exact .inl (List.mem_append_left rest new)
        · exact .inr ⟨older, there, had⟩
    · cases rest with
      | nil =>
        rw [List.append_nil] at front
        subst front
        rcases second.draws [] handle late behind.symm with new | ⟨old, there, had⟩
        · cases new
        · rcases first.images old there handle had with new | ⟨older, there, _, had⟩
          · exact .inl new
          · exact .inr ⟨older, there, had⟩
      | cons use rest =>
        obtain ⟨rfl, _⟩ := List.cons.inj behind
        exact first.draws early handle rest front

theorem drawn (store : FigureStore) : Provenance (store.images.map .drawn) store store := by
  constructor
  · exact fun figure member _ has => .inr ⟨figure, member, rfl, has⟩
  · intro early handle late split
    have listed : .drawn handle ∈ store.images.map ImageUse.drawn := by
      rw [split]
      exact List.mem_append_right _ List.mem_cons_self
    obtain ⟨_, image, same⟩ := List.mem_map.mp listed
    cases same
    obtain ⟨figure, shown, has⟩ := List.mem_filterMap.mp image
    exact .inr ⟨figure, List.mem_of_mem_filter shown, has⟩

theorem edited (id : FigureId) {change : FigureEdit}
    (kept : ∀ figure : Figure, (figure.edit change).image = figure.image) :
    Provenance [] store (store.edit id change) := by
  apply of_same
  intro figure member handle has
  rcases FigureStore.mem_edit member with there | ⟨old, there, rfl⟩
  · exact ⟨figure, there, rfl, has⟩
  · exact ⟨old, there, (Figure.edit_id change old).symm, (kept old).symm.trans has⟩

theorem fitted (id : FigureId) {change : FigureEdit} {handle : ImageHandle}
    (sets : ∀ figure : Figure, (figure.edit change).image = some handle) :
    Provenance [.made handle] store (store.edit id change) := by
  constructor
  · intro figure member other has
    rcases FigureStore.mem_edit member with there | ⟨old, there, rfl⟩
    · exact .inr ⟨figure, there, rfl, has⟩
    · obtain rfl := Option.some.inj ((sets old).symm.trans has)
      exact .inl List.mem_cons_self
  · intro early other late split
    simp [List.singleton_eq_append_iff] at split

end Provenance

namespace Loading
variable {S : Type}

/-- What loads do to images: they hand out some, and the figures that get one get one of these. -/
def Fits (before after : Loading (Watched S)) : Prop :=
  ∃ made : List ImageHandle, before.surface.Goes (made.map .made) after.surface ∧
    Provenance (made.map .made) before.figures after.figures

theorem Fits.refl (st : Loading (Watched S)) : st.Fits st := ⟨[], .refl _, .refl _⟩

theorem Fits.trans {before middle after : Loading (Watched S)} (first : before.Fits middle)
    (second : middle.Fits after) : before.Fits after := by
  obtain ⟨made, goes, provenance⟩ := first
  obtain ⟨more, goesOn, further⟩ := second
  refine ⟨made ++ more, ?_, ?_⟩
  · rw [List.map_append]
    exact goes.trans goesOn
  · rw [List.map_append]
    exact provenance.trans further

theorem applyImage_image (image : ImageInfo) (figure : Figure) :
    (figure.edit (.applyImage image)).image = some image.handle := by
  simp only [Figure.edit, Figure.applyImage, Figure.snapHeight, Figure.snapWidth]
  split <;> split <;> rfl

variable [Surface S]

theorem load_goes (rules : LoadRules) (asset : String) (s : Watched S) :
    Watched.Goes ((load rules asset s).1.toOption.toList.map (.made ·.handle)) s
      (load rules asset s).2 := by
  unfold load
  split
  · exact .refl s
  · rfl

theorem standIn_fits (rules : LoadRules) (figure : Figure) (asset : String)
    (st : Loading (Watched S)) : st.Fits (standIn rules figure asset st) := by
  have goes : Watched.Goes ((Surface.solidImage (wholePixels figure.width)
      (wholePixels figure.height) rules.standIn st.surface).1.toOption.toList.map .made) st.surface
      (Surface.solidImage (wholePixels figure.width) (wholePixels figure.height) rules.standIn
        st.surface).2 := rfl
  unfold standIn
  split
  · rename_i handle surface made
    rw [made] at goes
    exact ⟨[handle], goes, .fitted figure.id fun _ => rfl⟩
  · rename_i e surface failed
    rw [failed] at goes
    exact ⟨[], goes, .refl st.figures⟩

theorem completeOne_fits (rules : LoadRules) (st : Loading (Watched S)) (request : LoadRequest) :
    st.Fits (completeOne rules st request) := by
  have reported (st' : Loading (Watched S)) (fits : st.Fits st') :
      st.Fits (st'.report request.kind (request.verdict rules st)) := by
    unfold Fits
    rwa [report_surface, report_figures]
  rw [completeOne_eq]
  apply reported
  have goes := load_goes rules request.asset st.surface
  unfold furnish
  split
  · exact .refl st
  · rename_i figure _
    split
    · rename_i image surface loaded
      rw [loaded] at goes
      exact ⟨[image.handle], goes, .fitted request.figure (applyImage_image image)⟩
    · rename_i e surface failed
      rw [failed] at goes
      have before : st.Fits (note (.imageFailed request.asset e) { st with surface := surface }) :=
        ⟨[], goes, .refl st.figures⟩
      exact before.trans (standIn_fits rules figure request.asset _)

theorem complete_fits (rules : LoadRules) (requests : List LoadRequest)
    (st : Loading (Watched S)) : st.Fits (complete rules requests st) := by
  induction requests generalizing st with
  | nil => exact .refl st
  | cons request rest ih => exact (completeOne_fits rules st request).trans (ih _)

end Loading
end SpriteStage
