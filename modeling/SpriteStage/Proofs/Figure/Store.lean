import Mathlib.Data.List.Basic
import SpriteStage.Asset.Loading

namespace SpriteStage

theorem Figure.edit_id (change : FigureEdit) (figure : Figure) :
    (figure.edit change).id = figure.id := by
  have snapped (image : ImageInfo) : (figure.applyImage image).id = figure.id := by
    unfold Figure.applyImage Figure.snapHeight Figure.snapWidth
    split <;> split <;> rfl
  cases change with
  | applyImage image => exact snapped image
  | _ => rfl

namespace FigureStore

def ids (store : FigureStore) : List FigureId := store.figures.map (·.id)

@[simp] theorem create_ids (store : FigureStore) (width height : Float32) :
    (store.create width height).2.ids = store.ids ++ [max store.nextId 1] := by
  simp [create, ids, Figure.new]

@[simp] theorem edit_ids (store : FigureStore) (id : FigureId) (change : FigureEdit) :
    (store.edit id change).ids = store.ids := by
  have modified (figures : List Figure) :
      (modifyFirst id (Figure.edit change) figures).map (·.id) = figures.map (·.id) := by
    induction figures with
    | nil => rfl
    | cons figure rest ih =>
      rw [modifyFirst]
      split
      · simp [Figure.edit_id]
      · simp [ih]
  exact modified store.figures

@[simp] theorem remove_ids (store : FigureStore) (id : FigureId) :
    (store.remove id).ids = store.ids.erase id := by
  have removed (figures : List Figure) :
      (figures.eraseP (·.id = id)).map (·.id) = (figures.map (·.id)).erase id := by
    induction figures with
    | nil => rfl
    | cons figure rest ih =>
      by_cases same : figure.id = id
      · simp [same]
      · simp [same, ih]
  exact removed store.figures

theorem mem_edit {store : FigureStore} {id : FigureId} {change : FigureEdit} {figure : Figure}
    (member : figure ∈ (store.edit id change).figures) :
    figure ∈ store.figures ∨ ∃ old ∈ store.figures, figure = old.edit change := by
  have modified (figures : List Figure)
      (member : figure ∈ modifyFirst id (Figure.edit change) figures) :
      figure ∈ figures ∨ ∃ old ∈ figures, figure = old.edit change := by
    induction figures with
    | nil => cases member
    | cons first rest ih =>
      rw [modifyFirst] at member
      split at member
      · rcases List.mem_cons.mp member with same | behind
        · exact .inr ⟨first, List.mem_cons_self, same⟩
        · exact .inl (List.mem_cons_of_mem _ behind)
      · rcases List.mem_cons.mp member with same | behind
        · exact .inl (same ▸ List.mem_cons_self)
        · rcases ih behind with there | ⟨old, there, same⟩
          · exact .inl (List.mem_cons_of_mem _ there)
          · exact .inr ⟨old, List.mem_cons_of_mem _ there, same⟩
  exact modified store.figures member

/-- The images of the visible figures that have one, in the order of their creation. -/
def images (store : FigureStore) : List ImageHandle :=
  (store.figures.filter (·.visible)).filterMap (·.image)

theorem contains_iff (store : FigureStore) (id : FigureId) :
    store.contains id ↔ id ∈ store.ids := by
  simp [contains, get?, ids]

theorem touching_iff (store : FigureStore) (a b : FigureId) : store.touching a b ↔
    ∃ first second, store.get? a = some first ∧ store.get? b = some second ∧
      first.bounds.overlaps second.bounds := by
  unfold touching
  split
  · simp [*]
  · rename_i absent
    simp only [Bool.false_eq_true, false_iff, not_exists]
    rintro first second ⟨hasFirst, hasSecond, _⟩
    exact absent first second hasFirst hasSecond

theorem touching_ids {store : FigureStore} {a b : FigureId} (touches : store.touching a b) :
    a ∈ store.ids ∧ b ∈ store.ids := by
  obtain ⟨first, second, hasFirst, hasSecond, _⟩ := (touching_iff store a b).mp touches
  have there {id : FigureId} {figure : Figure} (found : store.get? id = some figure) :
      id ∈ store.ids := (contains_iff store id).mp (by simp [contains, found])
  exact ⟨there hasFirst, there hasSecond⟩

section Distinct
variable {store : FigureStore}

def others (store : FigureStore) (id : FigureId) : List Figure := store.figures.filter (·.id ≠ id)

def edited (store : FigureStore) (id : FigureId) (change : FigureEdit) : List Figure :=
  store.figures.map fun figure => if figure.id = id then figure.edit change else figure

theorem first_apart {figure : Figure} {rest : List Figure}
    (distinct : ((figure :: rest).map (·.id)).Nodup) :
    (∀ other ∈ rest, other.id ≠ figure.id) ∧ (rest.map (·.id)).Nodup := by
  obtain ⟨apart, distinct⟩ := List.nodup_cons.mp distinct
  exact ⟨fun other member same => apart (List.mem_map.mpr ⟨other, member, same⟩), distinct⟩

theorem edit_distinct (distinct : store.ids.Nodup) (id : FigureId) (change : FigureEdit) :
    (store.edit id change).figures = store.edited id change := by
  have modified (figures : List Figure) (distinct : (figures.map (·.id)).Nodup) :
      modifyFirst id (Figure.edit change) figures =
        figures.map fun figure => if figure.id = id then figure.edit change else figure := by
    induction figures with
    | nil => rfl
    | cons figure rest ih =>
      obtain ⟨apart, distinct⟩ := first_apart distinct
      rw [modifyFirst, List.map_cons]
      split
      · rename_i same
        subst id
        have untouched : ∀ other ∈ rest,
            (if other.id = figure.id then other.edit change else other) = other :=
          fun other member => if_neg (apart other member)
        rw [List.map_congr_left untouched, List.map_id']
      · rw [ih distinct]
  exact modified store.figures distinct

theorem remove_distinct (distinct : store.ids.Nodup) (id : FigureId) :
    (store.remove id).figures = store.others id := by
  have removed (figures : List Figure) (distinct : (figures.map (·.id)).Nodup) :
      figures.eraseP (·.id = id) = figures.filter (·.id ≠ id) := by
    induction figures with
    | nil => rfl
    | cons figure rest ih =>
      obtain ⟨apart, distinct⟩ := first_apart distinct
      by_cases same : figure.id = id
      · subst id
        have kept : rest.filter (·.id ≠ figure.id) = rest :=
          List.filter_eq_self.mpr fun other member => by simpa using apart other member
        rw [List.eraseP_cons_of_pos (by simp), List.filter_cons_of_neg (by simp), kept]
      · rw [List.eraseP_cons_of_neg (by simpa using same),
          List.filter_cons_of_pos (by simpa using same), ih distinct]
  exact removed store.figures distinct

theorem not_contains {id : FigureId} (absent : id ∉ store.ids) : store.contains id = false :=
  Bool.eq_false_iff.mpr fun there => absent ((contains_iff store id).mp there)

theorem others_edit (store : FigureStore) (id : FigureId) (change : FigureEdit) :
    (store.edit id change).others id = store.others id := by
  have modified (figures : List Figure) :
      (modifyFirst id (Figure.edit change) figures).filter (·.id ≠ id) =
        figures.filter (·.id ≠ id) := by
    induction figures with
    | nil => rfl
    | cons figure rest ih =>
      rw [modifyFirst]
      by_cases same : figure.id = id
      · have edited : (figure.edit change).id = id := (Figure.edit_id change figure).trans same
        rw [if_pos same, List.filter_cons_of_neg (by simpa using edited),
          List.filter_cons_of_neg (by simpa using same)]
      · rw [if_neg same, List.filter_cons_of_pos (by simpa using same),
          List.filter_cons_of_pos (by simpa using same), ih]
  exact modified store.figures

end Distinct

end FigureStore

namespace Loading
variable {S : Type} [Surface S]

theorem completeOne_figures (rules : LoadRules) (st : Loading S) (request : LoadRequest) :
    (completeOne rules st request).figures.ids = st.figures.ids ∧
      (completeOne rules st request).figures.nextId = st.figures.nextId := by
  have reported (kind : LoadKind) (outcome : Settled) (st : Loading S) :
      (st.report kind outcome).figures = st.figures := by
    cases kind <;> rfl
  unfold completeOne
  split
  · simp [reported]
  · split
    · simp only [reported, FigureStore.edit_ids, true_and]
      rfl
    · rw [reported]
      unfold standIn
      split
      · simp only [FigureStore.edit_ids]
        exact ⟨rfl, rfl⟩
      · exact ⟨rfl, rfl⟩

theorem complete_figures (rules : LoadRules) (requests : List LoadRequest) (st : Loading S) :
    (complete rules requests st).figures.ids = st.figures.ids ∧
      (complete rules requests st).figures.nextId = st.figures.nextId := by
  induction requests generalizing st with
  | nil => exact ⟨rfl, rfl⟩
  | cons request rest ih =>
    obtain ⟨ids, nextId⟩ := completeOne_figures rules st request
    obtain ⟨restIds, restNext⟩ := ih (completeOne rules st request)
    exact ⟨restIds.trans ids, restNext.trans nextId⟩

end Loading
end SpriteStage
