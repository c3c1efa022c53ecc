import Mathlib.Data.List.Induction
import Mathlib.Data.List.Nodup
import SpriteStage.Proofs.Figure.Store

namespace SpriteStage

inductive StoreCall where
  | create (width height : Float32)
  | get (id : FigureId)
  | edit (id : FigureId) (change : FigureEdit)
  | contains (id : FigureId)
  | remove (id : FigureId)
  | clear
  | list

inductive StoreReply where
  | made (id : FigureId)
  | figure (found : Option Figure)
  | whether (there : Bool)
  | figures (all : List Figure)
  | done

def StoreReply.made? : StoreReply → Option FigureId
  | .made id => some id
  | _ => none

namespace StoreCall

def isCreate : StoreCall → Bool
  | .create .. => true
  | _ => false

def drops (id : FigureId) : StoreCall → Bool
  | .remove removed => removed = id
  | .clear => true
  | _ => false

/-- What the call makes of a figure that it does not take out. -/
def shape (figure : Figure) : StoreCall → Figure
  | .edit id change => if figure.id = id then figure.edit change else figure
  | _ => figure

def creations (calls : List StoreCall) : Nat := calls.countP isCreate

/-- The figure was made by one of the calls, none of the later ones took it out, and it is what they
have made of it. Its id is its place among all that were made. -/
def Lives (calls : List StoreCall) (figure : Figure) : Prop :=
  ∃ before width height later, calls = before ++ .create width height :: later ∧
    (∀ call ∈ later, call.drops (creations before + 1) = false) ∧
    figure = later.foldl shape (.new (creations before + 1) width height)

end StoreCall

namespace FigureStore

/-- What a call gives back. Whoever wants to change a figure is given the figure first. -/
def answer (store : FigureStore) : StoreCall → StoreReply
  | .create width height => .made (store.create width height).1
  | .get id | .edit id _ => .figure (store.get? id)
  | .contains id | .remove id => .whether (store.contains id)
  | .clear => .done
  | .list => .figures store.figures

def serve (store : FigureStore) : StoreCall → FigureStore
  | .create width height => (store.create width height).2
  | .edit id change => store.edit id change
  | .remove id => store.remove id
  | .clear => store.clear
  | .get _ | .contains _ | .list => store

def after (store : FigureStore) (calls : List StoreCall) : FigureStore := calls.foldl serve store

def answers : FigureStore → List StoreCall → List StoreReply
  | _, [] => []
  | store, call :: calls => store.answer call :: (store.serve call).answers calls

@[simp] theorem after_nil (store : FigureStore) : store.after [] = store := rfl

@[simp] theorem after_concat (store : FigureStore) (calls : List StoreCall) (call : StoreCall) :
    store.after (calls ++ [call]) = (store.after calls).serve call := by
  simp [after]

theorem answers_concat (store : FigureStore) (calls : List StoreCall) (call : StoreCall) :
    store.answers (calls ++ [call]) = store.answers calls ++ [(store.after calls).answer call] := by
  induction calls generalizing store with
  | nil => rfl
  | cons first rest ih => exact congrArg (_ :: ·) (ih (store.serve first))

end FigureStore

namespace StoreCall
variable {call : StoreCall} {calls : List StoreCall} {figure : Figure}

@[simp] theorem shape_id (figure : Figure) (call : StoreCall) :
    (shape figure call).id = figure.id := by
  unfold shape
  split
  · split
    · exact Figure.edit_id _ _
    · rfl
  · rfl

@[simp] theorem foldl_shape_id (calls : List StoreCall) (figure : Figure) :
    (calls.foldl shape figure).id = figure.id := by
  induction calls generalizing figure with
  | nil => rfl
  | cons call rest ih => exact (ih _).trans (shape_id figure call)

theorem creations_concat (calls : List StoreCall) (call : StoreCall) :
    creations (calls ++ [call]) = creations calls + if call.isCreate then 1 else 0 := by
  simp [creations, List.countP_append, List.countP_cons]

/-- The last call makes a figure, or leaves one that was there and shapes it. -/
theorem lives_concat : Lives (calls ++ [call]) figure ↔
    (∃ width height, call = .create width height ∧
      figure = .new (creations calls + 1) width height) ∨
    ∃ old, Lives calls old ∧ call.drops old.id = false ∧ figure = shape old call := by
  constructor
  · rintro ⟨before, width, height, later, split, stays, rfl⟩
    cases later using List.reverseRecOn with
    | nil =>
      obtain ⟨rfl, same⟩ := List.append_inj' split rfl
      exact .inl ⟨width, height, List.singleton_inj.mp same, rfl⟩
    | append_singleton later last =>
      rw [← List.cons_append, ← List.append_assoc] at split
      obtain ⟨rfl, same⟩ := List.append_inj' split rfl
      obtain rfl := List.singleton_inj.mp same
      rw [List.forall_mem_append, List.forall_mem_singleton] at stays
      refine .inr ⟨_, ⟨before, width, height, later, rfl, stays.1, rfl⟩, ?_, ?_⟩
      · rw [foldl_shape_id]
        exact stays.2
      · rw [List.foldl_append]
        rfl
  · rintro (⟨width, height, rfl, rfl⟩ | ⟨old, ⟨before, width, height, later, rfl, stays, rfl⟩,
      kept, rfl⟩)
    · exact ⟨calls, width, height, [], rfl, by simp, rfl⟩
    · rw [foldl_shape_id] at kept
      refine ⟨before, width, height, later ++ [call], by simp, ?_, ?_⟩
      · rw [List.forall_mem_append, List.forall_mem_singleton]
        exact ⟨stays, kept⟩
      · rw [List.foldl_append]
        rfl

end StoreCall

namespace FigureStore
open StoreCall
variable {store : FigureStore} {call : StoreCall} {calls : List StoreCall}

theorem mem_serve (distinct : store.ids.Nodup) (call : StoreCall) (figure : Figure) :
    figure ∈ (store.serve call).figures ↔
      (∃ width height, call = .create width height ∧
        figure = .new (max store.nextId 1) width height) ∨
      ∃ old ∈ store.figures, call.drops old.id = false ∧ figure = shape old call := by
  cases call with
  | create width height => simp [serve, create, shape, drops, or_comm]
  | edit id change =>
    rw [serve, edit_distinct distinct]
    simp [edited, shape, drops, @eq_comm _ figure]
  | remove id =>
    rw [serve, remove_distinct distinct]
    simp [others, shape, drops, @eq_comm _ id]
  | clear => simp [serve, clear, drops]
  | get | contains | list => simp [serve, shape, drops]

structure Follows (calls : List StoreCall) (store : FigureStore) : Prop where
  lists : ∀ figure, figure ∈ store.figures ↔ Lives calls figure
  increasing : store.ids.Pairwise (· < ·)
  between : ∀ id ∈ store.ids, 1 ≤ id ∧ id ≤ creations calls
  next : max store.nextId 1 = creations calls + 1

theorem Follows.distinct (follows : store.Follows calls) : store.ids.Nodup :=
  follows.increasing.imp Nat.ne_of_lt

theorem Follows.serve (follows : store.Follows calls) (call : StoreCall) :
    (store.serve call).Follows (calls ++ [call]) := by
  refine ⟨fun figure => ?_, ?_, ?_, ?_⟩
  · rw [mem_serve follows.distinct, lives_concat, follows.next]
    simp only [follows.lists]
  · cases call with
    | create width height =>
      rw [FigureStore.serve, create_ids, List.pairwise_append, follows.next]
      refine ⟨follows.increasing, List.pairwise_singleton _ _, fun id member new same => ?_⟩
      rw [List.mem_singleton.mp same]
      exact Nat.lt_succ_of_le (follows.between id member).2
    | edit id change => simpa [FigureStore.serve] using follows.increasing
    | remove id => simpa [FigureStore.serve] using follows.increasing.sublist List.erase_sublist
    | clear => exact List.Pairwise.nil
    | get | contains | list => exact follows.increasing
  · intro id member
    rw [creations_concat]
    cases call with
    | create width height =>
      rw [FigureStore.serve, create_ids, List.mem_append, List.mem_singleton,
        follows.next] at member
      rcases member with old | rfl
      · exact (follows.between id old).imp_right Nat.le_succ_of_le
      · exact ⟨Nat.le_add_left 1 _, Nat.le_refl _⟩
    | edit edited change => exact follows.between id (by simpa [FigureStore.serve] using member)
    | remove removed =>
      rw [FigureStore.serve, remove_ids] at member
      exact follows.between id (List.mem_of_mem_erase member)
    | clear => simp [FigureStore.serve, FigureStore.clear, ids] at member
    | get | contains | list => exact follows.between id member
  · rw [creations_concat]
    cases call with
    | create width height => simp [FigureStore.serve, create, follows.next, isCreate]
    | edit | remove | clear | get | contains | list => exact follows.next

theorem follows_after {start : FigureStore} (vacant : start.figures = [])
    (first : max start.nextId 1 = 1) (calls : List StoreCall) :
    (start.after calls).Follows calls := by
  induction calls using List.reverseRecOn with
  | nil => exact ⟨by simp [vacant, Lives], by simp [ids, vacant], by simp [ids, vacant], first⟩
  | append_singleton calls call before => exact after_concat start calls call ▸ before.serve call

/-- The creations are numbered from one on. -/
theorem answers_made {start : FigureStore} (vacant : start.figures = [])
    (first : max start.nextId 1 = 1) (calls : List StoreCall) :
    (start.answers calls).filterMap (·.made?) = List.range' 1 (creations calls) := by
  induction calls using List.reverseRecOn with
  | nil => rfl
  | append_singleton calls call before =>
    rw [answers_concat, List.filterMap_append, before, creations_concat]
    cases call with
    | create width height =>
      have next := (follows_after vacant first calls).next
      rw [isCreate, if_pos rfl, List.range'_1_concat]
      simp [answer, create, StoreReply.made?, next, Nat.add_comm]
    | edit | remove | clear | get | contains | list => simp [answer, StoreReply.made?, isCreate]

section Alike
variable {other : FigureStore}

/-- Two stores that differ at most in whether their counter was set up. -/
structure Alike (store other : FigureStore) : Prop where
  figures : store.figures = other.figures
  next : max store.nextId 1 = max other.nextId 1

theorem Alike.answer (alike : store.Alike other) (call : StoreCall) :
    store.answer call = other.answer call := by
  cases call <;> simp [FigureStore.answer, create, get?, contains, alike.figures, alike.next]

theorem Alike.serve (alike : store.Alike other) (call : StoreCall) :
    (store.serve call).Alike (other.serve call) := by
  cases call with
  | create width height =>
    exact ⟨by simp [FigureStore.serve, create, alike.figures, alike.next],
      by simp [FigureStore.serve, create, alike.next]⟩
  | edit id change =>
    exact ⟨congrArg (modifyFirst id (Figure.edit change)) alike.figures, alike.next⟩
  | remove id =>
    exact ⟨congrArg (List.eraseP fun figure : Figure => figure.id = id) alike.figures, alike.next⟩
  | clear => exact ⟨rfl, alike.next⟩
  | get | contains | list => exact alike

theorem Alike.answers (alike : store.Alike other) (calls : List StoreCall) :
    store.answers calls = other.answers calls := by
  induction calls generalizing store other with
  | nil => rfl
  | cons call rest ih =>
    rw [FigureStore.answers, FigureStore.answers, alike.answer call, ih (alike.serve call)]

end Alike

/-- The store is a map from ids to figures that keeps the order of their creation. -/
structure OrderedMap (calls : List StoreCall) (store : FigureStore) : Prop where
  lists : ∀ figure, figure ∈ store.figures ↔ Lives calls figure
  increasing : store.ids.Pairwise (· < ·)
  between : ∀ id ∈ store.ids, 1 ≤ id ∧ id ≤ creations calls
  gets : ∀ id figure, store.get? id = some figure ↔ figure ∈ store.figures ∧ figure.id = id
  contains : ∀ id, store.contains id ↔ ∃ figure ∈ store.figures, figure.id = id
  edits : ∀ id change, (store.edit id change).figures = store.edited id change
  removes : ∀ id, (store.remove id).figures = store.others id
  fits : creations calls < UInt64.size - 1 → store.nextId < UInt64.size

theorem get?_distinct (distinct : store.ids.Nodup) (id : FigureId) (figure : Figure) :
    store.get? id = some figure ↔ figure ∈ store.figures ∧ figure.id = id := by
  have sound {found : Figure} (get : store.get? id = some found) :
      found ∈ store.figures ∧ found.id = id :=
    ⟨List.mem_of_find?_eq_some get, by simpa using List.find?_some get⟩
  refine ⟨sound, fun ⟨member, same⟩ => ?_⟩
  have there : store.contains id :=
    (contains_iff store id).mpr (List.mem_map.mpr ⟨figure, member, same⟩)
  obtain ⟨found, get⟩ := Option.isSome_iff_exists.mp there
  have only := List.inj_on_of_nodup_map distinct (sound get).1 member
    ((sound get).2.trans same.symm)
  exact only ▸ get

theorem Follows.orderedMap (follows : store.Follows calls) : store.OrderedMap calls where
  lists := follows.lists
  increasing := follows.increasing
  between := follows.between
  gets := get?_distinct follows.distinct
  contains id := by simp [contains_iff, ids]
  edits := edit_distinct follows.distinct
  removes := remove_distinct follows.distinct
  fits few := by
    have next := follows.next
    have room : 0 < UInt64.size := by decide
    omega

/-- After any calls the store lists the figures that live, each under the number of its creation,
whether or not its counter was set up. -/
theorem map_of_living_figures (start : FigureStore) (fresh : start ∈ [.empty, .blank])
    (calls : List StoreCall) :
    (start.after calls).OrderedMap calls ∧
    (start.answers calls).filterMap (·.made?) = List.range' 1 (creations calls) ∧
    start.answers calls = empty.answers calls := by
  have alike : start.Alike .empty := by
    rcases List.mem_pair.mp fresh with rfl | rfl <;> exact ⟨rfl, rfl⟩
  exact ⟨(follows_after alike.figures alike.next calls).orderedMap,
    answers_made alike.figures alike.next calls, alike.answers calls⟩

/-- The counter was never set up, a figure is removed, and all are cleared. -/
theorem blank_store_counts_on :
    let calls : List StoreCall := [.create 1 1, .create 2 2, .remove 1, .edit 2 (.moveTo 3 4),
      .clear, .create 5 5]
    (blank.after calls).OrderedMap calls ∧
    (blank.answers calls).filterMap (·.made?) = [1, 2, 3] ∧
    blank.answers calls = empty.answers calls :=
  map_of_living_figures .blank (by decide) _

end FigureStore
end SpriteStage
