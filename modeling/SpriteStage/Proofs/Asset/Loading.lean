import SpriteStage.Proofs.Deferred.Board
import SpriteStage.Proofs.Figure.Store
import SpriteStage.Proofs.Surface.Alike

namespace SpriteStage

/-- A surface with a record of the calls that make images on it. -/
structure Overheard (S : Type) where
  surface : S
  heard : List SurfaceCall

instance {S : Type} [Surface S] : Surface (Overheard S) where
  size s := Surface.size s.surface
  loadImage path := fun s =>
    let (result, surface) := Surface.loadImage path s.surface
    (result, ⟨surface, s.heard ++ [.load path]⟩)
  solidImage width height colour := fun s =>
    let (result, surface) := Surface.solidImage width height colour s.surface
    (result, ⟨surface, s.heard ++ [.solid width height colour]⟩)
  paint shape := fun s =>
    let (result, surface) := Surface.paint shape s.surface
    (result, { s with surface := surface })
  paintText text x y colour size := fun s =>
    let (result, surface) := Surface.paintText text x y colour size s.surface
    (result, { s with surface := surface })
  textWidth s := Surface.textWidth s.surface
  pose change s := { s with surface := Surface.pose change s.surface }
  present s := { s with surface := Surface.present s.surface }

def SurfaceCall.loaded? : SurfaceCall → Option String
  | .load path => some path
  | _ => none

theorem solid_overheard {S : Type} [Surface S] (heard : List SurfaceCall) (width height : UInt32)
    (colour : Colour) (surface : S) :
    Surface.solidImage width height colour (⟨surface, heard⟩ : Overheard S) =
      ((Surface.solidImage width height colour surface).1,
        ⟨(Surface.solidImage width height colour surface).2,
          heard ++ [.solid width height colour]⟩) := rfl

namespace FigureStore

theorem get?_edit (store : FigureStore) (id : FigureId) (change : FigureEdit) :
    (store.edit id change).get? id = (store.get? id).map (·.edit change) := by
  have modified (figures : List Figure) :
      (modifyFirst id (Figure.edit change) figures).find? (·.id = id) =
        (figures.find? (·.id = id)).map (·.edit change) := by
    induction figures with
    | nil => rfl
    | cons figure rest ih =>
      rw [modifyFirst]
      by_cases same : figure.id = id
      · rw [if_pos same, List.find?_cons_of_pos (by simp [Figure.edit_id, same]),
          List.find?_cons_of_pos (by simp [same])]
        rfl
      · rw [if_neg same, List.find?_cons_of_neg (by simp [same]),
          List.find?_cons_of_neg (by simp [same]), ih]
  exact modified store.figures

theorem get?_edit_other (store : FigureStore) {id other : FigureId} (change : FigureEdit)
    (different : other ≠ id) : (store.edit id change).get? other = store.get? other := by
  have modified (figures : List Figure) :
      (modifyFirst id (Figure.edit change) figures).find? (·.id = other) =
        figures.find? (·.id = other) := by
    induction figures with
    | nil => rfl
    | cons figure rest ih =>
      rw [modifyFirst]
      by_cases same : figure.id = id
      · have missed : figure.id ≠ other := same ▸ different.symm
        rw [if_pos same, List.find?_cons_of_neg (by simp [Figure.edit_id, missed]),
          List.find?_cons_of_neg (by simp [missed])]
      · rw [if_neg same, List.find?_cons, List.find?_cons, ih]
  exact modified store.figures

theorem edit_elsewhere (store : FigureStore) (id : FigureId) (change : FigureEdit) {place : Nat}
    {figure : Figure} (there : store.figures[place]? = some figure) (other : figure.id ≠ id) :
    (store.edit id change).figures[place]? = some figure := by
  have modified (figures : List Figure) (place : Nat) (there : figures[place]? = some figure) :
      (modifyFirst id (Figure.edit change) figures)[place]? = some figure := by
    induction figures generalizing place with
    | nil => cases there
    | cons first rest ih =>
      rw [modifyFirst]
      cases place with
      | zero =>
        obtain rfl : first = figure := by simpa using there
        simp [other]
      | succ place =>
        have behind : rest[place]? = some figure := by simpa using there
        split
        · simpa using behind
        · simpa using ih place behind
  exact modified store.figures place there

end FigureStore

/-- The value that is settled with a load. -/
def LoadKind.done? : LoadKind → Option DeferredId
  | .create => none
  | .swap done => some done

theorem LoadKind.swap_of_done {kind : LoadKind} {done : DeferredId}
    (swaps : kind.done? = some done) : kind = .swap done := by
  cases kind with
  | create => cases swaps
  | swap other => exact congrArg LoadKind.swap (Option.some.inj swaps)

namespace LoadRequest
variable {S : Type} [Surface S]

def result (rules : LoadRules) (st : Loading S) (request : LoadRequest) :
    Except AssetError ImageInfo := do
  let _ ← (st.figures.get? request.figure).elim (.error (.missingFigure request.figure)) .ok
  let path ← rules.resolver.resolve rules.present request.asset
  (Surface.loadImage path st.surface).1

/-- What a script is told of a load. -/
def verdict (rules : LoadRules) (st : Loading S) (request : LoadRequest) : Settled :=
  match request.result rules st with
  | .ok _ => .fulfilled .unit
  | .error e => .rejected (.asset e)

def standIn (rules : LoadRules) (st : Loading S) (request : LoadRequest) (figure : Figure) :
    Except AssetError ImageHandle :=
  (Surface.solidImage (Loading.wholePixels figure.width) (Loading.wholePixels figure.height)
    rules.standIn (Loading.load rules request.asset st.surface).2).1

def calls (rules : LoadRules) (st : Loading S) (request : LoadRequest) : List SurfaceCall :=
  match st.figures.get? request.figure with
  | none => []
  | some figure =>
    let load := (rules.resolver.resolve rules.present request.asset).toOption.map SurfaceCall.load
    let standIn := SurfaceCall.solid (Loading.wholePixels figure.width)
      (Loading.wholePixels figure.height) rules.standIn
    load.toList ++ if (request.result rules st).isOk then [] else [standIn]

end LoadRequest

namespace Loading
variable {S : Type} [Surface S]

/-- The same loads on a surface whose calls are written down. -/
def overheard (heard : List SurfaceCall) (st : Loading S) : Loading (Overheard S) where
  figures := st.figures
  board := st.board
  surface := ⟨st.surface, heard⟩
  notices := st.notices
  applied := st.applied

/-- One load is completed. -/
structure Completion (rules : LoadRules) (request : LoadRequest) (before after : Loading S) :
    Prop where
  told : ∀ done, request.kind = .swap done → before.board.slots[done]? = some .pending →
    after.board.state done = request.verdict rules before
  board : before.board.Settles request.kind.done?.toList after.board
  applied : ∀ image figure, request.result rules before = .ok image →
    before.figures.get? request.figure = some figure →
    after.figures.get? request.figure = some (figure.applyImage image)
  /-- A figure that does not get its image gets the stand-in, or keeps the image that it had. It
  stays as it is otherwise, its sizes and their sources included. -/
  stoodIn : ∀ error figure, request.result rules before = .error error →
    before.figures.get? request.figure = some figure →
    after.figures.get? request.figure = some { figure with
      image := match request.standIn rules before figure with
        | .ok handle => some handle
        | .error _ => figure.image }
  missing : before.figures.get? request.figure = none → after.figures = before.figures
  elsewhere : ∀ (place : Nat) (figure : Figure), before.figures.figures[place]? = some figure →
    figure.id ≠ request.figure → after.figures.figures[place]? = some figure
  ids : after.figures.ids = before.figures.ids
  nextId : after.figures.nextId = before.figures.nextId
  calls : ∀ heard, completeOne rules (before.overheard heard) request =
    after.overheard (heard ++ request.calls rules before)
  loads : (request.calls rules before).filterMap (·.loaded?) =
    if before.figures.contains request.figure then
      (rules.resolver.resolve rules.present request.asset).toOption.toList
    else []

section Report
omit [Surface S]
variable (kind : LoadKind) (outcome : Settled) (st : Loading S)

@[simp] theorem report_figures : (st.report kind outcome).figures = st.figures := by
  cases kind <;> rfl

@[simp] theorem report_surface : (st.report kind outcome).surface = st.surface := by
  cases kind <;> rfl

theorem report_overheard (heard : List SurfaceCall) :
    (st.report kind outcome).overheard heard = (st.overheard heard).report kind outcome := by
  cases kind <;> rfl

theorem report_board : st.board.Settles kind.done?.toList (st.report kind outcome).board := by
  cases kind with
  | create => exact .refl _ st.board
  | swap done => exact .settle st.board done outcome

end Report

section Completion
variable (rules : LoadRules) (request : LoadRequest) (st : Loading S)

/-- A load without the report on it: the figure gets its image or the stand-in. -/
def furnish : Loading S :=
  match st.figures.get? request.figure with
  | none => st
  | some figure =>
    match load rules request.asset st.surface with
    | (.ok image, surface) =>
      { st with
        surface := surface
        figures := st.figures.edit request.figure (.applyImage image)
        applied := st.applied ++ [(request.figure, image)] }
    | (.error e, surface) =>
      standIn rules figure request.asset
        (note (.imageFailed request.asset e) { st with surface := surface })

variable {rules request st}

theorem result_missing (missing : st.figures.get? request.figure = none) :
    request.result rules st = .error (.missingFigure request.figure) := by
  rw [LoadRequest.result, missing]
  rfl

theorem result_present {figure : Figure} (present : st.figures.get? request.figure = some figure) :
    request.result rules st = (load rules request.asset st.surface).1 := by
  rw [LoadRequest.result, present, load]
  cases rules.resolver.resolve rules.present request.asset with
  | error e => rfl
  | ok path => rfl

variable (rules request st)

theorem completeOne_eq : completeOne rules st request =
    (furnish rules request st).report request.kind (request.verdict rules st) := by
  cases found : st.figures.get? request.figure with
  | none => simp only [completeOne, furnish, LoadRequest.verdict, result_missing found, found]
  | some figure =>
    simp only [completeOne, furnish, LoadRequest.verdict, result_present found, found]
    cases load rules request.asset st.surface with
    | mk result surface =>
      cases result with
      | ok image => rfl
      | error e => rfl

theorem standIn_frame (figure : Figure) (asset : String) : ∃ figures surface notices,
    standIn rules figure asset st =
      { st with figures := figures, surface := surface, notices := notices } := by
  unfold standIn
  split
  · exact ⟨_, _, _, rfl⟩
  · exact ⟨_, _, _, rfl⟩

@[simp] theorem furnish_board : (furnish rules request st).board = st.board := by
  unfold furnish
  split
  · rfl
  · rename_i figure _
    split
    · rfl
    · rename_i e surface _
      obtain ⟨figures, surface, notices, same⟩ := standIn_frame rules
        (note (.imageFailed request.asset e) { st with surface := surface }) figure request.asset
      rw [same]
      rfl

variable {rules request st}

theorem furnish_missing (missing : st.figures.get? request.figure = none) :
    furnish rules request st = st := by
  rw [furnish, missing]

theorem furnish_applied {figure : Figure} {image : ImageInfo}
    (present : st.figures.get? request.figure = some figure)
    (loaded : request.result rules st = .ok image) : (furnish rules request st).figures =
      st.figures.edit request.figure (.applyImage image) := by
  rw [result_present present] at loaded
  rw [furnish, present]
  dsimp only
  split
  · rename_i other surface same
    rw [same] at loaded
    cases loaded
    rfl
  · rename_i e surface same
    rw [same] at loaded
    cases loaded

theorem furnish_stoodIn {figure : Figure} {error : AssetError}
    (present : st.figures.get? request.figure = some figure)
    (failed : request.result rules st = .error error) : (furnish rules request st).figures =
      match request.standIn rules st figure with
      | .ok handle => st.figures.edit request.figure (.setImage (some handle))
      | .error _ => st.figures := by
  have id : figure.id = request.figure := by simpa using List.find?_some present
  rw [result_present present] at failed
  rw [furnish, present, LoadRequest.standIn]
  dsimp only
  split
  · rename_i image surface same
    rw [same] at failed
    cases failed
  · rename_i e surface same
    rw [same, standIn]
    split
    · rename_i handle surface' made
      simp only [note] at made ⊢
      rw [made, id]
    · rename_i e' surface' made
      simp only [note] at made ⊢
      rw [made]

variable (rules request st)

theorem furnish_edits : (furnish rules request st).figures = st.figures ∨
    ∃ change, (furnish rules request st).figures = st.figures.edit request.figure change := by
  cases found : st.figures.get? request.figure with
  | none => exact .inl (congrArg figures (furnish_missing found))
  | some figure =>
    cases ended : request.result rules st with
    | ok image => exact .inr ⟨_, furnish_applied found ended⟩
    | error e =>
      have edited := furnish_stoodIn found ended
      cases made : request.standIn rules st figure with
      | ok handle => exact .inr ⟨_, by rw [edited, made]⟩
      | error e => exact .inl (by rw [edited, made])

theorem load_overheard (heard : List SurfaceCall) (asset : String) (surface : S) :
    load rules asset (⟨surface, heard⟩ : Overheard S) =
      ((load rules asset surface).1, ⟨(load rules asset surface).2, heard ++
        ((rules.resolver.resolve rules.present asset).toOption.map SurfaceCall.load).toList⟩) := by
  unfold load
  cases rules.resolver.resolve rules.present asset with
  | error e => simp [Except.toOption]
  | ok path => rfl

theorem standIn_overheard (heard : List SurfaceCall) (figure : Figure) (asset : String) :
    standIn rules figure asset (st.overheard heard) =
      (standIn rules figure asset st).overheard (heard ++
        [.solid (wholePixels figure.width) (wholePixels figure.height) rules.standIn]) := by
  have asked := solid_overheard heard (wholePixels figure.width) (wholePixels figure.height)
    rules.standIn st.surface
  unfold standIn overheard
  rw [asked]
  cases Surface.solidImage (wholePixels figure.width) (wholePixels figure.height) rules.standIn
      st.surface with
  | mk result surface =>
    cases result with
    | ok handle => rfl
    | error e => rfl

theorem result_overheard (heard : List SurfaceCall) :
    request.result rules (st.overheard heard) = request.result rules st := by
  cases found : st.figures.get? request.figure with
  | none =>
    have missing : (st.overheard heard).figures.get? request.figure = none := found
    rw [result_missing found, result_missing missing]
  | some figure =>
    have present : (st.overheard heard).figures.get? request.figure = some figure := found
    have face : (st.overheard heard).surface = ⟨st.surface, heard⟩ := rfl
    rw [result_present found, result_present present, face, load_overheard]

theorem furnish_overheard (heard : List SurfaceCall) :
    furnish rules request (st.overheard heard) =
      (furnish rules request st).overheard (heard ++ request.calls rules st) := by
  cases found : st.figures.get? request.figure with
  | none =>
    have missing : (st.overheard heard).figures.get? request.figure = none := found
    rw [furnish_missing found, furnish_missing missing, LoadRequest.calls, found,
      List.append_nil]
  | some figure =>
    have loaded := load_overheard rules heard request.asset st.surface
    have there : (st.overheard heard).figures.get? request.figure = some figure := found
    have face : (st.overheard heard).surface = ⟨st.surface, heard⟩ := rfl
    simp only [furnish, there, found, LoadRequest.calls, result_present found, face, loaded]
    cases load rules request.asset st.surface with
    | mk result surface =>
      cases result with
      | ok image => simp [overheard, Except.isOk, Except.toBool]
      | error e =>
        have stood := standIn_overheard rules (note (.imageFailed request.asset e)
          { st with surface := surface })
          (heard ++ ((rules.resolver.resolve rules.present request.asset).toOption.map
            SurfaceCall.load).toList) figure request.asset
        simpa [overheard, note, Except.isOk, Except.toBool] using stood

theorem completeOne_overheard (heard : List SurfaceCall) :
    completeOne rules (st.overheard heard) request =
      (completeOne rules st request).overheard (heard ++ request.calls rules st) := by
  have verdict : request.verdict rules (st.overheard heard) = request.verdict rules st := by
    simp only [LoadRequest.verdict, result_overheard]
  rw [completeOne_eq, completeOne_eq, furnish_overheard, verdict, report_overheard]

theorem calls_loads : (request.calls rules st).filterMap (·.loaded?) =
    if st.figures.contains request.figure then
      (rules.resolver.resolve rules.present request.asset).toOption.toList
    else [] := by
  have standIns (made : Bool) (standIn : SurfaceCall) (silent : standIn.loaded? = none) :
      (if made then [] else [standIn]).filterMap SurfaceCall.loaded? = [] := by
    cases made <;> simp [silent]
  unfold LoadRequest.calls FigureStore.contains
  cases st.figures.get? request.figure with
  | none => rfl
  | some figure =>
    dsimp only
    rw [List.filterMap_append, standIns _ _ rfl]
    cases rules.resolver.resolve rules.present request.asset with
    | error e => rfl
    | ok path => rfl

theorem completeOne_completion :
    Completion rules request st (completeOne rules st request) where
  told done swaps slot := by
    obtain ⟨made, isOpen⟩ := Board.slot_pending slot
    rw [completeOne_eq, swaps]
    have board := furnish_board rules request st
    simp only [report, board]
    exact Board.settle_pending _ made isOpen
  board := by
    rw [completeOne_eq]
    have settles := report_board request.kind (request.verdict rules st) (furnish rules request st)
    rwa [furnish_board] at settles
  applied image figure loaded present := by
    rw [completeOne_eq, report_figures, furnish_applied present loaded, FigureStore.get?_edit,
      present]
    rfl
  stoodIn error figure failed present := by
    rw [completeOne_eq, report_figures, furnish_stoodIn present failed]
    cases request.standIn rules st figure with
    | ok handle =>
      dsimp only
      rw [FigureStore.get?_edit, present]
      rfl
    | error e => exact present
  missing missing := by rw [completeOne_eq, report_figures, furnish_missing missing]
  elsewhere place figure there other := by
    rw [completeOne_eq, report_figures]
    rcases furnish_edits rules request st with same | ⟨change, edited⟩
    · rwa [same]
    · rw [edited]
      exact FigureStore.edit_elsewhere _ _ _ there other
  ids := (completeOne_figures rules st request).1
  nextId := (completeOne_figures rules st request).2
  calls heard := completeOne_overheard rules request st heard
  loads := calls_loads rules request st

end Completion

def callsOf (rules : LoadRules) : List LoadRequest → Loading S → List SurfaceCall
  | [], _ => []
  | request :: rest, st =>
    request.calls rules st ++ callsOf rules rest (completeOne rules st request)

/-- A queue of loads is completed: each of them once, first in first out. -/
structure Completions (rules : LoadRules) (requests : List LoadRequest) (st : Loading S) : Prop where
  turn : ∀ earlier request later, requests = earlier ++ request :: later →
    Completion rules request (complete rules earlier st) (complete rules (earlier ++ [request]) st)
  rest : ∀ earlier later, requests = earlier ++ later →
    complete rules requests st = complete rules later (complete rules earlier st)
  told : ∀ earlier request later done, requests = earlier ++ request :: later →
    request.kind = .swap done → (∀ other ∈ earlier, other.kind ≠ .swap done) →
    st.board.slots[done]? = some .pending →
    (complete rules requests st).board.state done =
      request.verdict rules (complete rules earlier st)
  board : st.board.Settles (requests.filterMap (·.kind.done?)) (complete rules requests st).board
  figure : ∀ earlier later figure, requests = earlier ++ later →
    (∀ request ∈ later, request.figure ≠ figure) →
    (complete rules requests st).figures.get? figure = (complete rules earlier st).figures.get? figure
  elsewhere : ∀ (place : Nat) (figure : Figure), st.figures.figures[place]? = some figure →
    (∀ request ∈ requests, figure.id ≠ request.figure) →
    (complete rules requests st).figures.figures[place]? = some figure
  ids : (complete rules requests st).figures.ids = st.figures.ids
  nextId : (complete rules requests st).figures.nextId = st.figures.nextId
  calls : ∀ heard, complete rules requests (st.overheard heard) =
    (complete rules requests st).overheard (heard ++ callsOf rules requests st)
  loads : (callsOf rules requests st).filterMap (·.loaded?) = requests.flatMap fun request =>
    if st.figures.contains request.figure then
      (rules.resolver.resolve rules.present request.asset).toOption.toList
    else []

section Completions
variable (rules : LoadRules)

theorem complete_append (earlier later : List LoadRequest) (st : Loading S) :
    complete rules (earlier ++ later) st = complete rules later (complete rules earlier st) :=
  List.foldl_append

theorem complete_board (requests : List LoadRequest) (st : Loading S) :
    st.board.Settles (requests.filterMap (·.kind.done?)) (complete rules requests st).board := by
  induction requests generalizing st with
  | nil => exact .refl _ st.board
  | cons request rest ih =>
    have first := (completeOne_completion rules request st).board
    rw [← List.singleton_append, List.filterMap_append]
    exact first.append (ih _)

theorem complete_elsewhere (requests : List LoadRequest) (st : Loading S) {place : Nat}
    {figure : Figure} (there : st.figures.figures[place]? = some figure)
    (none : ∀ request ∈ requests, figure.id ≠ request.figure) :
    (complete rules requests st).figures.figures[place]? = some figure := by
  induction requests generalizing st with
  | nil => exact there
  | cons request rest ih =>
    obtain ⟨first, others⟩ := List.forall_mem_cons.mp none
    exact ih _ ((completeOne_completion rules request st).elsewhere place figure there first) others

theorem complete_calls (requests : List LoadRequest) (st : Loading S) (heard : List SurfaceCall) :
    complete rules requests (st.overheard heard) =
      (complete rules requests st).overheard (heard ++ callsOf rules requests st) := by
  induction requests generalizing st heard with
  | nil => rw [callsOf, List.append_nil]; rfl
  | cons request rest ih =>
    have first := completeOne_overheard rules request st heard
    have others := ih (completeOne rules st request) (heard ++ request.calls rules st)
    rw [callsOf, ← List.append_assoc]
    exact (congrArg (complete rules rest) first).trans others

theorem complete_loads (requests : List LoadRequest) (st : Loading S) :
    (callsOf rules requests st).filterMap (·.loaded?) = requests.flatMap fun request =>
      if st.figures.contains request.figure then
        (rules.resolver.resolve rules.present request.asset).toOption.toList
      else [] := by
  induction requests generalizing st with
  | nil => rfl
  | cons request rest ih =>
    have same (figure : FigureId) : (completeOne rules st request).figures.contains figure =
        st.figures.contains figure := by
      rw [Bool.eq_iff_iff, FigureStore.contains_iff, FigureStore.contains_iff,
        (completeOne_figures rules st request).1]
    rw [callsOf, List.filterMap_append, calls_loads, ih, List.flatMap_cons]
    simp only [same]

theorem completeOne_get? (request : LoadRequest) (st : Loading S) {figure : FigureId}
    (other : request.figure ≠ figure) :
    (completeOne rules st request).figures.get? figure = st.figures.get? figure := by
  rw [completeOne_eq, report_figures]
  rcases furnish_edits rules request st with same | ⟨change, edited⟩
  · rw [same]
  · rw [edited, FigureStore.get?_edit_other _ change other.symm]

theorem complete_get? (requests : List LoadRequest) (st : Loading S) {figure : FigureId}
    (none : ∀ request ∈ requests, request.figure ≠ figure) :
    (complete rules requests st).figures.get? figure = st.figures.get? figure := by
  induction requests generalizing st with
  | nil => rfl
  | cons request rest ih =>
    obtain ⟨first, others⟩ := List.forall_mem_cons.mp none
    exact (ih _ others).trans (completeOne_get? rules request st first)

theorem complete_completions (requests : List LoadRequest) (st : Loading S) :
    Completions rules requests st where
  turn earlier request later same := by
    rw [complete_append]
    exact completeOne_completion rules request _
  rest earlier later same := same ▸ complete_append rules earlier later st
  told earlier request later done same swaps fresh slot := by
    obtain ⟨made, isOpen⟩ := Board.slot_pending slot
    have before := complete_board rules earlier st
    have still := before.others done fun member => by
      obtain ⟨other, there, swapped⟩ := List.mem_filterMap.mp member
      exact fresh other there (LoadKind.swap_of_done swapped)
    have slotStill := Board.slot_of_pending (before.made ▸ made) (still.trans isOpen)
    have told := (completeOne_completion rules request _).told done swaps slotStill
    have final := complete_board rules later (completeOne rules (complete rules earlier st) request)
    have settled : request.verdict rules (complete rules earlier st) ≠ .pending := by
      unfold LoadRequest.verdict
      split <;> simp
    rw [same, complete_append]
    exact (final.kept done (told ▸ settled)).trans told
  board := complete_board rules requests st
  figure earlier later figure same none := by
    rw [same, complete_append]
    exact complete_get? rules later _ none
  elsewhere place figure there none := complete_elsewhere rules requests st there none
  ids := (complete_figures rules requests st).1
  nextId := (complete_figures rules requests st).2
  calls heard := complete_calls rules requests st heard
  loads := complete_loads rules requests st

theorem complete_missing (requests : List LoadRequest) (st : Loading S)
    (missing : ∀ request ∈ requests, st.figures.get? request.figure = none) :
    (∃ board, complete rules requests st = { st with board := board }) ∧
      callsOf rules requests st = [] := by
  induction requests generalizing st with
  | nil => exact ⟨⟨st.board, rfl⟩, rfl⟩
  | cons request rest ih =>
    obtain ⟨first, others⟩ := List.forall_mem_cons.mp missing
    obtain ⟨board, told⟩ : ∃ board, completeOne rules st request = { st with board := board } := by
      rw [completeOne_eq, furnish_missing first]
      cases request.kind with
      | create => exact ⟨st.board, rfl⟩
      | swap done => exact ⟨_, rfl⟩
    obtain ⟨⟨final, completed⟩, silent⟩ := ih (completeOne rules st request) (told ▸ others)
    have asked : request.calls rules st = [] := by rw [LoadRequest.calls, first]
    refine ⟨⟨final, ?_⟩, by rw [callsOf, asked, silent]; rfl⟩
    exact completed.trans (by rw [told])

theorem complete_missing_told {requests : List LoadRequest} {st : Loading S}
    (missing : ∀ request ∈ requests, st.figures.get? request.figure = none)
    (distinct : (requests.filterMap (·.kind.done?)).Nodup) {request : LoadRequest}
    (member : request ∈ requests) {done : DeferredId} (swaps : request.kind = .swap done)
    (slot : st.board.slots[done]? = some .pending) :
    (complete rules requests st).board.state done =
      .rejected (.asset (.missingFigure request.figure)) := by
  obtain ⟨earlier, later, rfl⟩ := List.append_of_mem member
  have fresh : ∀ other ∈ earlier, other.kind ≠ .swap done := by
    intro other before same
    rw [List.filterMap_append, List.nodup_append] at distinct
    refine distinct.2.2 done ?_ done ?_ rfl
    · exact List.mem_filterMap.mpr ⟨other, before, by rw [same]; rfl⟩
    · exact List.mem_filterMap.mpr ⟨request, List.mem_cons_self, by rw [swaps]; rfl⟩
  obtain ⟨⟨board, same⟩, _⟩ := complete_missing rules earlier st fun other before =>
    missing other (List.mem_append_left _ before)
  have gone : (complete rules earlier st).figures.get? request.figure = none := by
    rw [same]
    exact missing request member
  have told := (complete_completions rules _ st).told earlier request later done rfl swaps fresh slot
  rw [told, LoadRequest.verdict, result_missing gone]

end Completions

end Loading
end SpriteStage
