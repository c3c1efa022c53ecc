import Mathlib.Data.List.Basic
import SpriteStage.Prompt.Overlay
import SpriteStage.Figure.Basic

/-! Surfaces that answer alike. What a surface tells a program is its size and the images it makes;
whatever is drawn on it, and whether the drawing fails, has no part in its answers. -/

namespace SpriteStage

inductive SurfaceCall where
  | size
  | load (path : String)
  | solid (width height : UInt32) (colour : Colour)
  | paint (shape : Shape)
  | text (words : String) (x y : Float32) (colour : Colour) (height : Float32)
  | pose (change : Pose)
  | present

/-- What a surface answers. Drawing has no answer but that it fails or not. -/
inductive SurfaceAnswer where
  | size (size : UInt32 × UInt32)
  | loaded (result : Except AssetError ImageInfo)
  | made (result : Except AssetError ImageHandle)

namespace SurfaceCall
variable {S : Type} [Surface S]

def draws : SurfaceCall → Bool
  | .size | .load _ | .solid .. => false
  | _ => true

def serve (call : SurfaceCall) (s : S) : Option SurfaceAnswer × S :=
  match call with
  | .size => (some (.size (Surface.size s)), s)
  | .load path =>
    let (result, s) := Surface.loadImage path s
    (some (.loaded result), s)
  | .solid width height colour =>
    let (result, s) := Surface.solidImage width height colour s
    (some (.made result), s)
  | .paint shape => (none, (Surface.paint shape s).2)
  | .text words x y colour height => (none, (Surface.paintText words x y colour height s).2)
  | .pose change => (none, Surface.pose change s)
  | .present => (none, Surface.present s)

def after (calls : List SurfaceCall) (s : S) : S := calls.foldl (fun s call => (call.serve s).2) s

def answers : List SurfaceCall → S → List SurfaceAnswer
  | [], _ => []
  | call :: rest, s => (call.serve s).1.toList ++ answers rest (call.serve s).2

theorem answers_append (first second : List SurfaceCall) (s : S) :
    answers (first ++ second) s = answers first s ++ answers second (after first s) := by
  induction first generalizing s with
  | nil => rfl
  | cons call rest ih => simp only [List.cons_append, answers, ih, List.append_assoc, after,
      List.foldl_cons]

theorem serve_drawing {call : SurfaceCall} (draws : call.draws) (s : S) :
    (call.serve s).1 = none := by
  cases call with
  | size | load | solid => cases draws
  | paint | text | pose | present => rfl

theorem answers_drawing {calls : List SurfaceCall} (draws : ∀ call ∈ calls, call.draws) (s : S) :
    answers calls s = [] := by
  induction calls generalizing s with
  | nil => rfl
  | cons call rest ih =>
    obtain ⟨first, others⟩ := List.forall_mem_cons.mp draws
    rw [answers, ih others, serve_drawing first]
    rfl

end SurfaceCall

section Alike
open SurfaceCall
variable {S T : Type} [Surface S] [Surface T]

/-- Two surfaces answer alike, call by call, whatever is drawn in between on the one or the
other. -/
def Alike (s : S) (t : T) : Prop :=
  ∀ calls others : List SurfaceCall, calls.filter (!·.draws) = others.filter (!·.draws) →
    answers calls s = answers others t

def Drawn (before after : S) : Prop :=
  ∃ calls : List SurfaceCall, (∀ call ∈ calls, call.draws) ∧ after = SurfaceCall.after calls before

def Asked (before after : S) : Prop :=
  ∃ calls : List SurfaceCall, (∀ call ∈ calls, call.draws = false) ∧
    after = SurfaceCall.after calls before

variable {s s' : S} {t t' : T}

theorem Drawn.refl (s : S) : Drawn s s := ⟨[], by simp, rfl⟩

theorem Drawn.trans {between last : S} (first : Drawn s between) (second : Drawn between last) :
    Drawn s last := by
  obtain ⟨calls, draws, rfl⟩ := first
  obtain ⟨more, moreDraws, rfl⟩ := second
  refine ⟨calls ++ more, List.forall_mem_append.mpr ⟨draws, moreDraws⟩, ?_⟩
  simp [SurfaceCall.after]

theorem drawn_serve (call : SurfaceCall) (draws : call.draws) (s : S) : Drawn s (call.serve s).2 :=
  ⟨[call], List.forall_mem_singleton.mpr draws, rfl⟩

theorem Asked.refl (s : S) : Asked s s := ⟨[], by simp, rfl⟩

theorem Asked.trans {between last : S} (first : Asked s between) (second : Asked between last) :
    Asked s last := by
  obtain ⟨calls, asks, rfl⟩ := first
  obtain ⟨more, moreAsks, rfl⟩ := second
  refine ⟨calls ++ more, List.forall_mem_append.mpr ⟨asks, moreAsks⟩, ?_⟩
  simp [SurfaceCall.after]

theorem asked_serve (call : SurfaceCall) (asks : call.draws = false) (s : S) :
    Asked s (call.serve s).2 :=
  ⟨[call], List.forall_mem_singleton.mpr asks, rfl⟩

theorem Alike.drawnLeft (alike : Alike s t) (drawn : Drawn s s') : Alike s' t := by
  obtain ⟨before, draws, rfl⟩ := drawn
  intro calls others same
  have silent : before.filter (!·.draws) = [] :=
    List.filter_eq_nil_iff.mpr fun call member => by simp [draws call member]
  have joined := alike (before ++ calls) others (by rw [List.filter_append, silent]; exact same)
  rwa [answers_append, answers_drawing draws, List.nil_append] at joined

theorem Alike.symm (alike : Alike s t) : Alike t s := fun calls others same =>
  (alike others calls same.symm).symm

theorem Alike.drawn (alike : Alike s t) (left : Drawn s s') (right : Drawn t t') : Alike s' t' :=
  ((alike.drawnLeft left).symm.drawnLeft right).symm

/-- A call that asks for an answer gets the same from surfaces that answer alike, and they go on
answering alike. -/
theorem Alike.serve (alike : Alike s t) (call : SurfaceCall) (asks : call.draws = false) :
    (call.serve s).1 = (call.serve t).1 ∧ Alike (call.serve s).2 (call.serve t).2 := by
  have heads : (call.serve s).1.toList = (call.serve t).1.toList := by
    simpa [answers] using alike [call] [call] rfl
  have same : (call.serve s).1 = (call.serve t).1 := by
    simpa using congrArg List.head? heads
  refine ⟨same, fun calls others equal => ?_⟩
  have joined := alike (call :: calls) (call :: others) (by simp [asks, equal])
  rw [answers, answers, same] at joined
  exact List.append_cancel_left joined

/-- A relation of surfaces that drawing keeps, and in which they answer the same. -/
structure Likeness (R : S → T → Prop) : Prop where
  left : ∀ s t (call : SurfaceCall), call.draws → R s t → R (call.serve s).2 t
  right : ∀ s t (call : SurfaceCall), call.draws → R s t → R s (call.serve t).2
  asks : ∀ s t (call : SurfaceCall), call.draws = false → R s t →
    (call.serve s).1 = (call.serve t).1 ∧ R (call.serve s).2 (call.serve t).2

theorem Likeness.after {R : S → T → Prop} (likeness : Likeness R) (related : R s t)
    {calls : List SurfaceCall} (draws : ∀ call ∈ calls, call.draws) :
    R s (SurfaceCall.after calls t) := by
  induction calls generalizing t with
  | nil => exact related
  | cons call rest ih =>
    obtain ⟨first, others⟩ := List.forall_mem_cons.mp draws
    exact ih (likeness.right s t call first related) others

theorem Likeness.alike {R : S → T → Prop} (likeness : Likeness R) (related : R s t) :
    Alike s t := by
  intro calls
  induction calls generalizing s t with
  | nil =>
    intro others same
    have draws : ∀ call ∈ others, call.draws := by simpa using same.symm
    rw [answers_drawing draws]
    rfl
  | cons call rest ih =>
    intro others same
    cases draws : call.draws with
    | true =>
      rw [answers, SurfaceCall.serve_drawing draws]
      refine ih (likeness.left s t call draws related) others ?_
      simpa [draws] using same
    | false =>
      rw [List.filter_cons_of_pos (by simp [draws])] at same
      obtain ⟨before, later, rfl, silent, _, equal⟩ := List.filter_eq_cons_iff.mp same.symm
      have drawing : ∀ call ∈ before, call.draws := by simpa using silent
      obtain ⟨answer, next⟩ :=
        likeness.asks s _ call draws (likeness.after related drawing)
      rw [answers_append, answers_drawing drawing, answers, answers, answer, List.nil_append,
        ih next later equal.symm]

theorem Alike.size (alike : Alike s t) : Surface.size s = Surface.size t :=
  SurfaceAnswer.size.inj (Option.some.inj (alike.serve .size rfl).1)

theorem Alike.load (alike : Alike s t) (path : String) : ∃ result s' t',
    Surface.loadImage path s = (result, s') ∧ Surface.loadImage path t = (result, t') ∧
      Alike s' t' := by
  obtain ⟨same, later⟩ := alike.serve (.load path) rfl
  have result := SurfaceAnswer.loaded.inj (Option.some.inj same)
  exact ⟨_, _, _, rfl, Prod.ext result.symm rfl, later⟩

theorem Alike.solid (alike : Alike s t) (width height : UInt32) (colour : Colour) :
    ∃ result s' t', Surface.solidImage width height colour s = (result, s') ∧
      Surface.solidImage width height colour t = (result, t') ∧ Alike s' t' := by
  obtain ⟨same, later⟩ := alike.serve (.solid width height colour) rfl
  have result := SurfaceAnswer.made.inj (Option.some.inj same)
  exact ⟨_, _, _, rfl, Prod.ext result.symm rfl, later⟩

end Alike

section Drawing
variable {S α β : Type} [Surface S]

structure OnlyDraws (action : Draw S α) : Prop where
  drawn : ∀ s : S, Drawn s (action s).2

/-- A relation of surfaces that is kept by whatever is painted but images. -/
structure Painting (R : S → S → Prop) : Prop where
  refl : ∀ s, R s s
  trans : ∀ {s between t}, R s between → R between t → R s t
  shapes : ∀ shape s, (∀ handle area, shape ≠ .image handle area) → R s (Surface.paint shape s).2
  texts : ∀ text x y colour size s, R s (Surface.paintText text x y colour size s).2

omit [Surface S] in
theorem draw_bind (action : Draw S α) (next : α → Draw S β) (s : S) :
    (action >>= next) s = match action s with
      | (.ok a, s) => next a s
      | (.error e, s) => (.error e, s) := by
  change ExceptT.bindCont next (action s).1 (action s).2 = _
  obtain ⟨result, s'⟩ := action s
  cases result with
  | ok a => rfl
  | error e => rfl

namespace Painting
variable {R : S → S → Prop}

structure Act (R : S → S → Prop) (action : Draw S α) : Prop where
  keeps : ∀ s : S, R s (action s).2

theorem bind (painting : Painting R) {action : Draw S α} {next : α → Draw S β}
    (first : Act R action) (second : ∀ a, Act R (next a)) : Act R (action >>= next) := by
  constructor
  intro s
  have kept := first.keeps s
  rw [draw_bind]
  split
  · rename_i a s' ran
    rw [ran] at kept
    exact painting.trans kept ((second a).keeps s')
  · rename_i e s' ran
    rwa [ran] at kept

omit [Surface S] in
theorem look {next : S → Draw S α} (rest : ∀ s, Act R (next s)) : Act R (get >>= next) :=
  ⟨fun s => (rest s).keeps s⟩

theorem text (painting : Painting R) (text : String) (x y : Float32) (colour : Colour)
    (size : Float32) : Act R (Surface.paintText text x y colour size) :=
  ⟨painting.texts text x y colour size⟩

theorem rect (painting : Painting R) (area : Rect) (colour : Colour) :
    Act R (Surface.paint (.rect area colour)) :=
  ⟨fun s => painting.shapes (.rect area colour) s nofun⟩

theorem panel (painting : Painting R) (area : Rect) (fill border : Colour) :
    Act R (Prompt.paintPanel area fill border) :=
  painting.bind (painting.rect area fill) fun _ => ⟨fun s => painting.shapes _ s nofun⟩

theorem centred (painting : Painting R) (text : String) (middle y : Float32) (colour : Colour)
    (size : Float32) : Act R (Prompt.paintCentred text middle y colour size) :=
  look fun _ => painting.text ..

theorem overlay (painting : Painting R) (style : PromptStyle) (question buffer : String)
    (caretVisible : Bool) :
    Act R (Prompt.paintOverlay style question buffer caretVisible : Draw S Unit) := by
  apply look
  intro s
  apply painting.bind (painting.rect ..)
  intro _
  apply painting.bind (painting.panel ..)
  intro _
  apply painting.bind (painting.centred ..)
  intro _
  apply painting.bind (painting.panel ..)
  intro _
  apply look
  intro s
  apply painting.bind (painting.text ..)
  intro _
  cases caretVisible with
  | true =>
    apply look
    intro s
    exact painting.bind (painting.rect ..) fun _ => painting.centred ..
  | false => exact painting.centred ..

end Painting

theorem onlyDraws_paint (shape : Shape) : OnlyDraws (Surface.paint shape : Draw S Unit) :=
  ⟨fun s => drawn_serve (.paint shape) rfl s⟩

theorem onlyDraws_paintText (text : String) (x y : Float32) (colour : Colour) (size : Float32) :
    OnlyDraws (Surface.paintText text x y colour size : Draw S Unit) :=
  ⟨fun s => drawn_serve (.text text x y colour size) rfl s⟩

theorem drawn_poses (poses : List Pose) (s : S) :
    Drawn s (poses.foldl (fun s change => Surface.pose change s) s) := by
  induction poses generalizing s with
  | nil => exact .refl s
  | cons change rest ih => exact (drawn_serve (.pose change) rfl s).trans (ih _)

theorem onlyDraws_figure (figure : Figure) : OnlyDraws (figure.draw : Draw S Unit) := by
  constructor
  intro s
  unfold Figure.draw
  split
  · exact .refl s
  · rename_i image _
    let posed := figure.poses.foldl (fun s change => Surface.pose change s) s
    have drawn : Drawn posed _ :=
      (onlyDraws_paint (.image image figure.sprite)).drawn posed
    have restored : Drawn (Surface.paint (.image image figure.sprite) posed).2 _ :=
      drawn_serve (.pose .restore) rfl _
    exact ((drawn_poses figure.poses s).trans drawn).trans restored

theorem drawn_figures (figures : List Figure) (s : S) : Drawn s (drawFigures figures s).2 := by
  induction figures generalizing s with
  | nil => exact .refl s
  | cons figure rest ih =>
    have first := (onlyDraws_figure figure).drawn s
    unfold drawFigures
    split
    · split
      · rename_i s' ran
        rw [ran] at first
        exact first.trans (ih s')
      · rename_i e s' ran
        rw [ran] at first
        exact first.trans (ih s')
    · exact ih s

theorem painting_drawn : Painting (Drawn (S := S)) where
  refl := .refl
  trans := .trans
  shapes shape s _ := (onlyDraws_paint shape).drawn s
  texts text x y colour size s := (onlyDraws_paintText text x y colour size).drawn s

theorem onlyDraws_paintOverlay (style : PromptStyle) (question buffer : String)
    (caretVisible : Bool) :
    OnlyDraws (Prompt.paintOverlay style question buffer caretVisible : Draw S Unit) :=
  ⟨(painting_drawn.overlay style question buffer caretVisible).keeps⟩

end Drawing
end SpriteStage
