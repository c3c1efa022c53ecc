import SpriteStage.Proofs.Prompt.Drawing
import SpriteStage.Proofs.Prompt.Line

namespace SpriteStage
variable {S : Type} [Surface S]

/-- The longest end of a text that is not too wide; the empty one always fits. -/
structure LongestTail (wide : String → Prop) (text tail : String) : Prop where
  ends : ∃ dropped, text = dropped ++ tail
  fits : tail = "" ∨ ¬ wide tail
  longest : ∀ dropped longer, text = dropped ++ longer → tail.length < longer.length → wide longer

namespace Prompt

theorem tailWithin_suffix (width : List Char → Float32) (limit : Float32) (text : List Char) :
    tailWithin width limit text <:+ text := by
  induction text with
  | nil => exact List.suffix_refl []
  | cons c rest ih =>
    unfold tailWithin
    split
    · exact ih.trans (List.suffix_cons c rest)
    · exact List.suffix_refl _

theorem tailWithin_fits (width : List Char → Float32) (limit : Float32) (text : List Char) :
    tailWithin width limit text = [] ∨ ¬ width (tailWithin width limit text) > limit := by
  induction text with
  | nil => exact .inl rfl
  | cons c rest ih =>
    unfold tailWithin
    split
    · exact ih
    · rename_i fits
      exact .inr fits

theorem tailWithin_longest {width : List Char → Float32} {limit : Float32}
    {text longer : List Char} (ends : longer <:+ text)
    (more : (tailWithin width limit text).length < longer.length) : width longer > limit := by
  induction text with
  | nil =>
    rw [List.suffix_nil.mp ends] at more
    cases more
  | cons c rest ih =>
    unfold tailWithin at more
    split at more
    · rename_i wide
      rcases List.suffix_cons_iff.mp ends with rfl | inside
      · exact wide
      · exact ih inside more
    · exact absurd ends.length_le (Nat.not_le_of_lt more)

theorem suffix_iff {text tail : String} :
    tail.toList <:+ text.toList ↔ ∃ dropped, text = dropped ++ tail := by
  constructor
  · rintro ⟨dropped, split⟩
    refine ⟨String.ofList dropped, String.toList_inj.mp ?_⟩
    rw [String.toList_append, String.toList_ofList, split]
  · rintro ⟨dropped, rfl⟩
    rw [String.toList_append]
    exact List.suffix_append ..

theorem visibleTail_toList (surface : S) (text : String) (size limit : Float32) :
    (visibleTail surface text size limit).toList = tailWithin
      (fun cs => Surface.textWidth surface (String.ofList cs) size) limit text.toList :=
  String.toList_ofList

theorem visibleTail_longest (surface : S) (text : String) (size limit : Float32) :
    LongestTail (Surface.textWidth surface · size > limit) text
      (visibleTail surface text size limit) := by
  let width (cs : List Char) := Surface.textWidth surface (String.ofList cs) size
  refine ⟨suffix_iff.mp ?_, ?_, fun dropped longer split more => ?_⟩
  · rw [visibleTail_toList]
    exact tailWithin_suffix ..
  · rcases tailWithin_fits width limit text.toList with nothing | fits
    · exact .inl (congrArg String.ofList nothing)
    · exact .inr fits
  · rw [← String.length_toList, visibleTail_toList, ← String.length_toList] at more
    have wide : width longer.toList > limit :=
      tailWithin_longest (suffix_iff.mpr ⟨dropped, split⟩) more
    dsimp only [width] at wide
    rwa [String.ofList_toList] at wide

def room (field : Rect) : Float32 := field.width - 2 * textInset - textInset

/-- What a prompt with a buffer shows in its field: the longest end of the buffer, which shows all
that was typed last or ends it, and the caret behind it. -/
structure ShowsTail (style : PromptStyle) (field : Rect) (buffer typed : String)
    (caretVisible : Bool) (result : Except RenderError Unit) (trials : List (Trial S)) :
    Prop where
  text : ∀ trial, trials[6]? = some trial → ∃ shown,
    trial.stroke =
      .text shown (field.x + textInset) (field.y + 27) style.text style.textSize ∧
    LongestTail (Surface.textWidth trial.surface · style.textSize > room field) buffer shown ∧
    ((∃ before, shown = before ++ typed) ∨ ∃ hidden, typed = hidden ++ shown) ∧
    (caretVisible → ∀ next, trials[7]? = some next → next.stroke = .shape
      (.rect (caret field (Surface.textWidth next.surface shown style.textSize)) style.caret))
  complete : result = .ok () → trials.length = if caretVisible then 9 else 8

end Prompt

namespace Rationed
variable {α : Type} {below : S} {trials : List (Trial S)}
  {told : Except RenderError α → List (Trial S) → Prop}

def noted (below : S) (trials : List (Trial S)) : Rationed S :=
  { free true below with trials := trials }

/-- What is told of the result of an action, and of all strokes on its surface. -/
def Reports (told : Except RenderError α → List (Trial S) → Prop)
    (outcome : Except RenderError α × Rationed S) : Prop :=
  told outcome.1 outcome.2.trials

omit [Surface S] in
theorem reports_look {next : Rationed S → Draw (Rationed S) α} {s : Rationed S}
    (rest : Reports told (next s s)) : Reports told ((get >>= next) s) := rest

theorem paint_noted {shape : Shape} :
    Surface.paint shape (noted below trials) = make (.shape shape) (noted below trials) := rfl

theorem text_noted {text : String} {x y : Float32} {colour : Colour} {size : Float32} :
    Surface.paintText text x y colour size (noted below trials) =
      make (.text text x y colour size) (noted below trials) := rfl

theorem centred_noted {text : String} {middle y : Float32} {colour : Colour} {size : Float32} :
    Prompt.paintCentred text middle y colour size (noted below trials) =
      make (.text text (middle - Surface.textWidth below text size / 2) y colour size)
        (noted below trials) := rfl

theorem make_noted (stroke : Stroke) (below : S) (trials : List (Trial S)) :
    make stroke (noted below trials) = ((stroke.make below).1, noted (stroke.make below).2
      (trials ++ [⟨below, stroke, failure? (stroke.make below).1⟩])) := rfl

theorem reports_last {told : Except RenderError Unit → List (Trial S) → Prop}
    {action : Draw (Rationed S) Unit} {stroke : Stroke}
    (same : action (noted below trials) = make stroke (noted below trials))
    (fails : ∀ e, told (.error e) (trials ++ [⟨below, stroke, some e⟩]))
    (fine : told (.ok ()) (trials ++ [⟨below, stroke, none⟩])) :
    Reports told (action (noted below trials)) := by
  rw [same, make_noted]
  rcases stroke.make below with ⟨e | _, later⟩
  · exact fails e
  · exact fine

/-- An action starts with a stroke: that may fail, or else the action goes on. -/
theorem reports_stroke {action : Draw (Rationed S) Unit} {next : Unit → Draw (Rationed S) α}
    {stroke : Stroke} (same : action (noted below trials) = make stroke (noted below trials))
    (fails : ∀ e, told (.error e) (trials ++ [⟨below, stroke, some e⟩]))
    (goesOn : ∀ later, Reports told (next () (noted later (trials ++ [⟨below, stroke, none⟩])))) :
    Reports told ((action >>= next) (noted below trials)) := by
  rw [draw_bind, same, make_noted]
  rcases stroke.make below with ⟨e | _, later⟩
  · exact fails e
  · exact goesOn later

end Rationed

namespace Prompt
open Rationed

theorem ShowsTail.early {style : PromptStyle} {field : Rect} {buffer typed : String}
    {caretVisible : Bool} {trials : List (Trial S)} (few : trials.length ≤ 6) (e : RenderError) :
    ShowsTail style field buffer typed caretVisible (.error e) trials where
  text trial reached := by
    rw [List.getElem?_eq_none few] at reached
    cases reached
  complete := nofun

theorem ShowsTail.late {style : PromptStyle} {field : Rect} {buffer typed : String}
    {caretVisible : Bool} {s : S} {failure : Option RenderError} {result : Except RenderError Unit}
    {before after : List (Trial S)} (six : before.length = 6) (ends : ∃ old, buffer = old ++ typed)
    (caret : caretVisible → ∀ next ∈ after.head?, next.stroke = .shape
      (.rect (Prompt.caret field (Surface.textWidth next.surface
        (visibleTail s buffer style.textSize (room field)) style.textSize)) style.caret))
    (complete : result = .ok () → after.length = if caretVisible then 2 else 1) :
    ShowsTail style field buffer typed caretVisible result
      (before ++ ⟨s, .text (visibleTail s buffer style.textSize (room field))
        (field.x + textInset) (field.y + 27) style.text style.textSize, failure⟩ :: after) := by
  have longest := visibleTail_longest s buffer style.textSize (room field)
  constructor
  · intro trial reached
    rw [List.getElem?_append_right (Nat.le_of_eq six), six] at reached
    cases reached
    refine ⟨_, rfl, longest, ?_, ?_⟩
    · exact (List.suffix_or_suffix_of_suffix (suffix_iff.mpr ends)
        (suffix_iff.mpr longest.ends)).imp suffix_iff.mp suffix_iff.mp
    · intro visible next reached
      rw [List.getElem?_append_right (by omega), six] at reached
      exact caret visible next (by rw [List.head?_eq_getElem?]; exact reached)
  · intro fine
    have more := complete fine
    rw [List.length_append, List.length_cons, more, six]
    cases caretVisible <;> rfl

theorem paintOverlay_told (style : PromptStyle) (question buffer : String) (caretVisible : Bool)
    (s : S) (typed : String) (ends : ∃ old, buffer = old ++ typed) : Reports (ShowsTail style
      (field (box style (Surface.size s).1.toFloat32 (Surface.size s).2.toFloat32)) buffer typed
      caretVisible) (paintOverlay style question buffer caretVisible (noted s [])) := by
  unfold paintOverlay
  simp only [paintPanel, bind_assoc]
  apply reports_look
  refine reports_stroke paint_noted (fun e => .early (by simp) e) fun scrim => ?_
  refine reports_stroke paint_noted (fun e => .early (by simp) e) fun boxFill => ?_
  refine reports_stroke paint_noted (fun e => .early (by simp) e) fun boxBorder => ?_
  refine reports_stroke centred_noted (fun e => .early (by simp) e) fun question => ?_
  refine reports_stroke paint_noted (fun e => .early (by simp) e) fun fieldFill => ?_
  refine reports_stroke paint_noted (fun e => .early (by simp) e) fun fieldBorder => ?_
  apply reports_look
  generalize frame : (_ ++ [_] : List (Trial S)) = before
  have six : before.length = 6 := by
    rw [← frame]
    rfl
  refine reports_stroke text_noted (fun e => .late six ends (fun _ => nofun) nofun) fun text => ?_
  cases caretVisible with
  | true =>
    apply reports_look
    refine reports_stroke paint_noted (fun e => ?_) fun caret => reports_last centred_noted ?_ ?_
    all_goals simp only [List.append_assoc]
    · exact .late six ends (by rintro _ next ⟨⟩; rfl) nofun
    · intro e
      exact .late six ends (by rintro _ next ⟨⟩; rfl) nofun
    · exact .late six ends (by rintro _ next ⟨⟩; rfl) fun _ => rfl
  | false =>
    apply reports_last centred_noted
    · intro e
      rw [List.append_assoc]
      exact .late six ends nofun nofun
    · rw [List.append_assoc]
      exact .late six ends nofun fun _ => rfl

def typing (typed : List Char) (p : Prompt) (board : Board) : Prompt × Board :=
  typed.foldl (fun s c => (handleKey (String.singleton c) s.1 s.2).2) (p, board)

theorem typing_printable {typed : List Char} {p : Prompt} (shown : p.active) (board : Board)
    (printable : ∀ c ∈ typed, isControl c = false) :
    p.typing typed board = ({ p with buffer := p.buffer ++ String.ofList typed }, board) := by
  unfold typing
  induction typed generalizing p with
  | nil => simp
  | cons c rest ih =>
    obtain ⟨first, others⟩ := List.forall_mem_cons.mp printable
    have other : String.singleton c ≠ "Enter" := fun same => by
      have one : [c] = "Enter".toList := by rw [← same, String.toList_singleton]
      cases one
    have pressed : p.handleKey (String.singleton c) board =
        (.consumed, { p with buffer := typeKey (String.singleton c) p.buffer }, board) := by
      simp [handleKey, shown, other]
    have longer : typeKey (String.singleton c) p.buffer = p.buffer ++ String.singleton c := by
      rw [← String.toList_inj, PromptLine.typeKey_toList]
      simp [PromptLine.edit, first]
    have joined : p.buffer ++ String.singleton c ++ String.ofList rest =
        p.buffer ++ String.ofList (c :: rest) := by
      rw [← String.toList_inj]
      simp
    rw [List.foldl_cons, pressed, longer, ← joined]
    exact ih (p := { p with buffer := p.buffer ++ String.singleton c }) shown others

theorem shown_text_is_longest_tail (surface : S) (text : String) (size limit : Float32) :
    LongestTail (Surface.textWidth surface · size > limit) text
      (visibleTail surface text size limit) ∧
    ∀ (p : Prompt) (board : Board) (typed : List Char) (style : PromptStyle) (interval : UInt32),
      p.active → (∀ c ∈ typed, isControl c = false) →
      let q := (p.typing typed board).1
      let drawn := q.draw style interval (free true surface)
      q.buffer = p.buffer ++ String.ofList typed ∧
      ShowsTail style
        (field (box style (Surface.size surface).1.toFloat32 (Surface.size surface).2.toFloat32))
        q.buffer (String.ofList typed) (q.tickCaret interval).caretVisible drawn.1
        drawn.2.2.trials := by
  refine ⟨visibleTail_longest surface text size limit, ?_⟩
  intro p board typed style interval shown printable
  rw [typing_printable shown board printable]
  refine ⟨rfl, ?_⟩
  let q : Prompt := { p with buffer := p.buffer ++ String.ofList typed }
  have told := paintOverlay_told style q.question q.buffer (q.tickCaret interval).caretVisible
    surface (String.ofList typed) ⟨p.buffer, rfl⟩
  rw [draw_eq, drawing_shown (p := q) shown]
  exact told

def longAnswer : Prompt := { letterAsked with buffer := "abcdefghijklmnopqrstuvw" }

/-- With three more letters the text is too wide for the field, which shows the end of it. -/
theorem long_answer_shows_its_end :
    (longAnswer.typing ['x', 'y', 'z'] .empty).1.buffer = "abcdefghijklmnopqrstuvwxyz" ∧
    ∃ trial x y colour size, trial ∈ ((longAnswer.typing ['x', 'y', 'z'] .empty).1.draw .standard 30
        (free true pixelPaper)).2.2.trials[6]? ∧
      trial.stroke = .text "efghijklmnopqrstuvwxyz" x y colour size ∧
      LongestTail (Surface.textWidth trial.surface · 18 > room (field (box .standard 640 480)))
        "abcdefghijklmnopqrstuvwxyz" "efghijklmnopqrstuvwxyz" := by
  obtain ⟨typed, shows⟩ := (shown_text_is_longest_tail pixelPaper "" 18 410).2 longAnswer .empty
    ['x', 'y', 'z'] .standard 30 rfl (by simp [isControl])
  have reached : (((longAnswer.typing ['x', 'y', 'z'] .empty).1.draw .standard 30
      (free true pixelPaper)).2.2.trials[6]?.bind fun trial =>
        match trial.stroke with
        | .text words .. => some words
        | _ => none) = some "efghijklmnopqrstuvwxyz" := by decide +kernel
  obtain ⟨trial, seventh, words⟩ := Option.bind_eq_some_iff.mp reached
  obtain ⟨shown, text, longest, -, -⟩ := shows.text trial seventh
  rw [text] at words
  cases words
  rw [typed] at longest
  exact ⟨typed, trial, _, _, _, _, seventh, text, longest⟩

end Prompt
end SpriteStage
