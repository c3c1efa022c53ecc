import SpriteStage.Proofs.Prompt.Session
import SpriteStage.Proofs.Surface.Rationed

namespace SpriteStage
variable {S : Type} [Surface S]

namespace Rationed
variable {own : Bool}

theorem Metered.panel (own : Bool) (area : Rect) (fill border : Colour) :
    Metered own (Prompt.paintPanel area fill border : Draw (Rationed S) Unit)
      (Prompt.paintPanel area fill border : Draw S Unit) :=
  (Metered.stroke own (.shape (.rect area fill))).bind fun _ =>
    Metered.stroke own (.shape (.stroke area border Prompt.borderWidth))

theorem Metered.centred (pixels : own = false → TextsInPixels S) (text : String)
    (middle y : Float32) (colour : Colour) (size : Float32) :
    Metered own (Prompt.paintCentred text middle y colour size : Draw (Rationed S) Unit)
      (Prompt.paintCentred text middle y colour size : Draw S Unit) := by
  apply look
  · rintro ⟨below, _⟩ ⟨_, _⟩ rfl
    rfl
  · intro s
    exact .text pixels ..

theorem Metered.overlay (pixels : own = false → TextsInPixels S) (style : PromptStyle)
    (question buffer : String) (caretVisible : Bool) :
    Metered own (Prompt.paintOverlay style question buffer caretVisible : Draw (Rationed S) Unit)
      (Prompt.paintOverlay style question buffer caretVisible : Draw S Unit) := by
  apply look
  · rintro ⟨below, _⟩ ⟨_, _⟩ rfl
    rfl
  intro s
  apply (Metered.stroke own (.shape (.rect ..))).bind
  intro _
  apply (Metered.panel own ..).bind
  intro _
  apply (Metered.centred pixels ..).bind
  intro _
  apply (Metered.panel own ..).bind
  intro _
  apply look
  · rintro ⟨below, _⟩ ⟨_, _⟩ rfl
    rfl
  intro s
  apply (Metered.text pixels ..).bind
  intro _
  cases caretVisible with
  | true =>
    apply look
    · rintro ⟨below, _⟩ ⟨_, _⟩ rfl
      rfl
    intro s
    exact (Metered.stroke own (.shape (.rect ..))).bind fun _ => .centred pixels ..
  | false => exact .centred pixels ..

end Rationed

namespace Prompt
open Rationed

def drawing (p : Prompt) (style : PromptStyle) (interval : UInt32) : Draw S Unit :=
  if p.active then
    let p := p.tickCaret interval
    paintOverlay style p.question p.buffer p.caretVisible
  else pure ()

theorem drawing_shown {p : Prompt} (shown : p.active) (style : PromptStyle) (interval : UInt32) :
    (p.drawing style interval : Draw S Unit) =
      paintOverlay style p.question p.buffer (p.tickCaret interval).caretVisible := by
  unfold drawing tickCaret
  rw [if_pos shown]
  split <;> rfl

theorem draw_eq (p : Prompt) (style : PromptStyle) (interval : UInt32) (surface : S) :
    p.draw style interval surface = ((p.drawing style interval surface).1,
      if p.active then p.tickCaret interval else p, (p.drawing style interval surface).2) := by
  unfold draw drawing
  cases p.active <;> rfl

theorem metered_drawing {own : Bool} (pixels : own = false → TextsInPixels S) (p : Prompt)
    (style : PromptStyle) (interval : UInt32) :
    Metered own (p.drawing style interval : Draw (Rationed S) Unit)
      (p.drawing style interval : Draw S Unit) := by
  unfold drawing
  split
  · exact .overlay pixels ..
  · exact .pure own ()

/-- A prompt is drawn on a failing surface as on a working one, up to the failure, and goes on
alike. -/
theorem draw_breaks_off (p : Prompt) (style : PromptStyle) (interval : UInt32) (s : S) (own : Bool)
    (pixels : own = false → TextsInPixels S) (n : Nat) (refusal : RenderError) :
    let whole := p.draw style interval (free own s)
    let part := p.draw style interval ((free own s).ration n refusal)
    p.draw style interval s = (whole.1, whole.2.1, whole.2.2.surface) ∧
      BreaksOff n refusal (whole.1, whole.2.2) (part.1, part.2.2) ∧
      (whole.1 = .ok () → (∀ trial ∈ part.2.2.trials, trial.failure = none) ∧
        ((∃ e, part.1 = .error e) ↔ n < whole.2.2.trials.length)) ∧
      part.2.1 = whole.2.1 := by
  obtain ⟨below, breaksOff⟩ := (metered_drawing pixels p style interval).breaksOff s n refusal
  simp only [draw_eq]
  exact ⟨by rw [below], breaksOff, breaksOff.works, trivial⟩

def letterAsked : Prompt := { Prompt.new "" with active := true, question := "a" }

def withoutHint : PromptStyle := { PromptStyle.standard with hint := "" }

def pixelPaper : QuotaSurface := ⟨.ofSize 640 480, []⟩

/-- A letter and what is around it take twenty-four strokes pixel by pixel, so a surface that makes
seven of them fails within the letter. On a surface with texts of its own they take nine strokes. -/
theorem letter_prompt_breaks_off :
    (letterAsked.draw withoutHint 30 (free false pixelPaper)).1 = .ok () ∧
    (letterAsked.draw withoutHint 30 (free false pixelPaper)).2.2.trials.length = 24 ∧
    (∃ e, (letterAsked.draw withoutHint 30
      ((free false pixelPaper).ration 7 ⟨"full"⟩)).1 = .error e) ∧
    (letterAsked.draw withoutHint 30
      ((free false pixelPaper).ration 7 ⟨"full"⟩)).2.2.trials.length = 7 ∧
    (letterAsked.draw withoutHint 30 (free true pixelPaper)).1 = .ok () ∧
    (letterAsked.draw withoutHint 30 (free true pixelPaper)).2.2.trials.length = 9 ∧
    (letterAsked.draw withoutHint 30
      ((free true pixelPaper).ration 7 ⟨"full"⟩)).2.2.trials.length = 7 := by
  have drawn : (letterAsked.draw withoutHint 30 (free false pixelPaper)).1 = .ok () := by
    decide +kernel
  have many : (letterAsked.draw withoutHint 30 (free false pixelPaper)).2.2.trials.length = 24 := by
    decide +kernel
  have few : (letterAsked.draw withoutHint 30 (free true pixelPaper)).2.2.trials.length = 9 := by
    decide +kernel
  obtain ⟨-, pixels, fails, -⟩ :=
    letterAsked.draw_breaks_off withoutHint 30 pixelPaper false (fun _ _ _ _ _ _ => rfl) 7 ⟨"full"⟩
  obtain ⟨-, words, -⟩ :=
    letterAsked.draw_breaks_off withoutHint 30 pixelPaper true nofun 7 ⟨"full"⟩
  refine ⟨drawn, many, (fails drawn).2.mpr ?_, ?_, by decide +kernel, few, ?_⟩
  · rw [many]
    decide
  · rw [pixels.strokes, List.length_take, many]
    rfl
  · rw [words.strokes, List.length_take, few]
    rfl

end Prompt
end SpriteStage
