import SpriteStage.Engine.Pass

namespace SpriteStage

def Call.drawing? {κ σ : Type} : Call κ σ → Option Drawing
  | .draw drawing => some drawing
  | _ => none

theorem Call.draw_of_drawing {κ σ : Type} {c : Call κ σ} {drawing : Drawing}
    (draws : c.drawing? = some drawing) : c = .draw drawing := by
  cases c with
  | draw other => exact congrArg Call.draw (Option.some.inj draws)
  | _ => cases draws

/-- A call that leaves alone what scripts see of the stage, and the values on the board. -/
def Call.isOutward {κ σ : Type} : Call κ σ → Bool
  | .draw _ | .playSound _ | .random .. => true
  | _ => false

namespace Machine
variable {κ σ S : Type}

theorem drawWith_frame (call : DrawCall) (action : Draw S Unit) (m : Machine κ σ S) :
    ∃ surface journal, m.drawWith call action =
      { m with surface := surface, journal := journal } := by
  unfold drawWith
  split
  · exact ⟨_, _, rfl⟩
  · split
    · exact ⟨_, _, rfl⟩
    · exact ⟨_, _, rfl⟩

theorem playSound_frame (asset : String) (m : Machine κ σ S) :
    ∃ audio journal, m.playSound asset = { m with audio := audio, journal := journal } := by
  unfold playSound
  split
  · exact ⟨_, _, rfl⟩
  · split
    · exact ⟨_, _, rfl⟩
    · split
      · exact ⟨_, _, rfl⟩
      · exact ⟨_, _, rfl⟩

theorem wait_frame (millis : Nat) (m : Machine κ σ S) : ∃ deadline,
    (m.wait millis).1 = m.board.slots.length ∧ (m.wait millis).2 =
      { m with
        board := (m.board.add .pending).2
        context := { m.context with
          timers := m.context.timers ++ [⟨deadline, m.board.slots.length⟩] } } :=
  ⟨_, rfl, rfl⟩

theorem random_frame (low high : Int) (m : Machine κ σ S) :
    ∃ dice, (m.random low high).2 = { m with dice := dice } := ⟨_, rfl⟩

variable [Surface S]

theorem drawing_frame (drawing : Drawing) (m : Machine κ σ S) :
    ∃ surface journal, m.drawing drawing = { m with surface := surface, journal := journal } := by
  cases drawing with
  | rect => exact drawWith_frame ..
  | circle => exact drawWith_frame ..
  | line => exact drawWith_frame ..
  | text => exact drawWith_frame ..

theorem effect_outward {c : Call κ σ} (outward : c.isOutward) (m : Machine κ σ S) :
    (m.effect c).2.context = m.context ∧ (m.effect c).2.board = m.board := by
  cases c with
  | draw drawing =>
    obtain ⟨surface, journal, same⟩ := drawing_frame drawing m
    simp only [effect, same, and_self]
  | playSound asset =>
    obtain ⟨audio, journal, same⟩ := playSound_frame asset m
    simp only [effect, same, and_self]
  | random low high =>
    obtain ⟨dice, same⟩ := random_frame low high m
    simp only [effect, same, and_self]
  | _ => cases outward

/-- What a call has no hand in: the input, the settings, the guard of an answered prompt, and the
surface unless it draws. -/
structure Spares (c : Call κ σ) (before after : Machine κ σ S) : Prop where
  input : after.context.input = before.context.input
  settings : after.context.settings = before.context.settings
  promptGuard : after.context.prompt.justEnded = before.context.prompt.justEnded
  surface : c.drawing? = none → after.surface = before.surface

theorem effect_spares (c : Call κ σ) (m : Machine κ σ S) : Spares c m (m.effect c).2 := by
  cases c with
  | draw drawing =>
    obtain ⟨surface, journal, same⟩ := drawing_frame drawing m
    simp only [effect, same]
    exact ⟨rfl, rfl, rfl, nofun⟩
  | playSound asset =>
    obtain ⟨audio, journal, same⟩ := playSound_frame asset m
    simp only [effect, same]
    exact ⟨rfl, rfl, rfl, fun _ => rfl⟩
  | removeFigure figure =>
    simp only [effect, withContext, Context.removeFigure]
    split
    · exact ⟨rfl, rfl, rfl, fun _ => rfl⟩
    · exact ⟨rfl, rfl, rfl, fun _ => rfl⟩
  | swapImage figure asset =>
    simp only [effect, swapImage]
    split
    · exact ⟨rfl, rfl, rfl, fun _ => rfl⟩
    · exact ⟨rfl, rfl, rfl, fun _ => rfl⟩
  | ask question =>
    refine ⟨rfl, rfl, ?_, fun _ => rfl⟩
    simp only [effect, ask, onPrompt, onContext, Prompt.request, Prompt.accept]
    split
    · rfl
    · rfl
  | wait millis =>
    obtain ⟨deadline, _, same⟩ := wait_frame millis m
    simp only [effect, same]
    exact ⟨rfl, rfl, rfl, fun _ => rfl⟩
  | random low high =>
    obtain ⟨dice, same⟩ := random_frame low high m
    simp only [effect, same]
    exact ⟨rfl, rfl, rfl, fun _ => rfl⟩
  | _ => exact ⟨rfl, rfl, rfl, fun _ => rfl⟩

/-- Nothing is written down but warnings. -/
def Warns (before after : Machine κ σ S) : Prop :=
  ∃ notices : List Notice, after.journal = before.journal ++ notices.map .notice ∧
    ∀ notice ∈ notices, notice.level = .warn

section Warns
variable {before after : Machine κ σ S}

omit [Surface S] in
theorem Warns.of_same (journal : after.journal = before.journal) : before.Warns after :=
  ⟨[], by simp [journal], by simp⟩

omit [Surface S] in
theorem warns_note {notice : Notice} (warning : notice.level = .warn) (m : Machine κ σ S) :
    m.Warns (m.note notice) := ⟨[notice], rfl, List.forall_mem_singleton.mpr warning⟩

omit [Surface S] in
theorem warns_drawWith (call : DrawCall) (action : Draw S Unit) (m : Machine κ σ S) :
    m.Warns (m.drawWith call action) := by
  unfold drawWith
  split
  · exact .of_same rfl
  · split
    · exact .of_same rfl
    · exact warns_note rfl _

omit [Surface S] in
theorem warns_playSound (asset : String) (m : Machine κ σ S) : m.Warns (m.playSound asset) := by
  unfold playSound
  split
  · exact .of_same rfl
  · split
    · exact warns_note rfl _
    · split
      · exact .of_same rfl
      · exact warns_note rfl _

theorem effect_warns (c : Call κ σ) (m : Machine κ σ S) : m.Warns (m.effect c).2 := by
  cases c with
  | draw drawing =>
    cases drawing with
    | rect | circle | line | text => exact warns_drawWith ..
  | playSound asset => exact warns_playSound asset m
  | removeFigure figure =>
    simp only [effect, withContext, Context.removeFigure]
    split
    · exact .of_same rfl
    · exact .of_same rfl
  | swapImage figure asset =>
    simp only [effect, swapImage]
    split
    · exact .of_same rfl
    · exact warns_note rfl _
  | wait millis =>
    obtain ⟨deadline, _, same⟩ := wait_frame millis m
    exact .of_same (by simp only [effect, same])
  | random low high =>
    obtain ⟨dice, same⟩ := random_frame low high m
    exact .of_same (by simp only [effect, same])
  | _ => exact .of_same rfl

end Warns

end Machine
end SpriteStage
