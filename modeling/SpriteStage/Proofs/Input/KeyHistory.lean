import SpriteStage.Input.Basic
import SpriteStage.Proofs.Lists

namespace SpriteStage

/-- What happens to the keys, and the sight that a script gets of them. -/
inductive KeyEvent where
  | pressed (key : String)
  | released (key : String)
  | untapped
  | forgotten
  | seen (keys : KeyState)
  | collided

namespace KeyEvent

def lifts (key : String) : KeyEvent → Bool
  | .released other => other = key
  | .forgotten => true
  | _ => false

def untaps : KeyEvent → Bool
  | .untapped | .forgotten => true
  | _ => false

/-- Another key is the latest from now on, or none is. -/
def overtakes : KeyEvent → Bool
  | .pressed _ | .forgotten => true
  | _ => false

def forgets : KeyEvent → Bool
  | .forgotten => true
  | _ => false

def isSight : KeyEvent → Bool
  | .seen _ | .collided => true
  | _ => false

theorem not_untaps_of_isSight {event : KeyEvent} (sight : event.isSight) : ¬ event.untaps := by
  cases event with
  | untapped | forgotten => cases sight
  | _ => exact Bool.false_ne_true

end KeyEvent

namespace KeyState
open KeyEvent
variable {keys before between after : KeyState} {past news more : List KeyEvent}
  {key other : String}

theorem isHeld_press : (keys.press key).isHeld other ↔ other = key ∨ keys.isHeld other := by
  simp [press, isHeld]

theorem isHeld_release : (keys.release key).isHeld other ↔ keys.isHeld other ∧ other ≠ key := by
  simp [release, isHeld]

theorem isJustPressed_press :
    (keys.press key).isJustPressed other ↔ other = key ∨ keys.isJustPressed other := by
  simp [press, isJustPressed]

/-- The history tells which key was the latest: that of the latest press since keys were forgotten,
or none if there was no press since. -/
def ToldLatest (past : List KeyEvent) (latest : String) : Prop :=
  Standing (.pressed latest) overtakes past ∨
    latest = "" ∧ ∀ key, ¬ Standing (.pressed key) forgets past

theorem ToldLatest.concat {latest : String} {event : KeyEvent} (told : ToldLatest past latest)
    (keeps : ¬ event.overtakes) : ToldLatest (past ++ [event]) latest := by
  have other (key : String) : event ≠ .pressed key := by
    rintro rfl
    exact keeps rfl
  have spares : ¬ event.forgets := by
    cases event with
    | forgotten => exact absurd rfl keeps
    | _ => nofun
  refine told.imp (standing_concat_of_spared (other latest) keeps).mpr ?_
  rintro ⟨empty, none⟩
  exact ⟨empty, fun key => (standing_concat_of_spared (other key) spares).not.mpr (none key)⟩

structure Told (past : List KeyEvent) (keys : KeyState) : Prop where
  held : ∀ key, keys.isHeld key ↔ Standing (.pressed key) (lifts key) past
  tapped : ∀ key, keys.isJustPressed key ↔ Standing (.pressed key) untaps past
  latest : ToldLatest past keys.lastPressed

theorem told_empty : empty.Told [] := by
  have nothing (key : String) (undoes : KeyEvent → Bool) :
      ¬ Standing (.pressed key) undoes [] := not_standing_nil
  constructor
  · exact fun key => iff_of_false Bool.false_ne_true (nothing key _)
  · exact fun key => iff_of_false Bool.false_ne_true (nothing key _)
  · exact .inr ⟨rfl, fun key => nothing key _⟩

theorem told_forgotten (past : List KeyEvent) : empty.Told (past ++ [.forgotten]) := by
  have nothing (key : String) {undoes : KeyEvent → Bool} (undone : undoes .forgotten) :
      ¬ Standing (.pressed key) undoes (past ++ [.forgotten]) := not_standing_concat nofun undone
  constructor
  · exact fun key => iff_of_false Bool.false_ne_true (nothing key rfl)
  · exact fun key => iff_of_false Bool.false_ne_true (nothing key rfl)
  · exact .inr ⟨rfl, fun key => nothing key rfl⟩

/-- What an event makes of the keys. Scripts see the keys as they are, and collision handlers see
nothing tapped. -/
inductive Turns : KeyState → KeyEvent → KeyState → Prop
  | press (keys : KeyState) (key : String) : Turns keys (.pressed key) (keys.press key)
  | release (keys : KeyState) (key : String) : Turns keys (.released key) (keys.release key)
  | untap (keys : KeyState) : Turns keys .untapped keys.clearJustPressed
  | forget (keys : KeyState) : Turns keys .forgotten empty
  | look (keys : KeyState) : Turns keys (.seen keys) keys
  | collide {keys : KeyState} (untapped : keys.justPressed = []) : Turns keys .collided keys

section Told
variable (told : keys.Told past)
include told

theorem Told.press (key : String) : (keys.press key).Told (past ++ [.pressed key]) := by
  constructor
  · intro other
    rw [isHeld_press, standing_concat, told.held]
    exact or_congr (by simp [eq_comm]) (iff_and_self.mpr fun _ => Bool.false_ne_true)
  · intro other
    rw [isJustPressed_press, standing_concat, told.tapped]
    exact or_congr (by simp [eq_comm]) (iff_and_self.mpr fun _ => Bool.false_ne_true)
  · exact .inl (standing_concat.mpr (.inl rfl))

theorem Told.release (key : String) : (keys.release key).Told (past ++ [.released key]) := by
  constructor
  · intro other
    rw [isHeld_release, told.held]
    by_cases same : other = key
    · have lifted : lifts other (.released key) := by simp [lifts, same]
      exact iff_of_false (fun both => both.2 same) (not_standing_concat nofun lifted)
    · have spared : ¬ lifts other (.released key) := by
        simpa [lifts, eq_comm] using same
      exact (and_iff_left same).trans (standing_concat_of_spared (by nofun) spared).symm
  · intro other
    rw [standing_concat_of_spared (by nofun) (by nofun)]
    exact told.tapped other
  · exact told.latest.concat nofun

theorem Told.clearJustPressed : keys.clearJustPressed.Told (past ++ [.untapped]) := by
  constructor
  · intro other
    rw [standing_concat_of_spared (by nofun) (by nofun)]
    exact told.held other
  · exact fun other => iff_of_false Bool.false_ne_true (not_standing_concat nofun rfl)
  · exact told.latest.concat nofun

theorem Told.sight {event : KeyEvent} (sight : event.isSight) : keys.Told (past ++ [event]) := by
  have spared {undoes : KeyEvent → Bool} (none : ¬ undoes event) (key : String) :
      Standing (.pressed key) undoes past ↔ Standing (.pressed key) undoes (past ++ [event]) := by
    refine (standing_concat_of_spared ?_ none).symm
    rintro rfl
    cases sight
  cases event with
  | seen | collided =>
    constructor
    · exact fun key => (told.held key).trans (spared Bool.false_ne_true key)
    · exact fun key => (told.tapped key).trans (spared Bool.false_ne_true key)
    · exact told.latest.concat nofun
  | _ => cases sight

theorem Told.turn {event : KeyEvent} (turns : keys.Turns event after) :
    after.Told (past ++ [event]) := by
  cases turns with
  | press key => exact told.press key
  | release key => exact told.release key
  | untap => exact told.clearJustPressed
  | forget => exact told_forgotten past
  | look | collide => exact told.sight rfl

end Told

inductive Replay : KeyState → List KeyEvent → KeyState → Prop
  | rest (keys : KeyState) : Replay keys [] keys
  | next {keys between after : KeyState} {event : KeyEvent} {news : List KeyEvent}
      (turns : keys.Turns event between) (later : Replay between news after) :
    Replay keys (event :: news) after

theorem Replay.append (first : Replay before news between) (second : Replay between more after) :
    Replay before (news ++ more) after := by
  induction first with
  | rest => exact second
  | next turns _ ih => exact .next turns (ih second)

theorem Replay.split (replay : Replay before (news ++ more) after) :
    ∃ between, Replay before news between ∧ Replay between more after := by
  induction news generalizing before with
  | nil => exact ⟨before, .rest before, replay⟩
  | cons event news ih =>
    cases replay with
    | next turns later =>
      obtain ⟨between, first, second⟩ := ih later
      exact ⟨between, .next turns first, second⟩

theorem Replay.told (replay : Replay before news after) (told : before.Told past) :
    after.Told (past ++ news) := by
  induction replay generalizing past with
  | rest => rwa [List.append_nil]
  | next turns _ ih => simpa using ih (told.turn turns)

theorem Replay.seen (replay : Replay before (news ++ .seen keys :: more) after) :
    Replay before news keys := by
  obtain ⟨between, first, second⟩ := replay.split
  cases second with
  | next turns _ =>
    cases turns
    exact first

theorem Replay.tapped (replay : Replay before news after) (tapped : before.isJustPressed key)
    (keeps : ∀ event ∈ news, ¬ event.untaps) : after.isJustPressed key := by
  induction replay with
  | rest => exact tapped
  | next turns _ ih =>
    obtain ⟨spares, others⟩ := List.forall_mem_cons.mp keeps
    refine ih ?_ others
    cases turns with
    | press => exact isJustPressed_press.mpr (.inr tapped)
    | untap | forget => exact absurd rfl spares
    | release | look | collide => exact tapped

theorem Replay.untapped (replay : Replay before news after)
    (untapped : ¬ before.isJustPressed key) (unpressed : .pressed key ∉ news) :
    ¬ after.isJustPressed key := by
  induction replay with
  | rest => exact untapped
  | next turns _ ih =>
    rw [List.mem_cons, not_or] at unpressed
    obtain ⟨other, others⟩ := unpressed
    refine ih ?_ others
    cases turns with
    | press => simpa [isJustPressed_press, untapped] using other
    | untap | forget => exact Bool.false_ne_true
    | release | look | collide => exact untapped

end KeyState
end SpriteStage
