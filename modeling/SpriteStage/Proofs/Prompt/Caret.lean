import Mathlib.Algebra.Group.Nat.Even
import Mathlib.Data.List.Induction
import SpriteStage.Proofs.Prompt.Session
import SpriteStage.Surface.Recording

namespace SpriteStage

def PromptCall.ticks? {S : Type} : PromptCall S → Option UInt32
  | .tickCaret interval | .draw _ interval _ => some interval
  | _ => none

namespace Prompt
variable {interval : UInt32} {n : Nat} {p : Prompt}

/-- A prompt is shown, with its caret as it is a number of ticks after it came up. -/
structure Blinks (interval : UInt32) (n : Nat) (p : Prompt) : Prop where
  active : p.active
  visible : p.caretVisible ↔ Even (n / (interval.toNat + 1))
  timer : p.caretTimer.toNat = n % (interval.toNat + 1)

theorem blinks_activate (interval : UInt32) (request : PromptRequest) (p : Prompt) :
    (p.activate request).Blinks interval 0 := by
  refine ⟨rfl, ?_, (Nat.zero_mod _).symm⟩
  rw [Nat.zero_div]
  exact iff_of_true rfl Even.zero

/-- What neither hides the prompt nor touches its caret does not matter to the blinking. -/
theorem Blinks.of_same {q : Prompt} (blinks : p.Blinks interval n) (active : q.active = p.active)
    (visible : q.caretVisible = p.caretVisible) (timer : q.caretTimer = p.caretTimer) :
    q.Blinks interval n :=
  ⟨active ▸ blinks.active, visible ▸ blinks.visible, timer ▸ blinks.timer⟩

theorem Blinks.timer_le (blinks : p.Blinks interval n) : p.caretTimer ≤ interval := by
  have below := Nat.mod_lt n (Nat.succ_pos interval.toNat)
  rw [UInt32.le_iff_toNat_le, blinks.timer]
  exact Nat.le_of_lt_succ below

theorem Blinks.timer_succ (blinks : p.Blinks interval n)
    (room : interval.toNat + 1 < UInt32.size) :
    (p.caretTimer + 1).toNat = p.caretTimer.toNat + 1 := by
  have within : p.caretTimer.toNat ≤ interval.toNat :=
    UInt32.le_iff_toNat_le.mp blinks.timer_le
  rw [UInt32.toNat_add]
  exact Nat.mod_eq_of_lt (Nat.lt_of_le_of_lt (Nat.succ_le_succ within) room)

/-- A tick that finds the timer at the interval turns the caret over; any other one counts on. -/
theorem Blinks.tickCaret (blinks : p.Blinks interval n) (room : interval.toNat + 1 < UInt32.size) :
    (p.tickCaret interval).Blinks interval (n + 1) := by
  have counted := blinks.timer_succ room
  unfold Prompt.tickCaret
  split
  · rename_i beyond
    rw [UInt32.lt_iff_toNat_lt, counted] at beyond
    have full : n % (interval.toNat + 1) = interval.toNat := by
      have within := UInt32.le_iff_toNat_le.mp blinks.timer_le
      rw [← blinks.timer]
      omega
    have whole : interval.toNat + 1 ∣ n + 1 :=
      Nat.dvd_of_mod_eq_zero (Nat.succ_mod_succ_eq_zero_iff.mpr full)
    refine ⟨blinks.active, ?_, (Nat.mod_eq_zero_of_dvd whole).symm⟩
    rw [Nat.succ_div_of_dvd whole, Nat.even_add_one, ← blinks.visible]
    simp
  · rename_i under
    rw [UInt32.lt_iff_toNat_lt, counted, blinks.timer] at under
    have short : n % (interval.toNat + 1) + 1 < interval.toNat + 1 :=
      Nat.lt_succ_of_le (Nat.le_of_not_lt under)
    have counting : (n + 1) % (interval.toNat + 1) = n % (interval.toNat + 1) + 1 := by
      rw [← Nat.mod_add_mod]
      exact Nat.mod_eq_of_lt short
    have broken : ¬ interval.toNat + 1 ∣ n + 1 := fun whole =>
      absurd (Nat.mod_eq_zero_of_dvd whole) (by rw [counting]; exact Nat.succ_ne_zero _)
    refine ⟨blinks.active, ?_, ?_⟩
    · rw [Nat.succ_div_of_not_dvd broken]
      exact blinks.visible
    · rw [counted, blinks.timer, counting]

end Prompt

namespace PromptDesk
open Prompt
variable {S : Type} {desk : PromptDesk} {interval : UInt32} {n : Nat}

/-- The call brings up a prompt: a request that finds none, or the Enter that answers one behind
which others wait. -/
def bringsUp (desk : PromptDesk) : PromptCall S → Bool
  | .request _ => !desk.prompt.active
  | .key name => desk.prompt.active && name = "Enter" && !desk.prompt.queue.isEmpty
  | _ => false

variable [Surface S]

theorem blinks_bringsUp {call : PromptCall S} (brings : desk.bringsUp call) (interval : UInt32) :
    (desk.serve call).prompt.Blinks interval 0 := by
  cases call with
  | request question =>
    have hidden : desk.prompt.active = false := by simpa [bringsUp] using brings
    rw [serve, request_hidden hidden]
    exact blinks_activate interval _ _
  | key name =>
    simp only [bringsUp, Bool.and_eq_true, decide_eq_true_eq, Bool.not_eq_true'] at brings
    obtain ⟨⟨shown, rfl⟩, waiting⟩ := brings
    cases line : desk.prompt.queue with
    | nil => simp [line] at waiting
    | cons next rest =>
      rw [serve, key_enter_next shown line]
      exact blinks_activate interval _ _
  | takeGuard | clearGuard | tickCaret | draw | stop | reset => simp [bringsUp] at brings

theorem blinks_serve (blinks : desk.prompt.Blinks interval n)
    (room : interval.toNat + 1 < UInt32.size) {call : PromptCall S} (stays : call.staysOn)
    (ticks : ∀ step ∈ call.ticks?, step = interval) :
    (desk.serve call).prompt.Blinks interval (n + call.ticks?.toList.length) := by
  cases call with
  | request question =>
    rw [serve, request_shown blinks.active]
    exact blinks.of_same rfl rfl rfl
  | key name =>
    rw [serve, key_typed blinks.active (by simpa [PromptCall.staysOn] using stays)]
    exact blinks.of_same rfl rfl rfl
  | takeGuard | clearGuard => exact blinks.of_same rfl rfl rfl
  | tickCaret step =>
    obtain rfl := ticks step rfl
    exact blinks.tickCaret room
  | draw style step surface =>
    obtain rfl := ticks step rfl
    have drawn := desk.prompt.draw_prompt style step surface
    rw [if_pos blinks.active] at drawn
    rw [serve, drawn]
    exact blinks.tickCaret room
  | stop | reset => simp [PromptCall.staysOn] at stays

theorem blinks_after (blinks : desk.prompt.Blinks interval 0)
    (room : interval.toNat + 1 < UInt32.size) {calls : List (PromptCall S)}
    (stays : ∀ call ∈ calls, call.staysOn)
    (ticks : ∀ step ∈ calls.filterMap (·.ticks?), step = interval) :
    (desk.after calls).prompt.Blinks interval (calls.filterMap (·.ticks?)).length := by
  induction calls using List.reverseRecOn with
  | nil => exact blinks
  | append_singleton calls call before =>
    rw [List.filterMap_append, List.forall_mem_append] at ticks
    rw [List.forall_mem_append, List.forall_mem_singleton] at stays
    rw [after_concat, List.filterMap_append, List.length_append]
    have advanced : (call.ticks?).toList = [call].filterMap (·.ticks?) := by
      cases step : call.ticks? <;> simp [step]
    rw [← advanced] at ticks ⊢
    exact blinks_serve (before stays.1 ticks.1) room stays.2
      fun step ticking => ticks.2 step (Option.mem_toList.mpr ticking)

/-- After as many ticks of one interval as you like, the caret of a prompt is as the closed form
tells, whatever else was typed, asked or looked at since the prompt came up. -/
theorem caret_closed_form {call : PromptCall S} (brings : desk.bringsUp call)
    (room : interval.toNat + 1 < UInt32.size) {calls : List (PromptCall S)}
    (stays : ∀ call ∈ calls, call.staysOn)
    (ticks : calls.filterMap (·.ticks?) = List.replicate n interval) :
    let prompt := ((desk.serve call).after calls).prompt
    prompt.active ∧
    (prompt.caretVisible ↔ Even (n / (interval.toNat + 1))) ∧
    prompt.caretTimer.toNat = n % (interval.toNat + 1) ∧
    prompt.caretTimer ≤ interval ∧
    (prompt.caretTimer + 1).toNat = prompt.caretTimer.toNat + 1 := by
  intro prompt
  have blinks := blinks_after (blinks_bringsUp brings interval) room stays
    (ticks ▸ fun _ => List.eq_of_mem_replicate)
  rw [ticks, List.length_replicate] at blinks
  exact ⟨blinks.active, blinks.visible, blinks.timer, blinks.timer_le, blinks.timer_succ room⟩

/-- With an interval of two the fourth tick is the first after the turn, drawn or not. -/
theorem caret_hidden_after_four_ticks :
    let desk := PromptDesk.new "Input:" .empty
    let calls : List (PromptCall RecordingSurface) :=
      [.tickCaret 2, .key "a", .draw .standard 2 (.ofSize 200 100), .request "Age?", .tickCaret 2,
        .key "Backspace", .draw .standard 2 (.ofSize 200 100)]
    let prompt := ((desk.serve (S := RecordingSurface) (.request "Name?")).after calls).prompt
    calls.filterMap (·.ticks?) = List.replicate 4 2 ∧
    prompt.active ∧ prompt.caretVisible = false ∧ prompt.caretTimer.toNat = 1 := by
  intro desk calls prompt
  have ticks : calls.filterMap (·.ticks?) = List.replicate 4 2 := rfl
  have brings : desk.bringsUp (.request "Name?" : PromptCall RecordingSurface) := rfl
  have stays : ∀ call ∈ calls, call.staysOn := by decide
  obtain ⟨active, visible, timer, -⟩ := caret_closed_form brings (by decide) stays ticks
  refine ⟨ticks, active, ?_, timer⟩
  rw [← Bool.not_eq_true, visible]
  decide

end PromptDesk
end SpriteStage
