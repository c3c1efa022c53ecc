import SpriteStage.Proofs.Glyph.Pixels
import SpriteStage.Proofs.Surface.Quota
import SpriteStage.Proofs.Surface.Trace

namespace SpriteStage

def Attempt.fill (colour : Colour) (failure : Option RenderError) (area : Rect) : Attempt :=
  .painted (.rect area colour) failure

def fillAll {S : Type} [Surface S] (colour : Colour) (areas : List Rect) : Draw S Unit :=
  areas.forM fun area => Surface.paint (.rect area colour)

section Filling
variable {S : Type} [Surface S]

/-- The surface accepts the next `n` areas, wherever they are. -/
def Accepts : Nat → S → Prop
  | 0, _ => True
  | n + 1, s => ∀ area colour, ∃ next,
    Surface.paint (.rect area colour) s = (.ok (), next) ∧ Accepts n next

/-- The surface accepts the next `n` areas and refuses the one after them. -/
def RunsOut : Nat → S → Prop
  | 0, s => ∀ area colour, ∃ e next, Surface.paint (.rect area colour) s = (.error e, next)
  | n + 1, s => ∀ area colour, ∃ next,
    Surface.paint (.rect area colour) s = (.ok (), next) ∧ RunsOut n next

theorem RunsOut.accepts {k n : Nat} {s : S} (runsOut : RunsOut n s) (fewer : k ≤ n) :
    Accepts k s := by
  induction k generalizing n s with
  | zero => trivial
  | succ k ih =>
    cases n with
    | zero => cases fewer
    | succ n =>
      intro area colour
      obtain ⟨next, ran, later⟩ := runsOut area colour
      exact ⟨next, ran, ih later (Nat.le_of_succ_le_succ fewer)⟩

/-- How filling areas goes on a surface: the calls that it gets, and what it ends with. -/
inductive Filling (colour : Colour) :
    List Rect → S → List Attempt → Except RenderError Unit × S → Prop where
  | done {s : S} : Filling colour [] s [] (.ok (), s)
  | filled {area : Rect} {rest : List Rect} {s next : S} {calls : List Attempt}
      {last : Except RenderError Unit × S}
      (fine : Surface.paint (.rect area colour) s = (.ok (), next))
      (later : Filling colour rest next calls last) :
      Filling colour (area :: rest) s (.fill colour none area :: calls) last
  | refused {area : Rect} {rest : List Rect} {s next : S} {e : RenderError}
      (fails : Surface.paint (.rect area colour) s = (.error e, next)) :
      Filling colour (area :: rest) s [.fill colour (some e) area] (.error e, next)

variable {colour : Colour} {area : Rect} {areas rest : List Rect} {s : S} {calls : List Attempt}
  {last : Except RenderError Unit × S}

def FilledAll (colour : Colour) (areas : List Rect) (calls : List Attempt)
    (result : Except RenderError Unit) : Prop :=
  result = .ok () ∧ calls = areas.map (.fill colour none)

/-- The first `n` areas are filled, and the failure at the one after them ends it. -/
def FilledUpTo (n : Nat) (colour : Colour) (areas : List Rect) (calls : List Attempt)
    (result : Except RenderError Unit) : Prop :=
  ∃ e, ∃ short : n < areas.length, result = .error e ∧
    calls = (areas.take n).map (.fill colour none) ++ [.fill colour (some e) areas[n]]

theorem FilledAll.cons {result : Except RenderError Unit}
    (whole : FilledAll colour rest calls result) :
    FilledAll colour (area :: rest) (.fill colour none area :: calls) result :=
  ⟨whole.1, by rw [whole.2, List.map_cons]⟩

theorem FilledUpTo.cons {n : Nat} {result : Except RenderError Unit}
    (cut : FilledUpTo n colour rest calls result) :
    FilledUpTo (n + 1) colour (area :: rest) (.fill colour none area :: calls) result := by
  obtain ⟨e, short, failed, rfl⟩ := cut
  exact ⟨e, Nat.succ_lt_succ short, failed, rfl⟩

theorem Filling.outcome (filling : Filling colour areas s calls last) :
    FilledAll colour areas calls last.1 ∨ ∃ n, FilledUpTo n colour areas calls last.1 := by
  induction filling with
  | done => exact .inl ⟨rfl, rfl⟩
  | filled fine later ih =>
    rcases ih with whole | ⟨n, cut⟩
    · exact .inl whole.cons
    · exact .inr ⟨n + 1, cut.cons⟩
  | refused fails => exact .inr ⟨0, _, Nat.succ_pos _, rfl, rfl⟩

theorem Filling.whole (filling : Filling colour areas s calls last)
    (accepts : Accepts areas.length s) : FilledAll colour areas calls last.1 := by
  induction filling with
  | done => exact ⟨rfl, rfl⟩
  | filled fine later ih =>
    obtain ⟨next, ran, accepts⟩ := accepts _ colour
    cases fine.symm.trans ran
    exact (ih accepts).cons
  | refused fails =>
    obtain ⟨next, ran, -⟩ := accepts _ colour
    cases fails.symm.trans ran

end Filling

namespace QuotaSurface
variable {q : QuotaSurface}

end QuotaSurface

namespace Glyph

def squares (text : String) (x top size : Float32) : List Rect :=
  (litPixels text.toList).map (square x top size)

section Text
variable {S : Type} [Surface S]

def fillText (text : String) (x top : Float32) (colour : Colour) (size : Float32) : Draw S Unit :=
  drawText (fun area colour => Surface.paint (.rect area colour)) text x top colour size

theorem fillText_eq (text : String) (x top : Float32) (colour : Colour) (size : Float32) :
    (fillText text x top colour size : Draw S Unit) =
      fillAll colour (squares text x top size) := by
  unfold fillText drawText fillAll squares
  induction litPixels text.toList with
  | nil => rfl
  | cons pixel rest ih => exact congrArg (Surface.paint _ >>= fun _ => ·) ih

end Text
end Glyph
end SpriteStage
