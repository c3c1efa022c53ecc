import SpriteStage.Proofs.Surface.Fills

/-! Surfaces that are made to fail. A rationed surface makes so many strokes on the surface below it
and refuses all others, so what is drawn on it is what is drawn on the surface below, up to some
stroke. -/

namespace SpriteStage

/-- A drawing primitive. A text is one on a surface that has texts of its own. -/
inductive Stroke where
  | shape (shape : Shape)
  | text (words : String) (x y : Float32) (colour : Colour) (size : Float32)
  deriving DecidableEq

def Stroke.make {S : Type} [Surface S] : Stroke → Draw S Unit
  | .shape form => Surface.paint form
  | .text words x y colour size => Surface.paintText words x y colour size

/-- A stroke that was made on a surface as it was then, with its failure if it failed. -/
structure Trial (S : Type) where
  surface : S
  stroke : Stroke
  failure : Option RenderError

/-- A surface on another one, with the strokes that were made on that. -/
structure Rationed (S : Type) where
  surface : S
  /-- Whether texts are those of the surface below, or in the bitmap font. -/
  ownText : Bool
  /-- How many strokes are still made, if they are rationed. -/
  left : Option Nat
  refusal : RenderError
  trials : List (Trial S)

def TextsInPixels (S : Type) [Surface S] : Prop :=
  ∀ text x y colour size, (Surface.paintText text x y colour size : Draw S Unit) =
    Glyph.drawLine (fun area colour => Surface.paint (.rect area colour)) text x y colour size

namespace Rationed
variable {S α β : Type} {own : Bool}

def free (ownText : Bool) (s : S) : Rationed S := ⟨s, ownText, none, default, []⟩

/-- A surface that fails from a stroke on. -/
def ration (n : Nat) (refusal : RenderError) (s : Rationed S) : Rationed S :=
  { s with left := some n, refusal := refusal }

def drew (s : Rationed S) (made : List (Trial S)) (below : S) : Rationed S :=
  { s with
    surface := below
    left := s.left.map (· - made.length)
    trials := s.trials ++ made }

theorem drew_nil (s : Rationed S) : s.drew [] s.surface = s := by
  simp only [drew, List.length_nil, Nat.sub_zero, Option.map_id', List.append_nil]

theorem drew_drew (s : Rationed S) (early late : List (Trial S)) (between below : S) :
    (s.drew early between).drew late below = s.drew (early ++ late) below := by
  simp only [drew, Option.map_map, Function.comp_def, Nat.sub_sub, List.length_append,
    List.append_assoc]

/-- What is drawn on a rationed surface, of something that takes some strokes on the surface below:
all of it, or the strokes that are left. -/
inductive Cut (made : List (Trial S)) (plain : Except RenderError α × S)
    (s : Rationed S) : Except RenderError α × Rationed S → Prop
  | whole (enough : ∀ n, s.left = some n → made.length ≤ n) :
    Cut made plain s (plain.1, s.drew made plain.2)
  | short {n : Nat} (left : s.left = some n) (fewer : n < made.length) (below : S) :
    Cut made plain s (.error s.refusal, s.drew (made.take n) below)

/-- Drawing ends with the first stroke that fails, and with its failure. -/
inductive Ended (made : List (Trial S)) : Except RenderError α → Prop
  | fine (a : α) (fine : ∀ trial ∈ made, trial.failure = none) : Ended made (.ok a)
  | failed (before : List (Trial S)) (last : Trial S) (e : RenderError)
      (split : made = before ++ [last]) (fine : ∀ trial ∈ before, trial.failure = none)
      (failure : last.failure = some e) : Ended made (.error e)

/-- An action on a rationed surface is a plain action on the surface below, stroke by stroke. -/
structure Metered (ownText : Bool) (action : Draw (Rationed S) α) (plain : Draw S α) :
    Prop where
  strokes : ∀ below : S, ∃ made, Ended made (plain below).1 ∧
    ∀ s : Rationed S, s.surface = below → s.ownText = ownText → Cut made (plain below) s (action s)

theorem Cut.of_free {made : List (Trial S)} {plain : Except RenderError α × S} {s : Rationed S}
    {outcome : Except RenderError α × Rationed S} (cut : Cut made plain s outcome)
    (free : s.left = none) : outcome = (plain.1, s.drew made plain.2) := by
  cases cut with
  | whole => rfl
  | short left => cases free.symm.trans left

theorem Cut.after {early late : List (Trial S)} {plain : Except RenderError α × S} {s : Rationed S}
    {outcome : Except RenderError α × Rationed S} {between : S}
    (enough : ∀ n, s.left = some n → early.length ≤ n)
    (cut : Cut late plain (s.drew early between) outcome) :
    Cut (early ++ late) plain s outcome := by
  cases cut with
  | whole more =>
    rw [drew_drew]
    refine .whole fun n left => ?_
    have first := enough n left
    have second := more (n - early.length) (by simp [drew, left])
    rw [List.length_append]
    omega
  | @short n left fewer below =>
    obtain ⟨total, ration, rfl⟩ := Option.map_eq_some_iff.mp left
    have first := enough total ration
    have short : total < (early ++ late).length := by
      rw [List.length_append]
      omega
    have taken : (early ++ late).take total = early ++ late.take (total - early.length) := by
      rw [List.take_append, List.take_of_length_le first]
    rw [drew_drew, ← taken]
    exact .short ration short below

theorem Ended.after {early late : List (Trial S)} {result : Except RenderError α}
    (fine : ∀ trial ∈ early, trial.failure = none) (ended : Ended late result) :
    Ended (early ++ late) result := by
  cases ended with
  | fine a later => exact .fine a (List.forall_mem_append.mpr ⟨fine, later⟩)
  | failed before last e split later failure =>
    refine .failed (early ++ before) last e ?_ (List.forall_mem_append.mpr ⟨fine, later⟩) failure
    rw [split, List.append_assoc]

theorem Ended.error {made : List (Trial S)} {e : RenderError}
    (ended : Ended made (.error e : Except RenderError α)) :
    Ended made (.error e : Except RenderError β) := by
  cases ended with
  | failed before last e split fine failure => exact .failed before last e split fine failure

theorem Metered.bind {action : Draw (Rationed S) α} {next : α → Draw (Rationed S) β}
    {plain : Draw S α} {plainNext : α → Draw S β} (first : Metered own action plain)
    (second : ∀ a, Metered own (next a) (plainNext a)) :
    Metered own (action >>= next) (plain >>= plainNext) := by
  constructor
  intro below
  obtain ⟨early, ended, first⟩ := first.strokes below
  rcases ran : plain below with ⟨e | a, between⟩
  · rw [ran] at ended
    rw [draw_bind, ran]
    refine ⟨early, ended.error, fun s same mode => ?_⟩
    have cut := first s same mode
    rw [draw_bind]
    rw [ran] at cut
    generalize action s = outcome at cut
    cases cut with
    | whole enough => exact .whole enough
    | short left fewer last => exact .short left fewer last
  · rw [ran] at ended
    obtain ⟨a, fine⟩ := ended
    obtain ⟨late, ended, second⟩ := (second a).strokes between
    rw [draw_bind, ran]
    refine ⟨early ++ late, ended.after fine, fun s same mode => ?_⟩
    have cut := first s same mode
    rw [draw_bind]
    rw [ran] at cut
    generalize action s = outcome at cut
    cases cut with
    | whole enough => exact .after enough (second _ rfl mode)
    | @short n left fewer last =>
      have short : n < (early ++ late).length := by
        rw [List.length_append]
        exact Nat.lt_add_right _ fewer
      have taken : (early ++ late).take n = early.take n :=
        List.take_append_of_le_length (Nat.le_of_lt fewer)
      rw [← taken]
      exact .short left short last

theorem Metered.look {next : Rationed S → Draw (Rationed S) α} {plainNext : S → Draw S α}
    (only : ∀ s t : Rationed S, s.surface = t.surface → next s = next t)
    (rest : ∀ s, Metered own (next s) (plainNext s.surface)) :
    Metered own (get >>= next) (get >>= plainNext) := by
  constructor
  intro below
  obtain ⟨made, ended, strokes⟩ := (rest (free own below)).strokes below
  refine ⟨made, ended, fun s same mode => ?_⟩
  have cut := strokes s same mode
  rw [only (free own below) s same.symm] at cut
  exact cut

theorem Metered.pure (own : Bool) (a : α) :
    Metered own (Pure.pure a : Draw (Rationed S) α) (Pure.pure a : Draw S α) := by
  refine ⟨fun below => ⟨[], .fine a nofun, ?_⟩⟩
  rintro s rfl _
  have whole : Cut [] (.ok a, s.surface) s (.ok a, s.drew [] s.surface) :=
    .whole fun _ _ => Nat.zero_le _
  rw [drew_nil] at whole
  exact whole

/-- How something is drawn on a surface that breaks off after `n` strokes, compared with how it is
drawn as a whole. -/
structure BreaksOff (n : Nat) (refusal : RenderError)
    (whole part : Except RenderError Unit × Rationed S) : Prop where
  ended : Ended whole.2.trials whole.1
  strokes : part.2.trials = whole.2.trials.take n
  result : part.1 = if whole.2.trials.length ≤ n then whole.1 else .error refusal

theorem Metered.breaksOff {action : Draw (Rationed S) Unit} {plain : Draw S Unit}
    (metered : Metered own action plain) (s : S) (n : Nat) (refusal : RenderError) :
    plain s = ((action (free own s)).1, (action (free own s)).2.surface) ∧
      BreaksOff n refusal (action (free own s)) (action ((free own s).ration n refusal)) := by
  obtain ⟨made, ended, strokes⟩ := metered.strokes s
  have whole := (strokes (free own s) rfl rfl).of_free rfl
  have part := strokes ((free own s).ration n refusal) rfl rfl
  rw [whole]
  generalize action ((free own s).ration n refusal) = outcome at part
  refine ⟨rfl, ended, ?_, ?_⟩
  · cases part with
    | whole enough => exact (List.take_of_length_le (enough n rfl)).symm
    | short left =>
      cases left
      rfl
  · cases part with
    | whole enough => exact (if_pos (enough n rfl)).symm
    | short left fewer =>
      cases left
      exact (if_neg (Nat.not_le_of_lt fewer)).symm

/-- Where the whole drawing works, all strokes that are made are made without a failure, and the
drawing fails if there are more to make. -/
theorem BreaksOff.works {n : Nat} {refusal : RenderError}
    {whole part : Except RenderError Unit × Rationed S} (breaksOff : BreaksOff n refusal whole part)
    (works : whole.1 = .ok ()) : (∀ trial ∈ part.2.trials, trial.failure = none) ∧
      ((∃ e, part.1 = .error e) ↔ n < whole.2.trials.length) := by
  obtain ⟨ended, strokes, result⟩ := breaksOff
  rw [works] at ended result
  constructor
  · cases ended with
    | fine _ fine =>
      intro trial member
      rw [strokes] at member
      exact fine trial (List.mem_of_mem_take member)
  · rw [result]
    split
    · rename_i enough
      exact ⟨nofun, fun more => absurd enough (Nat.not_le_of_lt more)⟩
    · rename_i more
      exact ⟨fun _ => Nat.lt_of_not_le more, fun _ => ⟨refusal, rfl⟩⟩

variable [Surface S]

def make (stroke : Stroke) : Draw (Rationed S) Unit := fun s =>
  if s.left = some 0 then (.error s.refusal, s)
  else
    let (result, surface) := stroke.make s.surface
    (result, { s with
      surface := surface
      left := s.left.map (· - 1)
      trials := s.trials ++ [⟨s.surface, stroke, failure? result⟩] })

instance : Surface (Rationed S) where
  size s := Surface.size s.surface
  loadImage path := fun s =>
    let (result, surface) := Surface.loadImage path s.surface
    (result, { s with surface := surface })
  solidImage width height colour := fun s =>
    let (result, surface) := Surface.solidImage width height colour s.surface
    (result, { s with surface := surface })
  paint shape := make (.shape shape)
  paintText text x y colour size := fun s =>
    if s.ownText then make (.text text x y colour size) s
    else
      Glyph.drawLine (fun area colour => make (.shape (.rect area colour))) text x y colour size s
  textWidth s := Surface.textWidth s.surface
  pose change s := { s with surface := Surface.pose change s.surface }
  present s := { s with surface := Surface.present s.surface }

theorem Metered.stroke (own : Bool) (stroke : Stroke) :
    Metered own (make stroke) (stroke.make : Draw S Unit) := by
  refine ⟨fun below => ⟨[⟨below, stroke, failure? (stroke.make below).1⟩], ?_, ?_⟩⟩
  · rcases (stroke.make below).1 with e | done
    · exact .failed [] _ e rfl nofun rfl
    · exact .fine done (List.forall_mem_singleton.mpr rfl)
  rintro s rfl _
  unfold make
  split
  · rename_i none
    let trial : Trial S := ⟨s.surface, stroke, failure? (stroke.make s.surface).1⟩
    have fewer : 0 < [trial].length := Nat.zero_lt_one
    have refused : Cut [trial] (stroke.make s.surface) s
        (.error s.refusal, s.drew ([trial].take 0) s.surface) := .short none fewer s.surface
    rw [List.take_zero, drew_nil] at refused
    exact refused
  · rename_i some
    refine .whole fun n left => ?_
    exact Nat.one_le_iff_ne_zero.mpr fun zero => some (zero ▸ left)

theorem Metered.fillAll (own : Bool) (colour : Colour) (areas : List Rect) :
    Metered own (fillAll colour areas : Draw (Rationed S) Unit)
      (SpriteStage.fillAll colour areas : Draw S Unit) := by
  induction areas with
  | nil => exact .pure own ()
  | cons area rest ih => exact (Metered.stroke own (.shape (.rect area colour))).bind fun _ => ih

theorem Metered.text (pixels : own = false → TextsInPixels S) (text : String) (x y : Float32)
    (colour : Colour) (size : Float32) :
    Metered own (Surface.paintText text x y colour size : Draw (Rationed S) Unit)
      (Surface.paintText text x y colour size : Draw S Unit) := by
  cases own with
  | true =>
    refine ⟨fun below => ?_⟩
    obtain ⟨made, ended, strokes⟩ :=
      (Metered.stroke true (.text text x y colour size : Stroke)).strokes below
    refine ⟨made, ended, fun s same mode => ?_⟩
    have one : Surface.paintText text x y colour size s = make (.text text x y colour size) s :=
      if_pos mode
    rw [one]
    exact strokes s same mode
  | false =>
    have filled := Metered.fillAll (S := S) false colour
      (Glyph.squares text x (y - Glyph.lineHeight size) size)
    rw [← Glyph.fillText_eq, ← Glyph.fillText_eq] at filled
    rw [pixels rfl]
    refine ⟨fun below => ?_⟩
    obtain ⟨made, ended, strokes⟩ := filled.strokes below
    refine ⟨made, ended, fun s same mode => ?_⟩
    have many : Surface.paintText text x y colour size s =
        Glyph.fillText text x (y - Glyph.lineHeight size) colour size s := if_neg (by simp [mode])
    rw [many]
    exact strokes s same mode

end Rationed
end SpriteStage
