import SpriteStage.Proofs.Asset.Loading
import SpriteStage.Proofs.Engine.Steady
import SpriteStage.Proofs.Script.Effects
import SpriteStage.Proofs.Surface.Alike
import SpriteStage.Surface.Recording

namespace SpriteStage

def Drawing.command : Drawing → DrawCommand
  | .rect area colour => .shape (.rect area (.parseOrWhite colour))
  | .circle x y radius colour => .shape (.circle x y radius (.parseOrWhite colour))
  | .line x₁ y₁ x₂ y₂ colour =>
    .shape (.line x₁ y₁ x₂ y₂ (.parseOrWhite colour) Machine.lineWidth)
  | .text words x y colour size => .text words x y (.parseOrWhite colour) size

def Happening.drawn? {κ σ : Type} : Happening κ σ → Option DrawCommand
  | .called c _ => c.drawing?.map (·.command)
  | _ => none

theorem Happening.drawn?_plain {κ σ : Type} {happening : Happening κ σ}
    (plain : happening.isPlain) : happening.drawn? = none := by
  cases happening with
  | called => cases plain
  | _ => rfl

def Journal.drawings {κ σ : Type} (news : List (Happening κ σ)) : List DrawCommand :=
  news.filterMap (·.drawn?)

theorem Journal.drawings_plain {κ σ : Type} {news : List (Happening κ σ)}
    (plain : ∀ happening ∈ news, happening.isPlain) : drawings news = [] :=
  List.filterMap_eq_nil_iff.mpr fun _ member => Happening.drawn?_plain (plain _ member)

namespace RecordingSurface

def draws (commands : List DrawCommand) (s : RecordingSurface) : RecordingSurface :=
  { s with commands := s.commands ++ commands }

@[simp] theorem draws_commands (commands : List DrawCommand) (s : RecordingSurface) :
    (s.draws commands).commands = s.commands ++ commands := rfl

@[simp] theorem draws_size (commands : List DrawCommand) (s : RecordingSurface) :
    Surface.size (s.draws commands) = Surface.size s := rfl

@[simp] theorem draws_nil (s : RecordingSurface) : s.draws [] = s := by
  simp [draws]

@[simp] theorem draws_draws (first second : List DrawCommand) (s : RecordingSurface) :
    (s.draws first).draws second = s.draws (first ++ second) := by
  simp [draws]

@[simp] theorem present_recorded (s : RecordingSurface) :
    Surface.present s = s.draws [.present] := rfl

structure Records (action : Draw RecordingSurface Unit) (commands : List DrawCommand) : Prop where
  on : ∀ s, action s = (.ok (), s.draws commands)

theorem Records.andThen {first second : Draw RecordingSurface Unit}
    {early late : List DrawCommand} (drawn : Records first early) (more : Records second late) :
    Records (first >>= fun _ => second) (early ++ late) := by
  constructor
  intro s
  rw [draw_bind, drawn.on s]
  exact (more.on _).trans (by rw [draws_draws])

theorem look_recorded (action : RecordingSurface → Draw RecordingSurface Unit)
    (s : RecordingSurface) : (get >>= action : Draw RecordingSurface Unit) s = action s s := rfl

theorem Records.look {action : RecordingSurface → Draw RecordingSurface Unit}
    {commands : List DrawCommand} (drawn : ∀ s, Records (action s) commands) :
    Records (get >>= action) commands := ⟨fun s => (drawn s).on s⟩

theorem Records.perhaps {more rest : Draw RecordingSurface Unit} {early late : List DrawCommand}
    (drawn : Records more (early ++ late)) (others : Records rest late) (shown : Bool) :
    Records (if shown then more else rest) ((if shown then early else []) ++ late) := by
  cases shown with
  | true => exact drawn
  | false => exact others

theorem records_paint (shape : Shape) : Records (Surface.paint shape) [.shape shape] :=
  ⟨fun _ => rfl⟩

theorem records_paintText (text : String) (x y : Float32) (colour : Colour) (size : Float32) :
    Records (Surface.paintText text x y colour size) [.text text x y colour size] := ⟨fun _ => rfl⟩

end RecordingSurface

open RecordingSurface

/-- A figure with an image is drawn under its own transform, and a figure without one not at all. -/
def Figure.blit (f : Figure) : List DrawCommand :=
  match f.image with
  | none => []
  | some image => f.poses.map .pose ++ [.shape (.image image f.sprite), .pose .restore]

def FigureStore.picture (store : FigureStore) : List DrawCommand :=
  (store.figures.filter (·.visible)).flatMap (·.blit)

/-- The images in a picture are those of the visible figures that have one. -/
theorem Figure.draw_recorded (f : Figure) (s : RecordingSurface) :
    f.draw s = (.ok (), s.draws f.blit) := by
  unfold draw blit
  cases f.image with
  | none => simp
  | some image => simp [poses, Surface.pose, changePose, record, Surface.paint, draws]

theorem drawFigures_recorded (figures : List Figure) (s : RecordingSurface) :
    drawFigures figures s = ([], s.draws ((figures.filter (·.visible)).flatMap (·.blit))) := by
  induction figures generalizing s with
  | nil => simp [drawFigures]
  | cons figure rest ih =>
    by_cases visible : figure.visible
    · simp [drawFigures, visible, figure.draw_recorded, ih]
    · simp [drawFigures, visible, ih]

namespace Prompt

def centred (text : String) (middle y : Float32) (colour : Colour) (size : Float32) :
    DrawCommand :=
  .text text (middle - Glyph.textWidth text size / 2) y colour size

def panel (area : Rect) (fill border : Colour) : List DrawCommand :=
  [.shape (.rect area fill), .shape (.stroke area border borderWidth)]

theorem records_paintCentred (text : String) (middle y : Float32) (colour : Colour)
    (size : Float32) :
    Records (paintCentred text middle y colour size) [centred text middle y colour size] :=
  ⟨fun _ => rfl⟩

theorem records_paintPanel (area : Rect) (fill border : Colour) :
    Records (paintPanel area fill border) (panel area fill border) :=
  (records_paint (.rect area fill)).andThen (records_paint (.stroke area border borderWidth))

def picture (style : PromptStyle) (size : UInt32 × UInt32) (p : Prompt) : List DrawCommand :=
  let width := size.1.toFloat32
  let height := size.2.toFloat32
  let box := box style width height
  let field := field box
  let limit := field.width - 2 * textInset - textInset
  let wide (cs : List Char) := Glyph.textWidth (String.ofList cs) style.textSize
  let shown := String.ofList (tailWithin wide limit p.buffer.toList)
  [.shape (.rect ⟨0, 0, width, height⟩ style.scrim)] ++
    panel box style.boxFill style.border ++
    [centred p.question (width / 2) (box.y + 35) style.text style.promptSize] ++
    panel field style.fieldFill style.border ++
    [.text shown (field.x + textInset) (field.y + 27) style.text style.textSize] ++
    (if p.caretVisible then
      [.shape (.rect (caret field (Glyph.textWidth shown style.textSize)) style.caret)] else []) ++
    [centred style.hint (width / 2) (box.y + box.height + 25) style.hintColour style.hintSize]

theorem textWidth_recorded (s : RecordingSurface) (text : String) (size : Float32) :
    Surface.textWidth s text size = Glyph.textWidth text size := rfl

theorem paintOverlay_recorded (style : PromptStyle) (p : Prompt) (s : RecordingSurface) :
    paintOverlay style p.question p.buffer p.caretVisible s =
      (.ok (), s.draws (p.picture style (Surface.size s))) := by
  unfold paintOverlay picture visibleTail
  simp only [textWidth_recorded, List.append_assoc]
  rw [look_recorded]
  refine Records.on ?_ s
  refine (records_paint _).andThen ?_
  refine (records_paintPanel ..).andThen ?_
  refine (records_paintCentred ..).andThen ?_
  refine (records_paintPanel ..).andThen ?_
  refine Records.look fun _ => (records_paintText ..).andThen ?_
  refine Records.perhaps ?_ (records_paintCentred ..) p.caretVisible
  exact .look fun _ => (records_paint _).andThen (records_paintCentred ..)

/-- The prompt that is shown, if there is one, with the caret of the next frame. -/
def overlay (settings : Settings) (size : UInt32 × UInt32) (p : Prompt) : List DrawCommand :=
  if p.active then (p.tickCaret settings.caretInterval).picture settings.overlay size else []

def drawn (settings : Settings) (p : Prompt) : Prompt :=
  if p.active then p.tickCaret settings.caretInterval else p

theorem draw_recorded (settings : Settings) (p : Prompt) (s : RecordingSurface) :
    p.draw settings.overlay settings.caretInterval s =
      (.ok (), p.drawn settings, s.draws (p.overlay settings (Surface.size s))) := by
  unfold draw drawn overlay
  by_cases active : p.active
  · simp [active, paintOverlay_recorded]
  · simp [active]

end Prompt

namespace Machine
open Journal
variable {κ σ : Type}

/-- One machine comes after another, and its surface remembers on top what scripts have drawn in
between. -/
structure Drew (before after : Machine κ σ RecordingSurface) : Prop where
  settings : after.context.settings = before.context.settings
  surface : ∃ news, after.journal = before.journal ++ news ∧
    after.surface = before.surface.map (·.draws (drawings news))

section Drew
variable {before middle after m : Machine κ σ RecordingSurface}

theorem Drew.of_plain {news : List (Happening κ σ)}
    (settings : after.context.settings = before.context.settings)
    (journal : after.journal = before.journal ++ news)
    (plain : ∀ happening ∈ news, happening.isPlain) (surface : after.surface = before.surface) :
    before.Drew after := by
  refine ⟨settings, news, journal, ?_⟩
  rw [drawings_plain plain, surface]
  simp

theorem Drew.refl (m : Machine κ σ RecordingSurface) : m.Drew m :=
  .of_plain rfl (List.append_nil _).symm (by simp) rfl

theorem Drew.trans (first : before.Drew middle) (second : middle.Drew after) :
    before.Drew after := by
  obtain ⟨news, journal, surface⟩ := first.surface
  obtain ⟨more, moreJournal, moreSurface⟩ := second.surface
  refine ⟨second.settings.trans first.settings, news ++ more, ?_, ?_⟩
  · rw [moreJournal, journal, List.append_assoc]
  · rw [moreSurface, surface, Option.map_map]
    simp [Function.comp_def, drawings]

theorem drawWith_recorded (call : DrawCall) {action : Draw RecordingSurface Unit}
    {commands : List DrawCommand} (drawn : Records action commands)
    (m : Machine κ σ RecordingSurface) :
    m.drawWith call action = { m with surface := m.surface.map (·.draws commands) } := by
  unfold drawWith
  cases here : m.surface with
  | none =>
    cases m
    cases here
    rfl
  | some surface => simp only [drawn.on, Option.map_some]

theorem drawing_recorded (drawing : Drawing) (m : Machine κ σ RecordingSurface) :
    m.drawing drawing = { m with surface := m.surface.map (·.draws [drawing.command]) } := by
  cases drawing with
  | rect => exact drawWith_recorded .rect (records_paint _) m
  | circle => exact drawWith_recorded .circle (records_paint _) m
  | line => exact drawWith_recorded .line (records_paint _) m
  | text => exact drawWith_recorded .text (records_paintText ..) m

theorem kept_drew : Kept (Drew (κ := κ) (σ := σ)) where
  refl := .refl
  trans := .trans
  perform c m := by
    have spares := effect_spares c m
    obtain ⟨remarks, journal, kinds⟩ := (leads_effect c m).journal
    have quiet : drawings remarks = [] := drawings_plain fun happening member =>
      Happening.isPlain_of_isRemark (kinds happening member)
    refine ⟨spares.settings, remarks ++ [.called c (m.effect c).1], ?_, ?_⟩
    · simp [perform, record, journal]
    · rw [drawings, List.filterMap_append, ← drawings, quiet]
      change (m.effect c).2.surface = _
      cases draws : c.drawing? with
      | none => simp [Happening.drawn?, draws, spares.surface draws]
      | some drawing =>
        obtain rfl := Call.draw_of_drawing draws
        simp [Happening.drawn?, Call.drawing?, effect, drawing_recorded]

end Drew

section Stage
variable {m : Machine κ σ RecordingSurface} {s : RecordingSurface}

theorem clearStage_recorded (m : Machine κ σ RecordingSurface) : m.clearStage =
    { m with surface :=
        m.surface.map (·.draws [.shape (.clear m.context.settings.background)]) } :=
  drawWith_recorded .clear (records_paint _) m

theorem drawFigures_recorded (here : m.surface = some s) :
    m.drawFigures = { m with surface := some (s.draws m.context.figures.picture) } := by
  simp only [drawFigures, here, SpriteStage.drawFigures_recorded, List.map_nil]
  simp [recordAll, FigureStore.picture]

theorem drawOverlay_recorded (here : m.surface = some s) : m.drawOverlay =
    { m with
      surface := some (s.draws (m.context.prompt.overlay m.context.settings (Surface.size s)))
      context := { m.context with prompt := m.context.prompt.drawn m.context.settings } } := by
  simp only [drawOverlay, here, Prompt.draw_recorded]
  rfl

theorem presentStage_recorded (here : m.surface = some s) :
    m.presentStage = { m with surface := some (s.draws [.present]) } := by
  rw [presentStage, here]
  rfl

end Stage
end Machine

theorem Loading.complete_surface {S : Type} [Surface S] {R : S → S → Prop} (refl : ∀ s, R s s)
    (trans : ∀ {s t u}, R s t → R t u → R s u)
    (loads : ∀ path s, R s (Surface.loadImage path s).2)
    (makes : ∀ width height colour s, R s (Surface.solidImage width height colour s).2)
    (rules : LoadRules) (requests : List LoadRequest) (st : Loading S) :
    R st.surface (complete rules requests st).surface := by
  have loaded (asset : String) (s : S) : R s (load rules asset s).2 := by
    unfold load
    split
    · exact refl s
    · exact loads _ s
  have stoodIn (figure : Figure) (asset : String) (st : Loading S) :
      R st.surface (standIn rules figure asset st).surface := by
    have made := makes (wholePixels figure.width) (wholePixels figure.height) rules.standIn
      st.surface
    unfold standIn
    split
    · rename_i handle surface same
      rwa [same] at made
    · rename_i e surface same
      rwa [same] at made
  have one (st : Loading S) (request : LoadRequest) :
      R st.surface (completeOne rules st request).surface := by
    rw [completeOne_eq, report_surface]
    have first := loaded request.asset st.surface
    unfold furnish
    split
    · exact refl _
    · split
      · rename_i image surface same
        rwa [same] at first
      · rename_i e surface same
        rw [same] at first
        exact trans first (stoodIn _ _ (note (.imageFailed request.asset e)
          { st with surface := surface }))
  induction requests generalizing st with
  | nil => exact refl _
  | cons request rest ih => exact trans (one st request) (ih _)

structure RecordingSurface.Keeps (s t : RecordingSurface) : Prop where
  commands : t.commands = s.commands
  size : Surface.size t = Surface.size s

theorem RecordingSurface.keeps_complete (rules : LoadRules) (requests : List LoadRequest)
    (st : Loading RecordingSurface) :
    st.surface.Keeps (Loading.complete rules requests st).surface := by
  refine Loading.complete_surface (fun _ => ⟨rfl, rfl⟩) ?_ ?_ (fun _ _ _ _ => ⟨rfl, rfl⟩) rules
    requests st
  · intro s t u first second
    exact ⟨second.commands.trans first.commands, second.size.trans first.size⟩
  · intro path s
    simp only [Surface.loadImage, load]
    split
    · exact ⟨rfl, rfl⟩
    · exact ⟨rfl, rfl⟩

theorem Machine.beginFrame_recorded {κ σ : Type} (now : Nat) {m : Machine κ σ RecordingSurface}
    {s : RecordingSurface} (here : m.surface = some s) :
    ∃ t, (m.beginFrame now).surface = some t ∧ s.Keeps t := by
  have timed : (m.setNow now).surface = some s := here
  refine ⟨((m.setNow now).loaded s).surface, ?_,
    keeps_complete _ _ ⟨m.context.figures, m.board, s, [], []⟩⟩
  unfold beginFrame
  rw [completeLoads_some timed]
  rfl

end SpriteStage
