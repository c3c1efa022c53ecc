import Mathlib.Data.List.Basic
import SpriteStage.Engine.Stage
import SpriteStage.Proofs.Script.Kept

namespace SpriteStage

/-- What pictures and image loads write down. -/
def Happening.isRemark {κ σ : Type} : Happening κ σ → Bool
  | .imageApplied .. => true
  | .notice n => n.level = .warn
  | _ => false

/-- What scripts write down: their calls, and remarks on what comes of them. -/
def Happening.isAside {κ σ : Type} : Happening κ σ → Bool
  | .called .. | .imageApplied .. => true
  | .notice n => n.level = .warn
  | _ => false

theorem Happening.isAside_of_isRemark {κ σ : Type} {happening : Happening κ σ}
    (remark : happening.isRemark) : happening.isAside := by
  cases happening <;> simp_all [isRemark, isAside]

theorem Happening.isMark_of_isRemark {κ σ : Type} {happening : Happening κ σ}
    (remark : happening.isRemark) : happening.isMark := by
  cases happening with
  | notice notice => cases notice <;> simp_all [isRemark, isMark, Notice.level]
  | imageApplied figure image => rfl
  | _ => simp [isRemark] at remark

/-- A handler of a frame, a key or a collision begins to run. -/
def Happening.isPlay {κ σ : Type} : Happening κ σ → Bool
  | .framed .. | .keyed _ | .collided _ => true
  | _ => false

/-- What passes over such handlers write down. -/
def Happening.isGame {κ σ : Type} (happening : Happening κ σ) : Bool :=
  happening.isAside || happening.isPlay

namespace Machine
variable {κ σ S : Type}

/-- One machine comes after another: its journal has news of a shape on top, and the startup
handlers are still there. -/
structure Writes (shape : List (Happening κ σ) → Prop) (before after : Machine κ σ S) : Prop where
  journal : ∃ news, after.journal = before.journal ++ news ∧ shape news
  starters : before.context.handlers.start <+: after.context.handlers.start

abbrev Leads (kind : Happening κ σ → Prop) (before after : Machine κ σ S) : Prop :=
  before.Writes (fun news => ∀ happening ∈ news, kind happening) after

variable {kind : Happening κ σ → Prop} {before middle after m : Machine κ σ S}

theorem Writes.of_same {shape : List (Happening κ σ) → Prop} (shaped : shape [])
    (journal : after.journal = before.journal)
    (start : after.context.handlers.start = before.context.handlers.start) :
    before.Writes shape after :=
  ⟨⟨[], by simp [journal], shaped⟩, start ▸ List.prefix_rfl⟩

theorem Leads.of_same (journal : after.journal = before.journal)
    (start : after.context.handlers.start = before.context.handlers.start) :
    before.Leads kind after :=
  Writes.of_same (by simp) journal start

theorem Leads.refl (m : Machine κ σ S) : m.Leads kind m := .of_same rfl rfl

theorem Writes.append {early late whole : List (Happening κ σ) → Prop}
    (first : before.Writes early middle) (second : middle.Writes late after)
    (joined : ∀ {news more}, early news → late more → whole (news ++ more)) :
    before.Writes whole after := by
  obtain ⟨news, journal, shape⟩ := first.journal
  obtain ⟨more, moreJournal, moreShape⟩ := second.journal
  exact ⟨⟨news ++ more, by simp [journal, moreJournal], joined shape moreShape⟩,
    first.starters.trans second.starters⟩

theorem Writes.mono {shape wider : List (Happening κ σ) → Prop}
    (writes : before.Writes shape after) (wide : ∀ news, shape news → wider news) :
    before.Writes wider after := by
  obtain ⟨news, journal, shaped⟩ := writes.journal
  exact ⟨⟨news, journal, wide news shaped⟩, writes.starters⟩

theorem Leads.trans (first : before.Leads kind middle) (second : middle.Leads kind after) :
    before.Leads kind after :=
  first.append second fun early late => List.forall_mem_append.mpr ⟨early, late⟩

theorem Writes.grows {shape : List (Happening κ σ) → Prop} (writes : before.Writes shape after) :
    before.journal <+: after.journal := by
  obtain ⟨news, journal, _⟩ := writes.journal
  exact ⟨news, journal.symm⟩

theorem Leads.mono {wider : Happening κ σ → Prop} (leads : before.Leads kind after)
    (wide : ∀ happening, kind happening → wider happening) : before.Leads wider after :=
  Writes.mono leads fun _ kinds happening member => wide happening (kinds happening member)

theorem writes_record {shape : List (Happening κ σ) → Prop} {happening : Happening κ σ}
    (shaped : shape [happening]) : m.Writes shape (m.record happening) :=
  ⟨⟨[happening], rfl, shaped⟩, List.prefix_rfl⟩

theorem leads_record {happening : Happening κ σ} (known : kind happening) :
    m.Leads kind (m.record happening) := writes_record (by simpa using known)

theorem leads_note {notice : Notice} (known : kind (.notice notice)) :
    m.Leads kind (m.note notice) := leads_record known

theorem Leads.of_warning {notice : Notice}
    (journal : after.journal = before.journal ++ [.notice notice])
    (start : after.context.handlers.start = before.context.handlers.start)
    (warning : notice.level = .warn) : before.Leads (·.isRemark) after :=
  ⟨⟨[.notice notice], journal, by simp [Happening.isRemark, warning]⟩, start ▸ List.prefix_rfl⟩

theorem Leads.aside (leads : before.Leads (·.isRemark) after) : before.Leads (·.isAside) after :=
  leads.mono fun _ => Happening.isAside_of_isRemark

theorem leads_onPrompt (f : Prompt → Prompt) : m.Leads kind (m.onPrompt f) := .of_same rfl rfl

theorem leads_onInput (f : InputState → InputState) : m.Leads kind (m.onInput f) := .of_same rfl rfl

theorem leads_drawWith (call : DrawCall) (action : Draw S Unit) :
    m.Leads (·.isRemark) (m.drawWith call action) := by
  unfold drawWith
  split
  · exact .refl m
  · split
    · exact .of_same rfl rfl
    · exact .of_warning rfl rfl rfl

theorem leads_playSound (asset : String) : m.Leads (·.isRemark) (m.playSound asset) := by
  unfold playSound
  split
  · exact .refl m
  · split
    · exact leads_note rfl
    · split
      · exact .of_same rfl rfl
      · exact .of_warning rfl rfl rfl

theorem leads_swapImage (figure : FigureId) (asset : String) :
    m.Leads (·.isRemark) (m.swapImage figure asset).2 := by
  unfold swapImage
  split
  · exact .of_same rfl rfl
  · exact .of_warning rfl rfl rfl

theorem leads_dice (dice : Dice) : m.Leads kind { m with dice := dice } := .of_same rfl rfl

theorem leads_timers (timers : List Timer) (board : Board) :
    m.Leads kind ({ m with board := board }.onContext fun c => { c with timers := timers }) :=
  .of_same rfl rfl

section Calls
variable [Surface S]

theorem leads_drawing (drawing : Drawing) : m.Leads (·.isRemark) (m.drawing drawing) := by
  cases drawing <;> exact leads_drawWith ..

theorem leads_effect (c : Call κ σ) (m : Machine κ σ S) : m.Leads (·.isRemark) (m.effect c).2 := by
  cases c with
  | swapImage figure asset => exact leads_swapImage figure asset
  | draw drawing => exact leads_drawing drawing
  | playSound asset => exact leads_playSound asset
  | removeFigure figure =>
    refine .of_same rfl ?_
    simp only [effect, withContext, Context.removeFigure]
    split <;> rfl
  | onStart handler => exact ⟨⟨[], (List.append_nil _).symm, by simp⟩, List.prefix_append ..⟩
  | wait millis => exact leads_timers ..
  | random low high => exact leads_dice ..
  | _ => exact .of_same rfl rfl

theorem kept_leads (wide : ∀ happening : Happening κ σ, happening.isAside → kind happening) :
    Kept (Leads (S := S) kind) where
  refl := .refl
  trans := .trans
  perform c m := ((leads_effect c m).aside.mono wide).trans (leads_record (wide _ rfl))

theorem kept_aside : Kept (Leads (κ := κ) (σ := σ) (S := S) (·.isAside)) :=
  kept_leads fun _ aside => aside

theorem kept_game : Kept (Leads (κ := κ) (σ := σ) (S := S) (·.isGame)) :=
  kept_leads fun _ aside => by simp [Happening.isGame, aside]

section Kinds
variable (wide : ∀ happening : Happening κ σ, happening.isAside → kind happening)
include wide

/-- Frame handlers leave what scripts leave, and that each of them began. -/
theorem leads_framed (p : Program κ σ) (elapsed : Float32)
    (begins : ∀ ticket, kind (.framed ticket elapsed)) (m : Machine κ σ S) :
    m.Leads kind (m.runFrameHandlers p elapsed).2 := by
  have lent : m.Leads kind (m.onHandlers fun _ => m.context.handlers.takeFrame.2) :=
    .of_same rfl rfl
  have ran := (kept_leads wide).passUntilFailure (fun h => .framed h.ticket elapsed)
    (fun h _ => leads_record (begins h.ticket)) (fun label => p.onFrame label elapsed)
    m.context.handlers.frame (m.onHandlers fun _ => m.context.handlers.takeFrame.2)
  exact (lent.trans ran).trans (.of_same rfl rfl)

theorem leads_collided (p : Program κ σ) (begins : ∀ id, kind (.collided id))
    (m : Machine κ σ S) : m.Leads kind (m.runCollisions p).2 := by
  refine (kept_leads wide).collideAll p (fun m id r _ _ => ?_) (fun _ _ _ => .of_same rfl rfl) _ m
  have lent : m.Leads kind (m.onCollisions fun registry => (registry.take id).2) :=
    .of_same rfl rfl
  exact lent.trans (leads_record (begins id))

end Kinds

theorem leads_runFrameHandlers (p : Program κ σ) (elapsed : Float32) (m : Machine κ σ S) :
    m.Leads (·.isGame) (m.runFrameHandlers p elapsed).2 :=
  leads_framed (fun _ aside => by simp [Happening.isGame, aside]) p elapsed (fun _ => rfl) m

theorem runFrameHandlers_first (p : Program κ σ) (elapsed : Float32) {m : Machine κ σ S}
    {h : Registered κ} {rest : List (Registered κ)} (table : m.context.handlers.frame = h :: rest) :
    m.journal ++ [.framed h.ticket elapsed] <+: (m.runFrameHandlers p elapsed).2.journal := by
  have others := kept_game.passUntilFailure (S := S) (fun h => .framed h.ticket elapsed)
    (fun _ _ => leads_record rfl) (fun label => p.onFrame label elapsed) rest
  have first := kept_game.passFirst (fun h => .framed h.ticket elapsed)
    (fun label => p.onFrame label elapsed) h others
    (m.onHandlers fun _ => m.context.handlers.takeFrame.2)
  rw [← table] at first
  exact first.grows

theorem restoreKey_start (handlers : Handlers κ) (key : String) (lent : List (Registered κ)) :
    (handlers.restoreKey key lent).start = handlers.start := by
  unfold Handlers.restoreKey
  dsimp only
  split <;> rfl

theorem dispatchKey_first (p : Program κ σ) (key : String) {m : Machine κ σ S}
    {h : Registered κ} {rest : List (Registered κ)}
    (table : m.context.handlers.ofKey key = h :: rest) :
    m.journal ++ [.keyed h.ticket] <+: (m.dispatchKey p key).2.journal := by
  have others := kept_game.passUntilFailure (S := S) (fun h => .keyed h.ticket)
    (fun _ _ => leads_record rfl) p.onKey rest
  have first := kept_game.passFirst (fun h => .keyed h.ticket) p.onKey h others
    (m.onHandlers fun _ => (m.context.handlers.takeKey key).2)
  rw [← table] at first
  unfold dispatchKey
  dsimp only
  split
  · rename_i empty
    simp [Handlers.takeKey, table] at empty
  · exact first.grows

theorem dispatchKey_empty (p : Program κ σ) (key : String) {m : Machine κ σ S}
    (table : m.context.handlers.ofKey key = []) : m.dispatchKey p key = (.ok (), m) := by
  simp [dispatchKey, Handlers.takeKey, table]

theorem leads_dispatchKey (p : Program κ σ) (key : String) (m : Machine κ σ S) :
    m.Leads (·.isGame) (m.dispatchKey p key).2 := by
  have lent : m.Leads (·.isGame) (m.onHandlers fun _ => (m.context.handlers.takeKey key).2) :=
    .of_same rfl rfl
  have ran := kept_game.passUntilFailure (fun h => .keyed h.ticket)
    (fun _ _ => leads_record rfl) p.onKey (m.context.handlers.ofKey key)
    (m.onHandlers fun _ => (m.context.handlers.takeKey key).2)
  unfold dispatchKey
  dsimp only
  split
  · exact .refl m
  · exact (lent.trans ran).trans (.of_same rfl (restoreKey_start ..))

theorem leads_runCollisions (p : Program κ σ) (m : Machine κ σ S) :
    m.Leads (·.isGame) (m.runCollisions p).2 :=
  leads_collided (fun _ aside => by simp [Happening.isGame, aside]) p (fun _ => rfl) m

theorem leads_pollTask (p : Program κ σ) (task : StartTask κ) (m : Machine κ σ S) :
    m.Leads (·.isAside) (m.pollTask p task).2.2 := kept_aside.pollTask p task m

end Calls

section Stage
variable [Surface S]

theorem completeOne_warns (rules : LoadRules) (st : Loading S) (request : LoadRequest)
    (warn : ∀ notice ∈ st.notices, notice.level = .warn) :
    ∀ notice ∈ (Loading.completeOne rules st request).notices, notice.level = .warn := by
  have reported (kind : LoadKind) (outcome : Settled) (st : Loading S) :
      (st.report kind outcome).notices = st.notices := by
    cases kind <;> rfl
  unfold Loading.completeOne
  split
  · rwa [reported]
  · split
    · rwa [reported]
    · rw [reported]
      unfold Loading.standIn
      split
      · simpa [Loading.note, or_imp, forall_and, Notice.level] using warn
      · simpa [Loading.note, or_imp, forall_and, Notice.level] using warn

theorem complete_warns (rules : LoadRules) (requests : List LoadRequest) (st : Loading S)
    (warn : ∀ notice ∈ st.notices, notice.level = .warn) :
    ∀ notice ∈ (Loading.complete rules requests st).notices, notice.level = .warn := by
  induction requests generalizing st with
  | nil => exact warn
  | cons request rest ih => exact ih _ (completeOne_warns rules st request warn)

theorem leads_completeLoads (m : Machine κ σ S) : m.Leads (·.isRemark) m.completeLoads := by
  unfold completeLoads
  split
  · exact .refl m
  · rename_i surface _
    have warns := complete_warns m.loadRules m.context.loads
      ⟨m.context.figures, m.board, surface, [], []⟩ (by simp)
    refine ⟨⟨_, rfl, ?_⟩, List.prefix_rfl⟩
    intro happening member
    rcases List.mem_append.mp member with applied | noted
    · obtain ⟨pair, _, same⟩ := List.mem_map.mp applied
      exact same ▸ rfl
    · obtain ⟨notice, noted, same⟩ := List.mem_map.mp noted
      exact same ▸ by simp [Happening.isRemark, warns notice noted]

theorem leads_beginFrame (now : Nat) (m : Machine κ σ S) :
    m.Leads (·.isRemark) (m.beginFrame now) := by
  have timed : m.Leads (·.isRemark) (m.setNow now) := .of_same rfl rfl
  have fired : (m.setNow now).completeLoads.Leads (·.isRemark) (m.beginFrame now) :=
    .of_same rfl rfl
  exact (timed.trans (leads_completeLoads _)).trans fired

theorem leads_clearStage (m : Machine κ σ S) : m.Leads (·.isRemark) m.clearStage :=
  leads_drawWith ..

theorem leads_drawFigures (m : Machine κ σ S) : m.Leads (·.isRemark) m.drawFigures := by
  unfold drawFigures
  split
  · exact .refl m
  · refine ⟨⟨_, rfl, ?_⟩, List.prefix_rfl⟩
    intro happening member
    obtain ⟨pair, _, same⟩ := List.mem_map.mp member
    exact same ▸ rfl

theorem leads_drawOverlay (m : Machine κ σ S) : m.Leads (·.isRemark) m.drawOverlay := by
  unfold drawOverlay
  split
  · exact .refl m
  · dsimp only
    split
    · exact .of_same rfl rfl
    · exact .of_warning rfl rfl rfl

theorem leads_presentStage (m : Machine κ σ S) : m.Leads (·.isRemark) m.presentStage :=
  .of_same rfl rfl

end Stage
end Machine
end SpriteStage
