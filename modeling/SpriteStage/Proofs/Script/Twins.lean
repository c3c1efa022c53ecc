import Mathlib.Data.Option.Basic
import SpriteStage.Engine.Stage
import SpriteStage.Engine.Pass
import SpriteStage.Proofs.Surface.Alike

namespace SpriteStage

def Notice.isDrawFailure : Notice → Bool
  | .drawFailed .. | .figureFailed .. | .promptFailed _ => true
  | _ => false

namespace Happening
variable {κ σ : Type}

def isDrawFailure : Happening κ σ → Bool
  | .notice message => message.isDrawFailure
  | _ => false

def apparent (journal : List (Happening κ σ)) : List (Happening κ σ) :=
  journal.filter (!·.isDrawFailure)

theorem apparent_append (journal news : List (Happening κ σ)) :
    apparent (journal ++ news) = apparent journal ++ apparent news := List.filter_append ..

theorem apparent_failures {failures : List (Happening κ σ)}
    (failed : ∀ happening ∈ failures, happening.isDrawFailure) : apparent failures = [] :=
  List.filter_eq_nil_iff.mpr fun happening member => by simp [failed happening member]

end Happening

namespace Machine
variable {κ σ S T : Type} [Surface S] [Surface T]

/-- Two machines are in the same state, apart from what has been drawn. -/
structure Twins (m : Machine κ σ S) (n : Machine κ σ T) : Prop where
  context : m.context = n.context
  board : m.board = n.board
  memory : m.memory = n.memory
  audio : m.audio = n.audio
  present : m.present = n.present
  dice : m.dice = n.dice
  surface : Option.Rel Alike m.surface n.surface
  journal : Happening.apparent m.journal = Happening.apparent n.journal

/-- Two steps give the same reply and lead to twins. -/
structure Matching {α : Type} (first : α × Machine κ σ S) (second : α × Machine κ σ T) : Prop where
  reply : first.1 = second.1
  twins : first.2.Twins second.2

/-- Something is drawn, and may fail: nothing else is touched. -/
def Fades (before after : Machine κ σ S) : Prop :=
  ∃ surface failures, after =
      { before with surface := surface, journal := before.journal ++ failures } ∧
    Option.Rel Drawn before.surface surface ∧ ∀ happening ∈ failures, happening.isDrawFailure

section Fades
variable {m : Machine κ σ S}

theorem Fades.refl (m : Machine κ σ S) : m.Fades m := by
  refine ⟨m.surface, [], by simp, ?_, by simp⟩
  cases m.surface with
  | none => exact .none
  | some surface => exact .some (.refl surface)

theorem fades_drawWith (call : DrawCall) {action : Draw S Unit} (draws : OnlyDraws action)
    (m : Machine κ σ S) : m.Fades (m.drawWith call action) := by
  unfold drawWith
  split
  · exact .refl m
  · rename_i surface here
    have drawn := draws.drawn surface
    split
    · rename_i s ran
      rw [ran] at drawn
      exact ⟨some s, [], by simp, here ▸ .some drawn, by simp⟩
    · rename_i e s ran
      rw [ran] at drawn
      refine ⟨some s, [.notice (.drawFailed call e)], rfl, here ▸ .some drawn, ?_⟩
      simp [Happening.isDrawFailure, Notice.isDrawFailure]

theorem fades_drawing (drawing : Drawing) (m : Machine κ σ S) : m.Fades (m.drawing drawing) := by
  cases drawing with
  | rect => exact fades_drawWith _ (onlyDraws_paint _) m
  | circle => exact fades_drawWith _ (onlyDraws_paint _) m
  | line => exact fades_drawWith _ (onlyDraws_paint _) m
  | text => exact fades_drawWith _ (onlyDraws_paintText ..) m

theorem fades_drawFigures (m : Machine κ σ S) : m.Fades m.drawFigures := by
  unfold drawFigures
  split
  · exact .refl m
  · rename_i surface here
    refine ⟨_, _, rfl, here ▸ .some (drawn_figures _ surface), ?_⟩
    intro happening member
    obtain ⟨⟨figure, e⟩, _, rfl⟩ := List.mem_map.mp member
    rfl

theorem fades_presentStage (m : Machine κ σ S) : m.Fades m.presentStage := by
  refine ⟨m.surface.map Surface.present, [], by simp [presentStage], ?_, by simp⟩
  cases m.surface with
  | none => exact .none
  | some surface => exact .some (drawn_serve .present rfl surface)

/-- The caret of the prompt advances where there is a surface to draw it on. -/
def tickPrompt (m : Machine κ σ S) : Machine κ σ S :=
  if m.surface.isSome && m.context.prompt.active then
    m.onPrompt (·.tickCaret m.context.settings.caretInterval)
  else m

theorem fades_drawOverlay (m : Machine κ σ S) : m.tickPrompt.Fades m.drawOverlay := by
  unfold drawOverlay
  split
  · rename_i none
    rw [tickPrompt, none]
    exact .refl m
  · rename_i surface here
    cases shown : m.context.prompt.active with
    | false =>
      have same : m.tickPrompt = m := by simp [tickPrompt, shown]
      have still : m = { m with surface := some surface } := by rw [← here]
      simp only [Prompt.draw, shown, same, Bool.not_false, if_true]
      exact still ▸ .refl m
    | true =>
      let ticked := m.context.prompt.tickCaret m.context.settings.caretInterval
      have same : m.tickPrompt = m.onPrompt fun _ => ticked := if_pos (by simp [here, shown])
      have drawn := (onlyDraws_paintOverlay m.context.settings.overlay ticked.question
        ticked.buffer ticked.caretVisible).drawn surface
      obtain ⟨result, surface', painted⟩ : ∃ result surface',
          Prompt.paintOverlay m.context.settings.overlay ticked.question ticked.buffer
            ticked.caretVisible surface = (result, surface') := ⟨_, _, rfl⟩
      rw [painted] at drawn
      have kept : Option.Rel Drawn (m.onPrompt fun _ => ticked).surface (some surface') :=
        here ▸ .some drawn
      simp only [Prompt.draw, shown, same, Bool.not_true, Bool.false_eq_true, if_false, ticked,
        painted]
      cases result with
      | ok done => exact ⟨_, [], by simp [onPrompt, onContext], kept, by simp⟩
      | error e =>
        refine ⟨_, [.notice (.promptFailed e)], rfl, kept, ?_⟩
        simp [Happening.isDrawFailure, Notice.isDrawFailure]

end Fades

section Twins
variable {m : Machine κ σ S} {n : Machine κ σ T}

theorem Twins.fade {m' : Machine κ σ S} {n' : Machine κ σ T} (twins : m.Twins n)
    (left : m.Fades m') (right : n.Fades n') : m'.Twins n' := by
  obtain ⟨s, failures, rfl, drawn, failed⟩ := left
  obtain ⟨t, others, rfl, drawn', failed'⟩ := right
  refine { twins with surface := ?_, journal := ?_ }
  · have alike := twins.surface
    generalize m.surface = old at alike drawn
    generalize n.surface = old' at alike drawn'
    cases alike with
    | none =>
      cases drawn
      cases drawn'
      exact .none
    | some alike =>
      cases drawn with
      | some drawn =>
        cases drawn' with
        | some drawn' => exact .some (alike.drawn drawn drawn')
  · simp only [Happening.apparent_append, Happening.apparent_failures failed,
      Happening.apparent_failures failed', twins.journal]

theorem Twins.recordAll (twins : m.Twins n) (happenings : List (Happening κ σ)) :
    (m.recordAll happenings).Twins (n.recordAll happenings) :=
  { twins with
    journal := by
      simp only [Machine.recordAll, Happening.apparent_append, twins.journal] }

theorem Twins.record (twins : m.Twins n) (happening : Happening κ σ) :
    (m.record happening).Twins (n.record happening) := twins.recordAll [happening]

theorem Twins.note (twins : m.Twins n) (notice : Notice) : (m.note notice).Twins (n.note notice) :=
  twins.record (.notice notice)

theorem Twins.onContext (twins : m.Twins n) (f : Context κ → Context κ) :
    (m.onContext f).Twins (n.onContext f) :=
  { twins with context := congrArg f twins.context }

theorem Twins.withContext {α : Type} (twins : m.Twins n) (f : Context κ → α × Context κ) :
    Matching (m.withContext f) (n.withContext f) where
  reply := by simp only [Machine.withContext, twins.context]
  twins := { twins with context := by simp only [Machine.withContext, twins.context] }

theorem Twins.withBoard {α : Type} (twins : m.Twins n) (f : Board → α × Board) :
    Matching (m.withBoard f) (n.withBoard f) where
  reply := by simp only [Machine.withBoard, twins.board]
  twins := { twins with board := by simp only [Machine.withBoard, twins.board] }

def face (m : Machine κ σ S) (surface : Option T) (journal : List (Happening κ σ)) :
    Machine κ σ T :=
  ⟨m.context, m.board, m.memory, surface, m.audio, m.present, m.dice, journal⟩

theorem Twins.face (twins : m.Twins n) : ∃ surface journal, n = m.face surface journal ∧
    Option.Rel Alike m.surface surface ∧
    Happening.apparent m.journal = Happening.apparent journal := by
  refine ⟨n.surface, n.journal, ?_, twins.surface, twins.journal⟩
  rw [Machine.face, twins.context, twins.board, twins.memory, twins.audio, twins.present, twins.dice]

theorem Twins.playSound (twins : m.Twins n) (asset : String) :
    (m.playSound asset).Twins (n.playSound asset) := by
  obtain ⟨surface, journal, rfl, alike, told⟩ := twins.face
  cases audio : m.audio with
  | none => simpa [Machine.playSound, Machine.face, audio] using twins
  | some player =>
    cases found : m.context.resolver.resolve m.present asset with
    | error e =>
      simpa [Machine.playSound, Machine.face, audio, found] using
        twins.note (.soundFailed asset e)
    | ok path =>
      obtain ⟨result, player', played⟩ : ∃ result player', player.play path = (result, player') :=
        ⟨_, _, rfl⟩
      have changed : Twins { m with audio := some player' }
          { m.face surface journal with audio := some player' } := { twins with audio := rfl }
      cases result with
      | ok done => simpa [Machine.playSound, Machine.face, audio, found, played] using changed
      | error e =>
        simpa [Machine.playSound, Machine.face, audio, found, played] using
          changed.note (.soundFailed asset e)

theorem Twins.swapImage (twins : m.Twins n) (figure : FigureId) (asset : String) :
    Matching (m.swapImage figure asset) (n.swapImage figure asset) := by
  obtain ⟨surface, journal, rfl, alike, told⟩ := twins.face
  unfold Machine.swapImage
  by_cases there : m.context.figures.contains figure
  · have there' : (m.face surface journal).context.figures.contains figure := there
    rw [if_pos there, if_pos there']
    exact ⟨rfl, rfl, rfl, rfl, rfl, rfl, rfl, alike, told⟩
  · have there' : ¬ (m.face surface journal).context.figures.contains figure := there
    let lost : Settled := .rejected (.asset (.missingFigure figure))
    have added : Twins { m with board := (m.board.add lost).2 }
        { m.face surface journal with board := (m.board.add lost).2 } := { twins with board := rfl }
    rw [if_neg there, if_neg there']
    exact ⟨rfl, added.note (.cannotSwap figure)⟩

theorem Twins.ask (twins : m.Twins n) (question : String) :
    Matching (m.ask question) (n.ask question) := by
  obtain ⟨surface, journal, rfl, alike, told⟩ := twins.face
  exact ⟨rfl, rfl, rfl, rfl, rfl, rfl, rfl, alike, told⟩

theorem Twins.wait (twins : m.Twins n) (millis : Nat) :
    Matching (m.wait millis) (n.wait millis) := by
  obtain ⟨surface, journal, rfl, alike, told⟩ := twins.face
  unfold Machine.wait
  generalize nanosOfMillis millis = delay
  exact ⟨rfl, rfl, rfl, rfl, rfl, rfl, rfl, alike, told⟩

theorem Twins.random (twins : m.Twins n) (low high : Int) :
    Matching (m.random low high) (n.random low high) := by
  have rolled (roll : Dice → Int × Dice) : Matching
      ((roll m.dice).1, { m with dice := (roll m.dice).2 })
      ((roll n.dice).1, { n with dice := (roll n.dice).2 }) :=
    ⟨by rw [twins.dice], { twins with dice := by rw [twins.dice] }⟩
  exact rolled (·.roll low high)

theorem Twins.register (twins : m.Twins n) (f : Handlers κ → Nat × Handlers κ) :
    Matching (m.register f) (n.register f) := twins.withContext _

theorem Twins.onCollision (twins : m.Twins n) (first second : FigureId) (handler : κ) :
    Matching (m.onCollision first second handler) (n.onCollision first second handler) :=
  twins.withContext _

theorem Twins.isSome (twins : m.Twins n) : m.surface.isSome = n.surface.isSome := by
  have alike := twins.surface
  generalize m.surface = old at alike
  generalize n.surface = old' at alike
  cases alike with
  | none => rfl
  | some alike => rfl

theorem Twins.effect (twins : m.Twins n) (c : Call κ σ) : Matching (m.effect c) (n.effect c) := by
  cases c with
  | view => exact ⟨twins.context, twins⟩
  | inspect => exact ⟨by rw [Machine.effect, Machine.effect, twins.context, twins.isSome], twins⟩
  | memory => exact ⟨twins.memory, twins⟩
  | remember memory => exact ⟨rfl, { twins with memory := rfl }⟩
  | createFigure asset => exact twins.withContext (·.createFigure asset)
  | editFigure figure change => exact twins.withContext (·.editFigure figure change)
  | removeFigure figure => exact twins.withContext (·.removeFigure figure)
  | swapImage figure asset => exact twins.swapImage figure asset
  | draw drawing => exact ⟨rfl, twins.fade (fades_drawing drawing m) (fades_drawing drawing n)⟩
  | playSound asset => exact ⟨rfl, twins.playSound asset⟩
  | setAudio player => exact ⟨rfl, { twins with audio := rfl }⟩
  | ask question => exact twins.ask question
  | wait millis => exact twins.wait millis
  | random low high => exact twins.random low high
  | requestStop => exact ⟨rfl, twins.onContext fun c => { c with stopRequested := true }⟩
  | onStart handler => exact twins.register (·.addStart handler)
  | onFrame handler => exact twins.register (·.addFrame handler)
  | onKey key handler => exact twins.register (·.addKey key handler)
  | onCollision first second handler => exact twins.onCollision first second handler
  | defer => exact twins.withBoard (·.add .pending)
  | fulfil value result => exact twins.withBoard (·.fulfil value result)
  | reject value error => exact twins.withBoard (·.reject value error)
  | peek value => exact ⟨by rw [Machine.effect, Machine.effect, twins.board], twins⟩

/-- Scripts come to the same end on twins, and leave twins behind. -/
theorem Twins.perform (twins : m.Twins n) (c : Call κ σ) : Matching (m.perform c) (n.perform c) := by
  obtain ⟨reply, twins⟩ := twins.effect c
  refine ⟨reply, ?_⟩
  simp only [Machine.perform, reply]
  exact twins.record _

theorem Twins.run {ρ : Type} (twins : m.Twins n) (script : Script κ σ ρ) :
    Matching (script.run m) (script.run n) := by
  induction script generalizing m n with
  | done result => exact ⟨rfl, twins⟩
  | fail error => exact ⟨rfl, twins⟩
  | call c next ih =>
    obtain ⟨reply, twins⟩ := twins.perform c
    simp only [Script.run, reply]
    exact ih _ twins

end Twins

section Passes
variable {m : Machine κ σ S} {n : Machine κ σ T}

theorem Matching.cases {α : Type} {first : α × Machine κ σ S} {second : α × Machine κ σ T}
    (matching : Matching first second) :
    ∃ reply m n, first = (reply, m) ∧ second = (reply, n) ∧ m.Twins n :=
  ⟨first.1, first.2, second.2, rfl, Prod.ext matching.reply.symm rfl, matching.twins⟩

theorem Twins.onHandlers (twins : m.Twins n) (f : Handlers κ → Handlers κ) :
    (m.onHandlers f).Twins (n.onHandlers f) := twins.onContext _

theorem Twins.startPass (twins : m.Twins n) (p : Program κ σ) (serial : Nat)
    (handlers : List (Registered κ)) :
    Matching (Machine.startPass p serial handlers m) (Machine.startPass p serial handlers n) := by
  induction handlers generalizing serial m n with
  | nil => exact ⟨rfl, twins⟩
  | cons h rest ih =>
    obtain ⟨reply, m', n', ran, ran', twins⟩ :=
      ((twins.record (.started h.ticket)).run (p.onStart h.handler)).cases
    rw [Machine.startPass, Machine.startPass, ran, ran']
    cases reply with
    | error e => exact ih (twins.note _) serial
    | ok left =>
      cases left with
      | none => exact ih twins serial
      | some task =>
        obtain ⟨tasks, same⟩ := ih (twins.record (.promised serial)) (serial + 1)
        exact ⟨by simp only [tasks], same⟩

theorem Twins.passUntilFailure (twins : m.Twins n) (happening : Registered κ → Happening κ σ)
    (script : κ → Script κ σ Unit) (handlers : List (Registered κ)) :
    Matching (Machine.passUntilFailure happening script handlers m)
      (Machine.passUntilFailure happening script handlers n) := by
  induction handlers generalizing m n with
  | nil => exact ⟨rfl, twins⟩
  | cons h rest ih =>
    obtain ⟨reply, m', n', ran, ran', twins⟩ :=
      ((twins.record (happening h)).run (script h.handler)).cases
    rw [Machine.passUntilFailure, Machine.passUntilFailure, ran, ran']
    cases reply with
    | error e => exact ⟨rfl, twins⟩
    | ok done => exact ih twins

theorem Twins.runFrameHandlers (twins : m.Twins n) (p : Program κ σ) (elapsed : Float32) :
    Matching (m.runFrameHandlers p elapsed) (n.runFrameHandlers p elapsed) := by
  obtain ⟨reply, same⟩ := (twins.onHandlers fun _ => n.context.handlers.takeFrame.2).passUntilFailure
    (fun h => .framed h.ticket elapsed) (fun label => p.onFrame label elapsed)
    n.context.handlers.frame
  unfold Machine.runFrameHandlers
  rw [twins.context]
  exact ⟨reply, same.onHandlers (·.restoreFrame n.context.handlers.frame)⟩

theorem Twins.dispatchKey (twins : m.Twins n) (p : Program κ σ) (key : String) :
    Matching (m.dispatchKey p key) (n.dispatchKey p key) := by
  obtain ⟨reply, same⟩ := (twins.onHandlers fun _ =>
    (n.context.handlers.takeKey key).2).passUntilFailure (fun h => .keyed h.ticket) p.onKey
    (n.context.handlers.ofKey key)
  unfold Machine.dispatchKey
  rw [twins.context]
  dsimp only
  split
  · exact ⟨rfl, twins⟩
  · exact ⟨reply, same.onHandlers (·.restoreKey key (n.context.handlers.ofKey key))⟩

theorem Twins.collide (twins : m.Twins n) (p : Program κ σ) (id : CollisionId) :
    Matching (m.collide p id) (n.collide p id) := by
  unfold Machine.collide
  rw [twins.context]
  split
  · exact ⟨rfl, twins⟩
  · split
    · split
      · exact ⟨rfl, twins⟩
      · rename_i handler registry _
        obtain ⟨reply, same⟩ := ((twins.onContext fun c =>
          { c with collisions := registry }).record (.collided id)).run (p.onCollision handler)
        exact ⟨reply, same.onContext fun c =>
          { c with collisions := c.collisions.restore id handler }⟩
    · exact ⟨rfl, twins⟩

theorem Twins.collideAll (twins : m.Twins n) (p : Program κ σ) (ids : List CollisionId) :
    Matching (Machine.collideAll p ids m) (Machine.collideAll p ids n) := by
  induction ids generalizing m n with
  | nil => exact ⟨rfl, twins⟩
  | cons id rest ih =>
    obtain ⟨reply, m', n', ran, ran', twins⟩ := (twins.collide p id).cases
    rw [Machine.collideAll, Machine.collideAll, ran, ran']
    cases reply with
    | error e => exact ⟨rfl, twins⟩
    | ok done => exact ih twins

theorem Twins.pollTask (twins : m.Twins n) (p : Program κ σ) (task : StartTask κ) :
    ∃ poll left m' n', m.pollTask p task = (poll, left, m') ∧
      n.pollTask p task = (poll, left, n') ∧ m'.Twins n' := by
  cases task with
  | waitFor value =>
    unfold Machine.pollTask
    dsimp only
    rw [twins.board]
    split
    · exact ⟨_, _, m, n, rfl, rfl, twins⟩
    · exact ⟨_, _, m, n, rfl, rfl, twins⟩
    · exact ⟨_, _, m, n, rfl, rfl, twins⟩
  | after value next =>
    unfold Machine.pollTask
    dsimp only
    rw [twins.board]
    split
    · exact ⟨_, _, m, n, rfl, rfl, twins⟩
    · exact ⟨_, _, m, n, rfl, rfl, twins⟩
    · rename_i result _
      cases next with
      | none => exact ⟨_, _, m, n, rfl, rfl, twins⟩
      | some handler =>
        obtain ⟨reply, m', n', ran, ran', twins⟩ := (twins.run (p.onSettled handler result)).cases
        exact ⟨.ready reply, .after value none, m', n', by simp only [ran], by simp only [ran'], twins⟩
  | custom handler =>
    obtain ⟨reply, m', n', ran, ran', twins⟩ := (twins.run (p.onPoll handler)).cases
    unfold Machine.pollTask
    dsimp only
    rw [ran, ran']
    cases reply with
    | error e => exact ⟨_, _, m', n', rfl, rfl, twins⟩
    | ok progress =>
      cases progress with
      | waiting => exact ⟨_, _, m', n', rfl, rfl, twins⟩
      | done => exact ⟨_, _, m', n', rfl, rfl, twins⟩

theorem Twins.pollAll (twins : m.Twins n) (p : Program κ σ) (tasks : List (Waiting κ)) :
    Matching (Machine.pollAll p tasks m) (Machine.pollAll p tasks n) := by
  induction tasks generalizing m n with
  | nil => exact ⟨rfl, twins⟩
  | cons w rest ih =>
    obtain ⟨poll, task, m', n', ran, ran', twins⟩ :=
      (twins.record (.polled w.serial)).pollTask p w.task
    rw [Machine.pollAll, Machine.pollAll, ran, ran']
    cases poll with
    | pending =>
      obtain ⟨waiting, same⟩ := ih twins
      exact ⟨by simp only [waiting], same⟩
    | ready result =>
      cases result with
      | ok done => exact ih (twins.record _)
      | error e => exact ih ((twins.record _).note _)

end Passes
end Machine
end SpriteStage
