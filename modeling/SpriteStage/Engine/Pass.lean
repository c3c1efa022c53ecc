import SpriteStage.Script.Machine

namespace SpriteStage

inductive Poll where
  | pending
  | ready (result : Except ScriptError Unit)

/-- A task that is waited for, with the number it got when it was handed back. -/
structure Waiting (κ : Type) where
  serial : Nat
  task : StartTask κ
  deriving DecidableEq

namespace Machine
variable {κ σ S : Type} [Surface S]

/-- Run the startup handlers, all of them, and number the tasks they leave from a serial on. A
handler that fails leaves none. -/
def startPass (p : Program κ σ) (serial : Nat) :
    List (Registered κ) → Machine κ σ S → List (Waiting κ) × Machine κ σ S
  | [], m => ([], m)
  | h :: rest, m =>
    match (p.onStart h.handler).run (m.record (.started h.ticket)) with
    | (.ok none, m) => startPass p serial rest m
    | (.ok (some task), m) =>
      let (tasks, m) := startPass p (serial + 1) rest (m.record (.promised serial))
      (⟨serial, task⟩ :: tasks, m)
    | (.error e, m) => startPass p serial rest (m.note (.startHandlerFailed e))

def passUntilFailure (happening : Registered κ → Happening κ σ) (script : κ → Script κ σ Unit) :
    List (Registered κ) → Machine κ σ S → Except ScriptError Unit × Machine κ σ S
  | [], m => (.ok (), m)
  | h :: rest, m =>
    match (script h.handler).run (m.record (happening h)) with
    | (.ok (), m) => passUntilFailure happening script rest m
    | (.error e, m) => (.error e, m)

def runFrameHandlers (p : Program κ σ) (elapsed : Float32) (m : Machine κ σ S) :
    Except ScriptError Unit × Machine κ σ S :=
  let (lent, handlers) := m.context.handlers.takeFrame
  let (result, m) := passUntilFailure (fun h => .framed h.ticket elapsed)
    (fun label => p.onFrame label elapsed) lent (m.onHandlers fun _ => handlers)
  (result, m.onHandlers (·.restoreFrame lent))

def dispatchKey (p : Program κ σ) (key : String) (m : Machine κ σ S) :
    Except ScriptError Unit × Machine κ σ S :=
  let (lent, handlers) := m.context.handlers.takeKey key
  if lent.isEmpty then (.ok (), m)
  else
    let (result, m) := passUntilFailure (fun h => .keyed h.ticket) p.onKey lent
      (m.onHandlers fun _ => handlers)
    (result, m.onHandlers (·.restoreKey key lent))

def onCollisions (f : CollisionRegistry κ → CollisionRegistry κ) (m : Machine κ σ S) :
    Machine κ σ S :=
  m.onContext fun c => { c with collisions := f c.collisions }

/-- Run the handler of one registration if it is still there and its figures overlap now. -/
def collide (p : Program κ σ) (id : CollisionId) (m : Machine κ σ S) :
    Except ScriptError Unit × Machine κ σ S :=
  match m.context.collisions.pair? id with
  | none => (.ok (), m)
  | some (first, second) =>
    if m.context.touching first second then
      match m.context.collisions.take id with
      | (none, _) => (.ok (), m)
      | (some handler, registry) =>
        let (result, m) := (p.onCollision handler).run
          ((m.onCollisions fun _ => registry).record (.collided id))
        (result, m.onCollisions (·.restore id handler))
    else (.ok (), m)

def collideAll (p : Program κ σ) :
    List CollisionId → Machine κ σ S → Except ScriptError Unit × Machine κ σ S
  | [], m => (.ok (), m)
  | id :: rest, m =>
    match collide p id m with
    | (.ok (), m) => collideAll p rest m
    | (.error e, m) => (.error e, m)

/-- Run the handlers of all pairs that overlap. Pairs registered meanwhile have to wait. -/
def runCollisions (p : Program κ σ) (m : Machine κ σ S) : Except ScriptError Unit × Machine κ σ S :=
  collideAll p m.context.collisions.ids m

/-- Poll a task. The handler that goes on with a result runs once, however often the task is
polled. -/
def pollTask (p : Program κ σ) (task : StartTask κ) (m : Machine κ σ S) :
    Poll × StartTask κ × Machine κ σ S :=
  match task with
  | .waitFor value => match m.board.state value with
    | .pending => (.pending, task, m)
    | .fulfilled _ => (.ready (.ok ()), task, m)
    | .rejected e => (.ready (.error ⟨e.message⟩), task, m)
  | .after value next => match m.board.state value with
    | .pending => (.pending, task, m)
    | .rejected e => (.ready (.error ⟨e.message⟩), task, m)
    | .fulfilled result => match next with
      | none => (.ready (.ok ()), task, m)
      | some handler =>
        let (outcome, m) := (p.onSettled handler result).run m
        (.ready outcome, .after value none, m)
  | .custom handler => match (p.onPoll handler).run m with
    | (.ok .waiting, m) => (.pending, task, m)
    | (.ok .done, m) => (.ready (.ok ()), task, m)
    | (.error e, m) => (.ready (.error e), task, m)

def pollAll (p : Program κ σ) :
    List (Waiting κ) → Machine κ σ S → List (Waiting κ) × Machine κ σ S
  | [], m => ([], m)
  | w :: rest, m =>
    match pollTask p w.task (m.record (.polled w.serial)) with
    | (.pending, task, m) =>
      let (waiting, m) := pollAll p rest m
      ({ w with task := task } :: waiting, m)
    | (.ready (.ok ()), _, m) => pollAll p rest (m.record (.answered w.serial))
    | (.ready (.error e), _, m) =>
      pollAll p rest ((m.record (.answered w.serial)).note (.startHandlerFailed e))

end Machine
end SpriteStage
