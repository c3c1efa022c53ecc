import SpriteStage.Engine.Pass

namespace SpriteStage

/-- What is neither a call nor a collision nor a reset: it changes none of the figures,
registrations and handlers. -/
def Happening.isPlain {κ σ : Type} : Happening κ σ → Bool
  | .called .. | .collided _ | .notice .reset => false
  | _ => true

/-- A remark on tasks, images or the run itself: it is plain, and it begins no handler. -/
def Happening.isMark {κ σ : Type} : Happening κ σ → Bool
  | .notice .reset => false
  | .notice _ | .promised _ | .polled _ | .answered _ | .imageApplied .. => true
  | _ => false

theorem Happening.isPlain_of_isMark {κ σ : Type} {happening : Happening κ σ}
    (mark : happening.isMark) : happening.isPlain := by
  cases happening with
  | notice notice =>
    cases notice with
    | reset => cases mark
    | _ => rfl
  | promised | polled | answered | imageApplied => rfl
  | _ => cases mark

/-- A remark on tasks or the run itself, and not on an image. -/
def Happening.isReport {κ σ : Type} : Happening κ σ → Bool
  | .imageApplied .. => false
  | happening => happening.isMark

/-- What is plain and tells of no image: only loads write down images. -/
def Happening.isEntry {κ σ : Type} : Happening κ σ → Bool
  | .imageApplied .. => false
  | happening => happening.isPlain

section Entries
variable {κ σ : Type} {happening : Happening κ σ}

theorem Happening.isMark_of_isReport (report : happening.isReport) : happening.isMark := by
  cases happening with
  | imageApplied => cases report
  | _ => exact report

theorem Happening.isPlain_of_isEntry (entry : happening.isEntry) : happening.isPlain := by
  cases happening with
  | imageApplied => cases entry
  | _ => exact entry

theorem Happening.isEntry_of_isReport (report : happening.isReport) : happening.isEntry := by
  have plain := isPlain_of_isMark (isMark_of_isReport report)
  cases happening with
  | imageApplied => cases report
  | _ => exact plain

end Entries

namespace Machine
variable {κ σ S : Type} [Surface S]

/-- A relation that is kept by every call of a script, and so by every script. -/
structure Kept (R : Machine κ σ S → Machine κ σ S → Prop) : Prop where
  refl : ∀ m, R m m
  trans : ∀ {before middle after}, R before middle → R middle after → R before after
  perform : ∀ (c : Call κ σ) m, R m (m.perform c).2

variable {R : Machine κ σ S → Machine κ σ S → Prop}

theorem Kept.run (kept : Kept R) {ρ : Type} (script : Script κ σ ρ) (m : Machine κ σ S) :
    R m (script.run m).2 := by
  induction script generalizing m with
  | done result => exact kept.refl m
  | fail error => exact kept.refl m
  | call c next ih => exact kept.trans (kept.perform c m) (ih _ _)

theorem Kept.passFirst (kept : Kept R)
    (happening : Registered κ → Happening κ σ) (script : κ → Script κ σ Unit) (h : Registered κ)
    {rest : List (Registered κ)}
    (others : ∀ m, R m (Machine.passUntilFailure happening script rest m).2)
    (m : Machine κ σ S) :
    R (m.record (happening h)) (Machine.passUntilFailure happening script (h :: rest) m).2 := by
  have first := kept.run (script h.handler) (m.record (happening h))
  rw [Machine.passUntilFailure]
  split
  · rename_i m' ran
    rw [ran] at first
    exact kept.trans first (others m')
  · rename_i error m' ran
    rwa [ran] at first

theorem Kept.passUntilFailure (kept : Kept R)
    (happening : Registered κ → Happening κ σ) (begins : ∀ h m, R m (m.record (happening h)))
    (script : κ → Script κ σ Unit) (handlers : List (Registered κ)) (m : Machine κ σ S) :
    R m (Machine.passUntilFailure happening script handlers m).2 := by
  induction handlers generalizing m with
  | nil => exact kept.refl m
  | cons h rest ih => exact kept.trans (begins h m) (kept.passFirst happening script h ih m)

theorem Kept.startPass (kept : Kept R) (notes : ∀ m h, h.isEntry → R m (m.record h))
    (p : Program κ σ) (serial : Nat) (handlers : List (Registered κ)) (m : Machine κ σ S) :
    R m (Machine.startPass p serial handlers m).2 := by
  induction handlers generalizing serial m with
  | nil => exact kept.refl m
  | cons h rest ih =>
    have begins := notes m (.started h.ticket) rfl
    have ran := kept.run (p.onStart h.handler) (m.record (.started h.ticket))
    have first := kept.trans begins ran
    rw [Machine.startPass]
    split
    · rename_i m' same
      rw [same] at first
      exact kept.trans first (ih serial m')
    · rename_i task m' same
      rw [same] at first
      have leaves := kept.trans first (notes m' (.promised serial) rfl)
      exact kept.trans leaves (ih (serial + 1) _)
    · rename_i error m' same
      rw [same] at first
      have fails := kept.trans first (notes m' (.notice (.startHandlerFailed error)) rfl)
      exact kept.trans fails (ih serial _)

theorem Kept.pollTask (kept : Kept R) (p : Program κ σ) (task : StartTask κ) (m : Machine κ σ S) :
    R m (m.pollTask p task).2.2 := by
  unfold Machine.pollTask
  split
  · split <;> exact kept.refl m
  · split
    · exact kept.refl m
    · exact kept.refl m
    · split
      · exact kept.refl m
      · exact kept.run _ m
  · rename_i handler
    have ran := kept.run (p.onPoll handler) m
    split <;> simpa [*] using ran

theorem Kept.pollAll (kept : Kept R) (notes : ∀ m h, h.isReport → R m (m.record h))
    (p : Program κ σ) (tasks : List (Waiting κ)) (m : Machine κ σ S) :
    R m (Machine.pollAll p tasks m).2 := by
  induction tasks generalizing m with
  | nil => exact kept.refl m
  | cons w rest ih =>
    have asks := notes m (.polled w.serial) rfl
    have polls := kept.trans asks (kept.pollTask p w.task (m.record (.polled w.serial)))
    rw [Machine.pollAll]
    split
    · rename_i task m' ran
      rw [ran] at polls
      exact kept.trans polls (ih m')
    · rename_i task m' ran
      rw [ran] at polls
      have answers := kept.trans polls (notes m' (.answered w.serial) rfl)
      exact kept.trans answers (ih _)
    · rename_i error task m' ran
      rw [ran] at polls
      have answers := kept.trans polls (notes m' (.answered w.serial) rfl)
      have fails := kept.trans answers (notes _ (.notice (.startHandlerFailed error)) rfl)
      exact kept.trans fails (ih _)

def beginCollision (id : CollisionId) (m : Machine κ σ S) : Machine κ σ S :=
  (m.onCollisions fun registry => (registry.take id).2).record (.collided id)

/-- A collision: the handler of the registration runs while it is lent out, and is given back. -/
def collision (p : Program κ σ) (id : CollisionId) (handler : κ) (m : Machine κ σ S) :
    Except ScriptError Unit × Machine κ σ S :=
  let (result, m) := (p.onCollision handler).run (m.beginCollision id)
  (result, m.onCollisions (·.restore id handler))

theorem collide_absent (p : Program κ σ) {id : CollisionId} {m : Machine κ σ S}
    (absent : m.context.collisions.find? id = none) : m.collide p id = (.ok (), m) := by
  simp [collide, CollisionRegistry.pair?, absent]

theorem collide_found (p : Program κ σ) {id : CollisionId} {m : Machine κ σ S} {r : Registration κ}
    (found : m.context.collisions.find? id = some r) {handler : κ}
    (own : r.handler = some handler) :
    m.collide p id = if m.context.touching r.first r.second then m.collision p id handler
      else (.ok (), m) := by
  have pair : m.context.collisions.pair? id = some (r.first, r.second) := by
    simp [CollisionRegistry.pair?, found]
  have taken : m.context.collisions.take id = (some handler, (m.context.collisions.take id).2) := by
    simp [CollisionRegistry.take, found, own]
  simp only [collide, pair]
  rw [taken]
  rfl

/-- A registration has its turn: either nothing happens, or its figures touch and its handler, which
is not lent out, runs. -/
theorem collide_cases (p : Program κ σ) (id : CollisionId) (m : Machine κ σ S) :
    m.collide p id = (.ok (), m) ∨ ∃ r handler, m.context.collisions.find? id = some r ∧
      m.context.touching r.first r.second ∧ r.handler = some handler ∧
      m.collide p id = m.collision p id handler := by
  cases found : m.context.collisions.find? id with
  | none => exact .inl (collide_absent p found)
  | some r =>
    cases own : r.handler with
    | none =>
      exact .inl (by simp [collide, CollisionRegistry.pair?, CollisionRegistry.take, found, own])
    | some handler =>
      rw [collide_found p found own]
      cases touching : m.context.touching r.first r.second with
      | false => exact .inl (if_neg (by simp))
      | true => exact .inr ⟨r, handler, rfl, touching, own, if_pos rfl⟩

theorem Kept.collideAll (kept : Kept R) (p : Program κ σ)
    (begins : ∀ m id r, m.context.collisions.find? id = some r →
      m.context.touching r.first r.second → R m (m.beginCollision id))
    (restores : ∀ m id handler, R m (m.onCollisions (·.restore id handler)))
    (ids : List CollisionId) (m : Machine κ σ S) : R m (Machine.collideAll p ids m).2 := by
  have one (id : CollisionId) (m : Machine κ σ S) : R m (m.collide p id).2 := by
    rcases collide_cases p id m with same | ⟨r, handler, found, touching, _, same⟩
    · exact same ▸ kept.refl m
    · rw [same]
      have ran := kept.trans (begins m id r found touching) (kept.run (p.onCollision handler) _)
      exact kept.trans ran (restores _ id handler)
  induction ids generalizing m with
  | nil => exact kept.refl m
  | cons id rest ih =>
    have first := one id m
    rw [Machine.collideAll]
    split
    · rename_i m' ran
      rw [ran] at first
      exact kept.trans first (ih m')
    · rename_i error m' ran
      rwa [ran] at first

end Machine
end SpriteStage
