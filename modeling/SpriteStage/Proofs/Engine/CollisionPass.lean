import SpriteStage.Proofs.Engine.Steady
import SpriteStage.Proofs.Script.Registrations

/-! Passes over the collision registrations. A pass goes through the registrations that are there
when it begins; each has its turn on the stage that those before it left, and the handlers may
change the registry under the pass. -/

namespace SpriteStage.Machine
open Journal
variable {κ σ S : Type}

def since (before after : Machine κ σ S) : List (Happening κ σ) :=
  after.journal.drop before.journal.length

theorem since_eq {before after : Machine κ σ S} {news : List (Happening κ σ)}
    (journal : after.journal = before.journal ++ news) : before.since after = news := by
  simp [since, journal]

theorem mem_collided {id : CollisionId} {news : List (Happening κ σ)} :
    .collided id ∈ news ↔ id ∈ news.filterMap (·.collided?) := by
  rw [List.mem_filterMap]
  constructor
  · exact fun member => ⟨_, member, rfl⟩
  · rintro ⟨happening, member, same⟩
    cases happening with
    | collided other => exact Option.some.inj same ▸ member
    | _ => cases same

/-- Some turns have been had: handlers began to run for registrations of these ids alone, each at
most once and in this order. -/
structure Turned (ids : List CollisionId) (before after : Machine κ σ S)
    (news : List (Happening κ σ)) : Prop where
  journal : after.journal = before.journal ++ news
  fired : (news.filterMap (·.collided?)).Sublist ids
  changes : before.context.collisions.Changes news after.context.collisions

section Turned
variable {ids others : List CollisionId} {before between after m : Machine κ σ S}
  {news more : List (Happening κ σ)}

theorem Turned.nothing (ids : List CollisionId) (m : Machine κ σ S) : Turned ids m m [] :=
  ⟨by simp, List.nil_sublist ids, .refl _⟩

theorem Turned.append (first : Turned ids before between news)
    (second : Turned others between after more) :
    Turned (ids ++ others) before after (news ++ more) where
  journal := by rw [second.journal, first.journal, List.append_assoc]
  fired := by
    rw [List.filterMap_append]
    exact first.fired.append second.fired
  changes := first.changes.append second.changes

end Turned

variable [Surface S] {p : Program κ σ} {m : Machine κ σ S}

theorem run_changes {ρ : Type} (script : Script κ σ ρ) (m : Machine κ σ S) : ∃ news,
    (script.run m).2.journal = m.journal ++ news ∧ news.filterMap (·.collided?) = [] ∧
      m.context.collisions.Changes news (script.run m).2.context.collisions := by
  obtain ⟨news, journal, quiet, history⟩ :=
    Aspect.registry_arranged.told script m Happening.collided?_of_isAside
  exact ⟨news, journal, quiet, .of_history history⟩

/-- The handler of a registration that is there runs, whatever it does to the registry, and is back
after that unless the registration has been purged. -/
theorem collision_turned (p : Program κ σ) (sound : m.context.collisions.Sound) {r : Registration κ}
    (member : r ∈ m.context.collisions.entries) {handler : κ} (own : r.handler = some handler) :
    ∃ news, Turned [r.id] m (m.collision p r.id handler).2 (.collided r.id :: news) := by
  obtain ⟨news, journal, quiet, changes⟩ :=
    run_changes (p.onCollision handler) (m.beginCollision r.id)
  have back : m.context.collisions.Changes news
      (m.collision p r.id handler).2.context.collisions := by
    refine ⟨?_, changes.latest, changes.ascending, changes.numbers, changes.held⟩
    have restored := sound.restore_take member own (fun s => !purged news s)
      (fun s other => congrArg (!·) (purged_withHandler news s r.id other)) changes.ascending
      fun s new => (changes.numbers s new).1
    rw [← restored]
    exact congrArg (CollisionRegistry.setHandler r.id (some handler)) changes.entries
  have begins : m.context.collisions.Changes [(.collided r.id : Happening κ σ)]
      m.context.collisions := .of_silent rfl rfl fun _ => rfl
  have fired : (.collided r.id :: news).filterMap (·.collided?) = [r.id] := by
    rw [List.filterMap_cons, quiet]
    rfl
  exact ⟨news, journal.trans (List.append_assoc ..), fired ▸ List.Sublist.refl _,
    begins.append back⟩

theorem collide_turned (p : Program κ σ) (sound : m.context.collisions.Sound) (id : CollisionId) :
    ∃ news, Turned [id] m (m.collide p id).2 news := by
  rcases collide_cases p id m with same | ⟨r, handler, found, _, own, same⟩
  · exact ⟨[], same ▸ .nothing [id] m⟩
  · obtain rfl : r.id = id := by simpa using List.find?_some found
    obtain ⟨news, turned⟩ := collision_turned p sound (List.mem_of_find?_eq_some found) own
    exact ⟨_, same ▸ turned⟩

theorem collideAll_turned (p : Program κ σ) (ids : List CollisionId) {m : Machine κ σ S}
    (sound : m.context.collisions.Sound) : ∃ news, Turned ids m (m.collideAll p ids).2 news := by
  induction ids generalizing m with
  | nil => exact ⟨[], .nothing [] m⟩
  | cons id rest ih =>
    obtain ⟨news, turned⟩ := collide_turned p sound id
    rw [collideAll]
    split
    · rename_i m' ran
      rw [ran] at turned
      -- the handler is back before the next turn, which so finds the registry at rest again
      obtain ⟨more, others⟩ := ih (turned.changes.sound sound)
      exact ⟨news ++ more, turned.append others⟩
    · rename_i error m' ran
      rw [ran] at turned
      exact ⟨news ++ [], turned.append (.nothing rest m')⟩

theorem collideAll_append (p : Program κ σ) (early late : List CollisionId) (m : Machine κ σ S) :
    m.collideAll p (early ++ late) =
      match m.collideAll p early with
      | (.ok (), m) => m.collideAll p late
      | (.error error, m) => (.error error, m) := by
  induction early generalizing m with
  | nil => rfl
  | cons id rest ih =>
    rw [List.cons_append, collideAll, collideAll]
    split
    · rename_i m' ran
      exact ih m'
    · rfl

theorem collideAll_concat (p : Program κ σ) (early : List CollisionId) (id : CollisionId)
    (m : Machine κ σ S) :
    m.collideAll p (early ++ [id]) =
      match m.collideAll p early with
      | (.ok (), m) => m.collide p id
      | (.error error, m) => (.error error, m) := by
  have one (m : Machine κ σ S) : m.collideAll p [id] = m.collide p id := by
    rw [collideAll]
    split <;> simp only [*, collideAll]
  simp only [collideAll_append, one]

/-- A registration has its turn after those before it: no handler has failed, the registration has
not been purged meanwhile, and both figures are there and overlap. -/
structure Fires (m : Machine κ σ S) (r : Registration κ)
    (turn : Except ScriptError Unit × Machine κ σ S) : Prop where
  unfailed : turn.1 = .ok ()
  kept : purged (m.since turn.2) r = false
  overlap : ∃ first second, turn.2.context.figures.get? r.first = some first ∧
    turn.2.context.figures.get? r.second = some second ∧ first.bounds.overlaps second.bounds

section Turn
variable {before later : List (Registration κ)} {r : Registration κ} {handler : κ}
  {turn : Except ScriptError Unit × Machine κ σ S}

theorem collideAll_turn (p : Program κ σ) (sound : m.context.collisions.Sound)
    (member : r ∈ m.context.collisions.entries) (own : r.handler = some handler)
    (had : m.collideAll p (before.map (·.id)) = turn) :
    (Fires m r turn →
      m.collideAll p ((before ++ [r]).map (·.id)) = turn.2.collision p r.id handler) ∧
    (¬ Fires m r turn → m.collideAll p ((before ++ [r]).map (·.id)) = turn) := by
  obtain ⟨news, turned⟩ := collideAll_turned p (before.map (·.id)) sound
  rw [List.map_append, List.map_singleton, collideAll_concat, had]
  rw [had] at turned
  obtain ⟨result, stage⟩ := turn
  have found := turned.changes.find? sound member
  have since : m.since stage = news := since_eq turned.journal
  cases result with
  | error error => exact ⟨fun fires => absurd fires.unfailed (by simp), fun _ => rfl⟩
  | ok done =>
    cases gone : purged news r with
    | true =>
      rw [gone, if_pos rfl] at found
      have purged : ¬ Fires m r (.ok done, stage) := fun fires => by
        simpa [since, gone] using fires.kept
      exact ⟨fun fires => absurd fires purged, fun _ => collide_absent p found⟩
    | false =>
      rw [gone, if_neg (by simp)] at found
      have turns := collide_found p found own
      have fires : Fires m r (.ok done, stage) ↔ stage.context.touching r.first r.second := by
        rw [Context.touching, FigureStore.touching_iff]
        exact ⟨fun fires => fires.overlap, fun overlap => ⟨rfl, since ▸ gone, overlap⟩⟩
      rw [fires]
      exact ⟨fun touching => turns.trans (if_pos touching), fun apart => turns.trans (if_neg apart)⟩

/-- What comes after begins no handler of another registration. -/
theorem collided_since_append (p : Program κ σ) (sound : m.context.collisions.Sound)
    (early : List CollisionId) {late : List CollisionId} {id : CollisionId} (apart : id ∉ late) :
    .collided id ∈ m.since (m.collideAll p (early ++ late)).2 ↔
      .collided id ∈ m.since (m.collideAll p early).2 := by
  obtain ⟨news, turned⟩ := collideAll_turned p early sound
  rw [collideAll_append]
  split
  · rename_i m' ran
    rw [ran] at turned ⊢
    obtain ⟨more, others⟩ := collideAll_turned p late (turned.changes.sound sound)
    have unheard : .collided id ∉ more := fun heard =>
      apart (others.fired.subset (mem_collided.mp heard))
    rw [since_eq turned.journal, since_eq (turned.append others).journal, List.mem_append]
    exact or_iff_left unheard
  · rename_i error m' ran
    rw [ran]

/-- A handler runs for a registration exactly if the registration fires when it has its turn. -/
theorem collided_iff_fires (p : Program κ σ) (sound : m.context.collisions.Sound)
    (entries : m.context.collisions.entries = before ++ r :: later)
    (had : m.collideAll p (before.map (·.id)) = turn) :
    .collided r.id ∈ m.since (m.runCollisions p).2 ↔ Fires m r turn := by
  have member : r ∈ m.context.collisions.entries := by simp [entries]
  have ascending := sound.ascending
  rw [entries] at ascending
  obtain ⟨-, upward, apart⟩ := List.pairwise_append.mp ascending
  have above : r.id ∉ later.map (·.id) := by
    rintro listed
    obtain ⟨s, present, same⟩ := List.mem_map.mp listed
    exact Nat.ne_of_gt ((List.pairwise_cons.mp upward).1 s present) same
  have below : r.id ∉ before.map (·.id) := by
    rintro listed
    obtain ⟨s, present, same⟩ := List.mem_map.mp listed
    exact Nat.ne_of_lt (apart s present r List.mem_cons_self) same
  have ids : m.context.collisions.ids = (before ++ [r]).map (·.id) ++ later.map (·.id) := by
    simp [CollisionRegistry.ids, entries]
  obtain ⟨handler, own⟩ := sound.held r member
  obtain ⟨fires, rests⟩ := collideAll_turn p sound member own had
  obtain ⟨news, turned⟩ := collideAll_turned p (before.map (·.id)) sound
  rw [had] at turned
  rw [runCollisions, ids, collided_since_append p sound _ above]
  constructor
  · intro heard
    by_contra silent
    rw [rests silent, since_eq turned.journal] at heard
    exact below (turned.fired.subset (mem_collided.mp heard))
  · intro turns
    obtain ⟨more, journal, -⟩ := run_changes (p.onCollision handler) (turn.2.beginCollision r.id)
    have grown : (turn.2.collision p r.id handler).2.journal =
        m.journal ++ (news ++ (.collided r.id :: more)) := by
      refine journal.trans ?_
      change (turn.2.journal ++ [.collided r.id]) ++ more = _
      rw [turned.journal]
      simp
    rw [fires turns, since_eq grown]
    simp

end Turn

/-- A pass over the collision registrations. -/
structure CollisionPass (p : Program κ σ) (m : Machine κ σ S) : Prop where
  distinct : m.context.collisions.ids.Nodup
  held : ∀ r ∈ m.context.collisions.entries, ∃ handler, r.handler = some handler
  turns : ∀ before r later turn, m.context.collisions.entries = before ++ r :: later →
    m.collideAll p (before.map (·.id)) = turn →
    (.collided r.id ∈ m.since (m.runCollisions p).2 ↔ Fires m r turn) ∧
    (¬ Fires m r turn → m.collideAll p ((before ++ [r]).map (·.id)) = turn) ∧
    ∀ handler, r.handler = some handler → Fires m r turn →
      m.collideAll p ((before ++ [r]).map (·.id)) = turn.2.collision p r.id handler
  once : ((m.since (m.runCollisions p).2).filterMap (·.collided?)).Sublist m.context.collisions.ids
  registry : (m.runCollisions p).2.context.collisions.entries =
    m.context.collisions.entries.filter (fun r => !purged (m.since (m.runCollisions p).2) r) ++
      added (m.since (m.runCollisions p).2)

theorem CollisionPass.of_sound (p : Program κ σ) (sound : m.context.collisions.Sound) :
    CollisionPass p m := by
  obtain ⟨news, turned⟩ := collideAll_turned p m.context.collisions.ids sound
  have since : m.since (m.runCollisions p).2 = news := since_eq turned.journal
  refine ⟨?_, sound.held, ?_, since ▸ turned.fired, since ▸ turned.changes.entries⟩
  · exact List.pairwise_map.mpr (sound.ascending.imp Nat.ne_of_lt)
  · intro before r later turn entries had
    have member : r ∈ m.context.collisions.entries := by simp [entries]
    obtain ⟨handler, own⟩ := sound.held r member
    refine ⟨collided_iff_fires p sound entries had, (collideAll_turn p sound member own had).2, ?_⟩
    exact fun handler own => (collideAll_turn p sound member own had).1

end SpriteStage.Machine

namespace SpriteStage.Engine
variable {κ σ S : Type} [Surface S] {p : Program κ σ} {e : Engine κ σ S}

theorem steady_changes (p : Program κ σ) : Steady p fun (before after : Machine κ σ S) =>
    before.context.collisions.Sound → ∃ news, after.journal = before.journal ++ news ∧
      before.context.collisions.Changes news after.context.collisions where
  refl _ _ := ⟨[], by simp, .refl _⟩
  trans first second sound := by
    obtain ⟨news, journal, changes⟩ := first sound
    obtain ⟨more, moreJournal, moreChanges⟩ := second (changes.sound sound)
    exact ⟨news ++ more, by simp [journal, moreJournal], changes.append moreChanges⟩
  perform c m _ := by
    obtain ⟨news, journal, history⟩ := Aspect.registry_arranged.kept.perform c m
    exact ⟨news, journal, .of_history history⟩
  idles idles _ := by
    obtain ⟨news, journal, history⟩ := Aspect.registry_arranged.idles idles
    exact ⟨news, journal, .of_history history⟩
  lends _ _ _ := ⟨[], by simp [Machine.onHandlers, Machine.onContext], .refl _⟩
  collides m sound := by
    obtain ⟨news, turned⟩ := Machine.collideAll_turned p m.context.collisions.ids sound
    exact ⟨news, turned.journal, turned.changes⟩

theorem steady_sound (p : Program κ σ) : Steady p fun (before after : Machine κ σ S) =>
    before.context.collisions.Sound → after.context.collisions.Sound := by
  have steady := steady_changes (S := S) p
  have rests {before after : Machine κ σ S} (changes : before.context.collisions.Sound →
      ∃ news, after.journal = before.journal ++ news ∧
        before.context.collisions.Changes news after.context.collisions)
      (sound : before.context.collisions.Sound) : after.context.collisions.Sound := by
    obtain ⟨news, _, changed⟩ := changes sound
    exact changed.sound sound
  exact {
    refl := fun _ => id
    trans := fun first second => second ∘ first
    perform := fun c m => rests (steady.perform c m)
    idles := fun idles => rests (steady.idles idles)
    lends := fun m f => rests (steady.lends m f)
    collides := fun m => rests (steady.collides m) }

theorem Reachable.sound (reached : Reachable p e) : e.context.collisions.Sound := by
  induction reached with
  | new => exact CollisionRegistry.sound_of_nil rfl
  | step _ call ih =>
    have cleared (m : Machine κ σ S) : m.context.collisions.clear.Sound :=
      CollisionRegistry.sound_of_nil rfl
    exact (steady_sound p).step (fun _ => id) (fun m _ => cleared m) _ call ih

/-- In each call but a reset the registry keeps what is not purged, and gets on top what is added
and not purged. -/
theorem step_registrations (e : Engine κ σ S) {call : HostCall κ σ S} (kept : call ≠ .reset)
    (sound : e.context.collisions.Sound) : (e.step p call).2.context.collisions.entries =
      e.context.collisions.entries.filter (fun r => !Journal.purged (e.news p call) r) ++
        Journal.added (e.news p call) := by
  have steady := steady_changes (S := S) p
  obtain ⟨news, journal, changes⟩ := steady.routine.step_kept steady.idles
    (fun m _ => ⟨[], (List.append_nil _).symm, .refl _⟩) e kept sound
  rw [news_eq journal]
  exact changes.entries

/-- The stage on which a frame goes through the collision registrations, if it comes to that. -/
def collidesAt (p : Program κ σ) (now : Nat) (e : Engine κ σ S) : Option (Machine κ σ S) :=
  let polled := e.polledAt p now
  if !e.running || polled.barrier.isSome || polled.promptActive then none
  else match polled.machine.runFrameHandlers p (e.elapsedAt now) with
    | (.error _, _) => none
    | (.ok (), m) => some (m.onInput fun s => { s with keys := s.keys.clearJustPressed })

theorem Plays.collidesAt_eq {now : Nat} (plays : e.Plays p now) : e.collidesAt p now =
    match (e.polledAt p now).machine.runFrameHandlers p (e.elapsedAt now) with
    | (.error _, _) => none
    | (.ok (), m) => some m.untapped := by
  unfold collidesAt
  rw [if_neg (by simp [plays.running, plays.down, plays.hidden])]
  rfl

theorem collidesAt_some {now : Nat} {m : Machine κ σ S} (collides : e.collidesAt p now = some m) :
    e.Plays p now ∧ ∃ framed,
      (e.polledAt p now).machine.runFrameHandlers p (e.elapsedAt now) = (.ok (), framed) ∧
      m = framed.untapped := by
  unfold collidesAt at collides
  dsimp only at collides
  split at collides
  · cases collides
  · rename_i plays
    simp only [Bool.or_eq_true, not_or, Bool.not_eq_true, Bool.not_eq_false'] at plays
    obtain ⟨⟨running, down⟩, hidden⟩ := plays
    split at collides
    · cases collides
    · rename_i framed ran
      exact ⟨⟨running, down, hidden⟩, framed, ran, (Option.some.inj collides).symm⟩

theorem frame_collides {now : Nat} {m : Machine κ σ S} (collides : e.collidesAt p now = some m) :
    e.frame p now = match m.runCollisions p with
      | (.error error, m) =>
        (.error (.script error), { e.polledAt p now with machine := m }.halt error)
      | (.ok (), m) =>
        let ended := { e.polledAt p now with machine := m.drawFigures.presentStage }.obeyStopRequest
        (.ok ended.status, ended) := by
  obtain ⟨plays, framed, ran, rfl⟩ := collidesAt_some collides
  have played := frame_playing p now plays.running plays.down plays.hidden
  unfold playFrame at played
  rw [ran] at played
  exact played

theorem Reachable.collidesAt_sound (reached : Reachable p e) {now : Nat} {m : Machine κ σ S}
    (collides : e.collidesAt p now = some m) : m.context.collisions.Sound := by
  obtain ⟨_, framed, ran, rfl⟩ := collidesAt_some collides
  have polled := (steady_sound p).polledAt now e reached.sound
  have sound := (steady_sound p).routine.framed ran polled
  exact sound

/-- In every run, a pass over the collision registrations invokes just those that fire when they
have their turn, and leaves the registry with every handler in its place, whatever the handlers do.
-/
theorem Reachable.collision_pass (reached : Reachable p e) :
    Machine.CollisionPass p e.machine ∧
      ∀ now m, e.collidesAt p now = some m → Machine.CollisionPass p m :=
  ⟨.of_sound p reached.sound, fun _ _ collides => .of_sound p (reached.collidesAt_sound collides)⟩

/-- A program whose collision handlers remove the second figure, and register another pair. -/
def jostling : Program Unit Unit where
  onStart _ := return none
  onFrame _ _ := return ()
  onKey _ := return ()
  onCollision _ := do
    let _ ← Script.perform (.removeFigure 2)
    let _ ← Script.perform (.onCollision 1 3 ())
  onSettled _ _ := return ()
  onPoll _ := return .done

def jostlingStage : Engine Unit Unit RecordingSurface :=
  let register : Script Unit Unit Unit := do
    let _ ← Script.perform (.createFigure "a.png")
    let _ ← Script.perform (.createFigure "b.png")
    let _ ← Script.perform (.createFigure "c.png")
    let _ ← Script.perform (.onCollision 1 2 ())
    let _ ← Script.perform (.onCollision 2 3 ())
  (new .standard (fun _ => false) ()).after jostling
    [.attach (.ofSize 640 480), .script register, .start 0 "12:00:00"]

/-- The first handler purges its own registration and the second one, which then does not fire. -/
theorem jostling_purges_both :
    Reachable jostling jostlingStage ∧ ∃ m, jostlingStage.collidesAt jostling 16 = some m ∧
      Machine.CollisionPass jostling m ∧
      (m.since (m.runCollisions jostling).2).filterMap (·.collided?) = [1] ∧
      (m.runCollisions jostling).2.context.collisions.entries = [⟨3, 1, 3, some ()⟩] := by
  have reached : Reachable jostling jostlingStage := reachable_after jostling _ (.new ..)
  have collides : (jostlingStage.collidesAt jostling 16).isSome := by rfl
  have found := (Option.some_get collides).symm
  exact ⟨reached, _, found, reached.collision_pass.2 16 _ found, by rfl, by rfl⟩

end SpriteStage.Engine
