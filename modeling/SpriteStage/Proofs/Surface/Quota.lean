import SpriteStage.Proofs.Lists
import SpriteStage.Proofs.Surface.Alike
import SpriteStage.Surface.Quota

namespace SpriteStage

/-- Two recordings make the same images from now on. -/
structure RecordingSurface.MakesAlike (r s : RecordingSurface) : Prop where
  width : r.width = s.width
  height : r.height = s.height
  images : r.images = s.images
  nextHandle : r.nextHandle = s.nextHandle

theorem RecordingSurface.MakesAlike.load {r s : RecordingSurface} (alike : r.MakesAlike s)
    (path : String) : (r.load path).1 = (s.load path).1 ∧
      (r.load path).2.MakesAlike (s.load path).2 := by
  unfold RecordingSurface.load
  dsimp only
  rw [alike.images, alike.nextHandle]
  split
  · exact ⟨rfl, alike.width, alike.height, rfl, rfl⟩
  · exact ⟨rfl, alike.width, alike.height, rfl, rfl⟩

theorem RecordingSurface.MakesAlike.makeSolid {r s : RecordingSurface} (alike : r.MakesAlike s)
    (width height : UInt32) (colour : Colour) :
    (r.makeSolid width height colour).1 = (s.makeSolid width height colour).1 ∧
      (r.makeSolid width height colour).2.MakesAlike (s.makeSolid width height colour).2 :=
  ⟨alike.nextHandle, { alike with nextHandle := congrArg (· + 1) alike.nextHandle }⟩

namespace QuotaSurface

/-- A surface with quotas on drawing alone makes the same images as a recording. -/
structure Follows (r : RecordingSurface) (q : QuotaSurface) : Prop where
  record : r.MakesAlike q.record
  loads : q.quotas.lookup .loadImage = none
  solids : q.quotas.lookup .solidImage = none

variable {r : RecordingSurface} {q : QuotaSurface}

theorem Follows.onRecord (follows : Follows r q) {f : RecordingSurface → RecordingSurface}
    (keeps : q.record.MakesAlike (f q.record)) : Follows r (q.onRecord f) where
  record := ⟨follows.record.width.trans keeps.width, follows.record.height.trans keeps.height,
    follows.record.images.trans keeps.images, follows.record.nextHandle.trans keeps.nextHandle⟩
  loads := follows.loads
  solids := follows.solids

theorem Follows.spend (follows : Follows r q) {kind : CallKind} (load : kind ≠ .loadImage)
    (solid : kind ≠ .solidImage) {spent : QuotaSurface} (spends : q.spend? kind = some spent) :
    Follows r spent := by
  unfold spend? at spends
  split at spends
  · cases spends
    exact follows
  · cases spends
  · rename_i left _
    cases spends
    refine ⟨follows.record, ?_, ?_⟩
    · rw [lookup_entry, if_neg load.symm, lookup_without, if_neg load.symm]
      exact follows.loads
    · rw [lookup_entry, if_neg solid.symm, lookup_without, if_neg solid.symm]
      exact follows.solids

theorem Follows.paint (follows : Follows r q) (shape : Shape) :
    Follows r (Surface.paint shape q).2 := by
  have load : shape.kind ≠ .loadImage := by
    cases shape <;> simp [Shape.kind]
  have solid : shape.kind ≠ .solidImage := by
    cases shape <;> simp [Shape.kind]
  simp only [Surface.paint]
  split
  · exact follows
  · rename_i spent spends
    exact (follows.spend load solid spends).onRecord ⟨rfl, rfl, rfl, rfl⟩

theorem Follows.paintText (follows : Follows r q) (text : String) (x y : Float32) (colour : Colour)
    (size : Float32) : Follows r (Surface.paintText text x y colour size q).2 := by
  have squares (pixels : List Glyph.Pixel) (fill : Glyph.Pixel → Draw QuotaSurface Unit)
      (fills : ∀ pixel {q : QuotaSurface}, Follows r q → Follows r (fill pixel q).2)
      {q : QuotaSurface} (follows : Follows r q) : Follows r (pixels.forM fill q).2 := by
    induction pixels generalizing q with
    | nil => exact follows
    | cons pixel rest ih =>
      have first := fills pixel follows
      have whole : (pixel :: rest).forM fill = fill pixel >>= fun _ => rest.forM fill := rfl
      rw [whole, draw_bind]
      split
      · rename_i done s ran
        rw [ran] at first
        exact ih first
      · rename_i e s ran
        rwa [ran] at first
  exact squares _ _ (fun pixel {q} follows => follows.paint _) follows

theorem spend?_free {kind : CallKind} (free : q.quotas.lookup kind = none) :
    q.spend? kind = some q := by
  rw [spend?, free]

theorem likeness_follows : Likeness Follows where
  left r q call draws follows := by
    have drawn (s : RecordingSurface) (same : s.MakesAlike r) : Follows s q :=
      { follows with
        record := ⟨same.width.trans follows.record.width, same.height.trans follows.record.height,
          same.images.trans follows.record.images,
          same.nextHandle.trans follows.record.nextHandle⟩ }
    cases call with
    | size | load | solid => cases draws
    | paint | text | pose | present => exact drawn _ ⟨rfl, rfl, rfl, rfl⟩
  right r q call draws follows := by
    cases call with
    | size | load | solid => cases draws
    | paint shape => exact follows.paint shape
    | text words x y colour height => exact follows.paintText words x y colour height
    | pose change => exact follows.onRecord ⟨rfl, rfl, rfl, rfl⟩
    | present => exact follows
  asks r q call asks follows := by
    cases call with
    | size =>
      have same : Surface.size r = Surface.size q :=
        Prod.ext follows.record.width follows.record.height
      exact ⟨congrArg (fun size => some (SurfaceAnswer.size size)) same, follows⟩
    | load path =>
      obtain ⟨result, later⟩ := follows.record.load path
      simp only [SurfaceCall.serve, Surface.loadImage, spend?_free follows.loads]
      exact ⟨by rw [result], { follows with record := later }⟩
    | solid width height colour =>
      obtain ⟨handle, later⟩ := follows.record.makeSolid width height colour
      simp only [SurfaceCall.serve, Surface.solidImage, spend?_free follows.solids]
      exact ⟨by rw [handle], { follows with record := later }⟩
    | paint | text | pose | present => cases asks

theorem alike_record (loads : q.quotas.lookup .loadImage = none)
    (solids : q.quotas.lookup .solidImage = none) : Alike q.record q :=
  likeness_follows.alike ⟨⟨rfl, rfl, rfl, rfl⟩, loads, solids⟩

end QuotaSurface
end SpriteStage
