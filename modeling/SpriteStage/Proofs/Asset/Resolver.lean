import SpriteStage.Asset.Loading
import SpriteStage.Proofs.Files.Path

/-! Assets stay below the folders they are looked for in. What is refused is said of the segments of
the script's text, while the resolver looks at components; what is returned is that text behind the
root or behind a folder of the root. -/

namespace SpriteStage

/-- A path that holds a text behind a base and, as far as names tell, leads nowhere but below the
base. -/
structure Path.Below (base asset path : String) : Prop where
  text : path = base ++ asset ∨ path = base ++ "/" ++ asset
  parts : ∃ parts, Path.components path = Path.components base ++ parts ∧
    parts.Sublist (Path.segments asset) ∧ ".." ∉ parts ∧ "/" ∉ parts
  landing : Path.landing path = Path.landing base ++ Path.names asset
  level : ".." ∉ Path.names asset

namespace Path
variable {base asset : String}

theorem components_sublist (relative : isAbsolute asset = false) (something : asset ≠ "") :
    (components asset).Sublist (segments asset) := by
  obtain ⟨first, rest, split, named⟩ := segments_first relative something
  rw [components, split]
  simp only [named, if_false]
  exact List.filter_sublist.cons_cons first

/-- A path that goes up has a segment of two dots, and one that starts again begins with a slash. -/
theorem mem_components_iff (something : asset ≠ "") :
    "/" ∈ components asset ∨ ".." ∈ components asset ↔
      isAbsolute asset = true ∨ ".." ∈ segments asset := by
  cases absolute : isAbsolute asset with
  | true => simp [components_absolute absolute]
  | false =>
    have within := components_sublist absolute something
    have rooted : "/" ∉ components asset := fun member => slash_not_segment (within.subset member)
    have same : ".." ∈ components asset ↔ ".." ∈ segments asset := by
      refine ⟨fun member => within.subset member, fun member => ?_⟩
      rw [components_relative absolute something]
      exact List.mem_append_right _ (List.mem_filter.mpr ⟨member, by decide⟩)
    simp [rooted, same]

theorem below_join (relative : isAbsolute asset = false) (something : asset ≠ "")
    (level : ".." ∉ segments asset) : Below base asset (join base asset) := by
  have joined := components_join base relative something
  have within : (if base = "" then components asset else names asset).Sublist (segments asset) := by
    split
    · exact components_sublist relative something
    · exact List.filter_sublist
  have flat : ".." ∉ if base = "" then components asset else names asset :=
    fun member => level (within.subset member)
  refine ⟨join_relative base relative, ⟨_, joined, within, flat, ?_⟩, ?_, ?_⟩
  · exact fun member => slash_not_segment (within.subset member)
  · rw [landing, joined, List.foldl_append, foldl_follow flat]
    congr 1
    split
    · rw [components_relative relative something, List.filter_append, names_undotted]
      split <;> simp
    · exact names_undotted asset
  · exact fun member => level (List.mem_of_mem_filter member)

end Path

namespace AssetResolver
variable {r : AssetResolver} {present : String → Bool} {asset path : String}

/-- A trimmed text that is no asset: nothing, a path from the top, or one with a step up. -/
def Refused (asset : String) : Prop :=
  asset = "" ∨ asset.toList.head? = some '/' ∨ ".." ∈ Path.segments asset

def bases (r : AssetResolver) : List String := r.root :: r.fallbacks.map (Path.join r.root)

/-- Where a text belongs: below the root if something is there, else below the first folder where
something is, else below the root. -/
inductive Found (r : AssetResolver) (present : String → Bool) (asset : String) : String → Prop where
  | direct (there : present (Path.join r.root asset) = true) :
      Found r present asset (Path.join r.root asset)
  | fallback {before after : List String} {folder : String}
      (split : r.fallbacks = before ++ folder :: after)
      (direct : present (Path.join r.root asset) = false)
      (earlier : ∀ other ∈ before,
        present (Path.join (Path.join r.root other) asset) = false)
      (there : present (Path.join (Path.join r.root folder) asset) = true) :
      Found r present asset (Path.join (Path.join r.root folder) asset)
  | nowhere (direct : present (Path.join r.root asset) = false)
      (all : ∀ folder ∈ r.fallbacks,
        present (Path.join (Path.join r.root folder) asset) = false) :
      Found r present asset (Path.join r.root asset)

theorem escapes_iff (asset : String) : escapes asset = true ↔ Refused asset := by
  unfold escapes Refused
  by_cases empty : asset = ""
  · simp [empty]
  · have guard : ((Path.components asset).any fun part => part = "/" || part = "..") = true ↔
        "/" ∈ Path.components asset ∨ ".." ∈ Path.components asset := by
      simp [and_or_left, exists_or]
    rw [Bool.or_eq_true, guard, Path.mem_components_iff empty]
    simp [Path.isAbsolute, empty]

theorem find?_candidates (r : AssetResolver) (present : String → Bool) (asset : String) :
    Found r present asset
      (((r.candidates asset).find? present).getD (Path.join r.root asset)) := by
  unfold candidates
  cases direct : present (Path.join r.root asset) with
  | true => simpa [direct] using Found.direct direct
  | false =>
    rw [List.find?_cons_of_neg (by simp [direct]), List.find?_map]
    cases found : r.fallbacks.find? (present ∘ fun folder =>
        Path.join (Path.join r.root folder) asset) with
    | none => exact .nowhere direct (by simpa using found)
    | some folder =>
      obtain ⟨there, before, after, split, earlier⟩ := List.find?_eq_some_iff_append.mp found
      exact .fallback split direct (by simpa using earlier) (by simpa using there)

theorem Found.unique (found : Found r present asset path) :
    path = ((r.candidates asset).find? present).getD (Path.join r.root asset) := by
  unfold candidates
  cases found with
  | direct there => simp [there]
  | nowhere direct all =>
    rw [List.find?_eq_none.mpr (by simpa [direct] using all)]
    rfl
  | @fallback before after folder split direct earlier there =>
    rw [List.find?_cons_of_neg (by simp [direct]), List.find?_map,
      List.find?_eq_some_iff_append.mpr
        ⟨by simpa using there, before, after, split, by simpa using earlier⟩]
    rfl

theorem Found.base (found : Found r present asset path) :
    ∃ base ∈ r.bases, path = Path.join base asset := by
  cases found with
  | direct | nowhere => exact ⟨r.root, List.mem_cons_self, rfl⟩
  | @fallback before after folder split =>
    exact ⟨_, List.mem_cons_of_mem _ (List.mem_map.mpr ⟨folder, by simp [split], rfl⟩), rfl⟩

/-- A text is refused, with the text as the script wrote it, exactly if without the blanks around
it it is empty, starts at the top or has a step up. Every other text is answered with the place
where it belongs, and that place is below the root or below a folder of the root. -/
theorem resolve_contained (r : AssetResolver) (present : String → Bool) (asset : String) :
    (∀ e, r.resolve present asset = .error e ↔
      e = .invalidPath asset ∧ Refused (Text.trim asset)) ∧
    (∀ path, r.resolve present asset = .ok path ↔
      ¬ Refused (Text.trim asset) ∧ Found r present (Text.trim asset) path) ∧
    ∀ path, r.resolve present asset = .ok path →
      ∃ base ∈ r.bases, Path.Below base (Text.trim asset) path := by
  by_cases refused : Refused (Text.trim asset)
  · have failed : r.resolve present asset = .error (.invalidPath asset) := by
      rw [resolve, if_pos ((escapes_iff _).mpr refused)]
    simp [failed, refused, eq_comm]
  · have placed := find?_candidates r present (Text.trim asset)
    have done : r.resolve present asset = .ok
        (((r.candidates (Text.trim asset)).find? present).getD
          (Path.join r.root (Text.trim asset))) := by
      rw [resolve, if_neg (mt (escapes_iff _).mp refused)]
    refine ⟨fun e => by simp [done, refused], fun path => ?_, fun path resolved => ?_⟩
    · rw [done, Except.ok.injEq]
      exact ⟨fun same => ⟨refused, same ▸ placed⟩, fun found => found.2.unique.symm⟩
    · rw [done, Except.ok.injEq] at resolved
      obtain ⟨base, member, joined⟩ := placed.base
      simp only [Refused, not_or] at refused
      obtain ⟨something, relative, level⟩ := refused
      refine ⟨base, member, ?_⟩
      rw [← resolved, joined]
      exact Path.below_join (by simpa [Path.isAbsolute] using relative) something level

/-- Blanks of any kind, repeated slashes and names of many dots pass; two dots do not. -/
theorem dotted_names_resolved :
    let r : AssetResolver := ⟨"game", ["images"]⟩
    let present := fun path => path == "game/images/..a//./cat...png"
    r.resolve present "\u3000..a//./cat...png\t" = .ok "game/images/..a//./cat...png" ∧
      (∃ base ∈ r.bases, Path.Below base "..a//./cat...png" "game/images/..a//./cat...png") ∧
      ∀ e, r.resolve present "a/./.. " = .error e ↔ e = .invalidPath "a/./.. " := by
  intro r present
  have found : r.resolve present "\u3000..a//./cat...png\t" =
      .ok "game/images/..a//./cat...png" := by decide +kernel
  have trimmed : Text.trim "\u3000..a//./cat...png\t" = "..a//./cat...png" := by decide +kernel
  have refused : Refused (Text.trim "a/./.. ") := .inr (.inr (by decide +kernel))
  refine ⟨found, ?_, fun e => ?_⟩
  · exact trimmed ▸ (resolve_contained r present _).2.2 _ found
  · simpa [refused] using (resolve_contained r present "a/./.. ").1 e

end AssetResolver
end SpriteStage
