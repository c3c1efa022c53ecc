import SpriteStage.Files.Tree
import SpriteStage.Proofs.Text.Basic

namespace SpriteStage.Path
open SpriteStage.Text
variable {base path asset part : String}

/-- The segments of a path that name something. -/
def names (path : String) : List String :=
  (segments path).filter fun segment => segment ≠ "" && segment ≠ "."

/-- Where one more component leads if nothing is known but its name: a dot stays, two dots take back
the last name, and nothing is above the top. -/
def follow (here : List String) (part : String) : List String :=
  if part = "." then here
  else if part = ".." then
    match here.getLast? with
    | none => [".."]
    | some last =>
      if last = "/" then here else if last = ".." then here ++ [".."] else here.dropLast
  else here ++ [part]

def landing (path : String) : List String := (components path).foldl follow []

theorem segments_free (member : part ∈ segments path) : '/' ∉ part.toList := by
  obtain ⟨field, present, same⟩ := List.mem_map.mp member
  rw [← same, String.toList_ofList]
  exact fields_part present

theorem names_undotted (path : String) : (names path).filter (· ≠ ".") = names path := by
  refine List.filter_eq_self.mpr fun part member => ?_
  have named := (List.mem_filter.mp member).2
  simp_all

theorem slash_not_segment : "/" ∉ segments path := by
  intro member
  have free := segments_free member
  simp at free

theorem isAbsolute_iff : isAbsolute path ↔ ∃ rest, path.toList = '/' :: rest := by
  unfold isAbsolute
  cases path.toList <;> simp

/-- Only an absolute path and an empty one begin with an empty segment. -/
theorem segments_first (relative : isAbsolute path = false) (something : path ≠ "") :
    ∃ first rest, segments path = first :: rest ∧ first ≠ "" := by
  cases spelled : path.toList with
  | nil => exact absurd (String.toList_eq_nil_iff.mp spelled) something
  | cons c rest =>
    have other : c ≠ '/' := by
      intro same
      simp [isAbsolute, spelled, same] at relative
    obtain ⟨first, others, _, whole⟩ := fields_cons rest other
    refine ⟨String.ofList (c :: first), others.map String.ofList, ?_, by simp⟩
    rw [segments, spelled, whole, List.map_cons]

theorem components_relative (relative : isAbsolute path = false) (something : path ≠ "") :
    components path = (if (segments path).head? = some "." then ["."] else []) ++ names path := by
  obtain ⟨first, rest, split, named⟩ := segments_first relative something
  unfold components names
  rw [split]
  by_cases dot : first = "." <;> simp [named, dot]

theorem components_absolute (absolute : isAbsolute path = true) :
    components path = "/" :: names path := by
  obtain ⟨rest, spelled⟩ := isAbsolute_iff.mp absolute
  have split : segments path = "" :: (fields '/' rest).map String.ofList := by
    simp [segments, spelled, fields]
  simp [components, names, split, absolute]

theorem join_relative (base : String) (relative : isAbsolute asset = false) :
    join base asset = base ++ asset ∨ join base asset = base ++ "/" ++ asset := by
  unfold join
  rw [if_neg (by simp [relative])]
  split
  · exact .inl rfl
  · exact .inr rfl

/-- Below a path come the segments of the other one; a slash at the end of the base is the one
between them. -/
theorem segments_join (relative : isAbsolute asset = false) (something : base ≠ "") :
    ∃ shared gap, segments base = shared ++ gap ∧ (gap = [] ∨ gap = [""]) ∧ shared ≠ [] ∧
      segments (join base asset) = shared ++ segments asset := by
  unfold join
  rw [if_neg (by simp [relative])]
  split
  · rename_i ended
    have slash : base.toList.getLast? = some '/' := by
      simpa [something] using ended
    have spelled := (List.dropLast_append_getLast? '/' slash).symm
    refine ⟨(fields '/' base.toList.dropLast).map String.ofList, [""], ?_, .inr rfl, ?_, ?_⟩
    · rw [segments, spelled, fields_append]
      simp [fields]
    · simpa using fields_ne_nil _ _
    · rw [segments, String.toList_append, spelled, List.append_assoc, List.singleton_append,
        fields_append, List.map_append, segments]
      simp
  · refine ⟨segments base, [], by simp, .inl rfl, ?_, ?_⟩
    · simpa [segments] using fields_ne_nil _ _
    · rw [segments, String.toList_append, String.toList_append]
      simp [fields_append, segments]

theorem names_join (relative : isAbsolute asset = false) (something : base ≠ "") :
    names (join base asset) = names base ++ names asset := by
  obtain ⟨shared, gap, split, ends, _, joined⟩ := segments_join relative something
  unfold names
  rw [joined, split, List.filter_append, List.filter_append]
  rcases ends with rfl | rfl <;> simp

theorem isAbsolute_join (relative : isAbsolute asset = false) (something : base ≠ "") :
    isAbsolute (join base asset) = isAbsolute base := by
  obtain ⟨c, rest, spelled⟩ := List.exists_cons_of_ne_nil (mt String.toList_eq_nil_iff.mp something)
  rcases join_relative base relative with joined | joined <;>
    simp [isAbsolute, joined, spelled]

theorem components_join (base : String) (relative : isAbsolute asset = false)
    (something : asset ≠ "") : components (join base asset) =
      components base ++ if base = "" then components asset else names asset := by
  -- Joined to nothing, a path keeps a dot in front, which it loses behind any other base.
  by_cases empty : base = ""
  · subst empty
    have joined : join "" asset = asset := by simp [join, relative]
    simp [joined, components, segments, fields, isAbsolute]
  · rw [if_neg empty]
    obtain ⟨shared, gap, split, _, started, joined⟩ := segments_join relative empty
    have whole : join base asset ≠ "" := by
      intro nothing
      rcases join_relative base relative with spelled | spelled <;>
        simp_all
    cases absolute : isAbsolute base with
    | true =>
      rw [components_absolute absolute,
        components_absolute (isAbsolute_join relative empty ▸ absolute), names_join relative empty,
        List.cons_append]
    | false =>
      have lead : (segments (join base asset)).head? = (segments base).head? := by
        rw [joined, split, List.head?_append_of_ne_nil _ started,
          List.head?_append_of_ne_nil _ started]
      rw [components_relative absolute empty,
        components_relative (isAbsolute_join relative empty ▸ absolute) whole,
        names_join relative empty, lead, List.append_assoc]

theorem foldl_follow {parts : List String} (level : ".." ∉ parts) (here : List String) :
    parts.foldl follow here = here ++ parts.filter (· ≠ ".") := by
  induction parts generalizing here with
  | nil => simp
  | cons part rest ih =>
    have stays : part ≠ ".." := fun same => level (by simp [same])
    rw [List.foldl_cons, ih fun member => level (List.mem_cons_of_mem part member)]
    by_cases dot : part = "." <;> simp [follow, dot, stays]

end SpriteStage.Path
