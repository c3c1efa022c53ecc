import Mathlib.Data.List.Basic
import Mathlib.Data.List.DropRight
import SpriteStage.Text.Basic

namespace SpriteStage.Text
variable {c separator last : Char} {cs before after part rest : List Char}

theorem trimChars_eq_rdropWhile (cs : List Char) :
    trimChars cs = (cs.dropWhile isBlank).rdropWhile isBlank :=
  rfl

theorem mem_dropWhile (member : c ∈ cs) (visible : isBlank c = false) :
    c ∈ cs.dropWhile isBlank := by
  rw [← List.takeWhile_append_dropWhile (p := isBlank) (l := cs)] at member
  rcases List.mem_append.mp member with blank | kept
  · exact absurd (List.mem_takeWhile_imp blank) (by simp [visible])
  · exact kept

theorem mem_trimChars (member : c ∈ cs) (visible : isBlank c = false) : c ∈ trimChars cs := by
  unfold trimChars
  rw [List.mem_reverse]
  exact mem_dropWhile (List.mem_reverse.mpr (mem_dropWhile member visible)) visible

theorem trimChars_visible (visible : ∀ c ∈ cs, isBlank c = false) : trimChars cs = cs := by
  have front : cs.dropWhile isBlank = cs := by
    cases cs with
    | nil => rfl
    | cons c rest => simp [visible c]
  rw [trimChars_eq_rdropWhile, front, List.rdropWhile_eq_self_iff]
  intro nonempty blank
  simp [visible _ (List.getLast_mem nonempty)] at blank

theorem fields_ne_nil (separator : Char) (cs : List Char) : fields separator cs ≠ [] := by
  cases cs with
  | nil => simp [fields]
  | cons c rest =>
    unfold fields
    split
    · simp
    · split <;> simp

theorem fields_cons (cs : List Char) (other : c ≠ separator) :
    ∃ first others, fields separator cs = first :: others ∧
      fields separator (c :: cs) = (c :: first) :: others := by
  obtain ⟨first, others, split⟩ := List.exists_cons_of_ne_nil (fields_ne_nil separator cs)
  exact ⟨first, others, split, by rw [fields, if_neg other, split]⟩

theorem fields_free (free : separator ∉ cs) : fields separator cs = [cs] := by
  induction cs with
  | nil => rfl
  | cons c rest ih =>
    have other : c ≠ separator := fun same => free (by simp [same])
    rw [fields, if_neg other, ih fun member => free (List.mem_cons_of_mem c member)]

theorem fields_append (before after : List Char) :
    fields separator (before ++ separator :: after) =
      fields separator before ++ fields separator after := by
  induction before with
  | nil => simp [fields]
  | cons c rest ih =>
    by_cases same : c = separator
    · simp [fields, same, ih]
    · obtain ⟨first, others, split, whole⟩ := fields_cons rest same
      rw [whole, List.cons_append, fields, if_neg same, ih, split]
      rfl

theorem fields_part (member : part ∈ fields separator cs) : separator ∉ part := by
  induction cs generalizing part with
  | nil => simp_all [fields]
  | cons c rest ih =>
    by_cases same : c = separator
    · rw [fields, if_pos same] at member
      rcases List.mem_cons.mp member with empty | later
      · simp [empty]
      · exact ih later
    · obtain ⟨first, others, split, whole⟩ := fields_cons rest same
      rw [whole] at member
      rcases List.mem_cons.mp member with here | later
      · have free : separator ∉ first := ih (by simp [split])
        simp [here, Ne.symm same, free]
      · exact ih (by simp [split, later])

theorem fields_intercalate (separator : Char) (cs : List Char) :
    [separator].intercalate (fields separator cs) = cs := by
  induction cs with
  | nil => rfl
  | cons c rest ih =>
    by_cases same : c = separator
    · obtain ⟨first, others, split⟩ :=
        List.exists_cons_of_ne_nil (fields_ne_nil separator rest)
      rw [fields, if_pos same, split, same]
      rw [split] at ih
      simpa [List.intercalate] using ih
    · obtain ⟨first, others, split, whole⟩ := fields_cons rest same
      rw [split] at ih
      rw [whole]
      cases others <;> simpa [List.intercalate] using ih

theorem fields_of_intercalate {parts : List (List Char)} (some : parts ≠ [])
    (free : ∀ part ∈ parts, separator ∉ part) :
    fields separator ([separator].intercalate parts) = parts := by
  induction parts with
  | nil => contradiction
  | cons part others ih =>
    cases others with
    | nil => simpa [List.intercalate] using fields_free (free part (by simp))
    | cons next rest =>
      have later := ih (by simp) fun part member => free part (List.mem_cons_of_mem _ member)
      have step : [separator].intercalate (part :: next :: rest) =
          part ++ separator :: [separator].intercalate (next :: rest) := by
        simp [List.intercalate]
      rw [step, fields_append, fields_free (free part (by simp)), later]
      rfl

theorem cut?_eq_some_iff :
    cut? separator cs = some (before, after) ↔
      cs = before ++ separator :: after ∧ separator ∉ before := by
  induction cs generalizing before after with
  | nil => simp [cut?]
  | cons c rest ih =>
    by_cases same : c = separator
    · cases before <;> simp_all [cut?, eq_comm]
    · cases before with
      | nil => simp [cut?, same]
      | cons b before =>
        rw [cut?, if_neg same, Option.map_eq_some_iff]
        constructor
        · rintro ⟨⟨first, later⟩, found, kept⟩
          obtain ⟨split, free⟩ := ih.mp found
          cases kept
          exact ⟨congrArg (c :: ·) split, by simp [Ne.symm same, free]⟩
        · rintro ⟨whole, free⟩
          obtain ⟨rfl, split⟩ := List.cons.inj (whole.trans (List.cons_append ..))
          have later := ih.mpr ⟨split, fun member => free (List.mem_cons_of_mem c member)⟩
          exact ⟨(before, after), later, rfl⟩

theorem dropEnd?_eq_some_iff : dropEnd? last cs = some rest ↔ cs = rest ++ [last] := by
  unfold dropEnd?
  constructor
  · intro dropped
    split at dropped
    · rename_i ends
      cases dropped
      exact (List.dropLast_append_getLast? _ ends).symm
    · cases dropped
  · rintro rfl
    simp

end SpriteStage.Text
