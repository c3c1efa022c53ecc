import Mathlib.Data.List.TakeDrop
import Mathlib.Data.List.TakeWhile
import SpriteStage.Number.Basic

namespace SpriteStage.Number
variable {c : Char} {cs : List Char}

/-- The characters that stand between and around the arguments of a call. -/
def IsMark (c : Char) : Prop := c = ',' ∨ c = '(' ∨ c = ')'

theorem not_isDigit_of_mark (mark : IsMark c) : isDigit c = false := by
  rcases mark with rfl | rfl | rfl <;> rfl

theorem IsMark.ne {other : Char} (mark : IsMark c) (comma : other ≠ ',') (opening : other ≠ '(')
    (closing : other ≠ ')') : c ≠ other := by
  rcases mark with rfl | rfl | rfl
  · exact comma.symm
  · exact opening.symm
  · exact closing.symm

theorem toLower_not_mem_of_mark (mark : IsMark c) {word : String}
    (known : word ∈ ["inf", "infinity", "nan"]) : c.toLower ∉ word.toList := by
  revert known word
  rcases mark with rfl | rfl | rfl <;> decide

theorem mem_takeSign (member : c ∈ cs) (mark : IsMark c) : c ∈ (takeSign cs).2 := by
  unfold takeSign
  split
  · rcases List.mem_cons.mp member with rfl | later
    · exact absurd rfl (mark.ne (by decide) (by decide) (by decide))
    · exact later
  · rcases List.mem_cons.mp member with rfl | later
    · exact absurd rfl (mark.ne (by decide) (by decide) (by decide))
    · exact later
  · exact member

theorem mem_spanDigits (member : c ∈ cs) (mark : IsMark c) : c ∈ (spanDigits cs).2 := by
  rw [spanDigits, List.span_eq_takeWhile_dropWhile]
  rw [← List.takeWhile_append_dropWhile (p := isDigit) (l := cs)] at member
  rcases List.mem_append.mp member with digit | rest
  · exact absurd (List.mem_takeWhile_imp digit) (by simp [not_isDigit_of_mark mark])
  · exact rest

theorem exponent?_free {power : Int} (parsed : exponent? cs = some power) (mark : IsMark c) :
    c ∉ cs := by
  intro member
  cases cs with
  | nil => cases member
  | cons first rest =>
    by_cases letter : first = 'e' ∨ first = 'E'
    · have later : c ∈ rest := by
        rcases List.mem_cons.mp member with rfl | later
        · rcases letter with rfl | rfl <;>
            exact absurd rfl (mark.ne (by decide) (by decide) (by decide))
        · exact later
      have digit : c ∈ (takeSign rest).2 := mem_takeSign later mark
      have stray : (takeSign rest).2.all isDigit = false := by
        rw [List.all_eq_false]
        exact ⟨c, digit, by simp [not_isDigit_of_mark mark]⟩
      simp [exponent?, letter, stray] at parsed
    · simp [exponent?, letter] at parsed

theorem unsigned?_free {value : Nat × Int} (parsed : unsigned? cs = some value)
    (mark : IsMark c) : c ∉ cs := by
  intro member
  have after : c ∈ (spanDigits cs).2 := mem_spanDigits member mark
  have tail : ∃ rest, (exponent? rest).isSome ∧ c ∈ rest := by
    unfold unsigned? at parsed
    dsimp only at parsed
    split at parsed
    · rename_i more point
      rw [point] at after
      have later : c ∈ more := by
        rcases List.mem_cons.mp after with rfl | later
        · exact absurd rfl (mark.ne (by decide) (by decide) (by decide))
        · exact later
      split at parsed
      · cases parsed
      · exact ⟨_, Option.isSome_map.symm.trans (Option.isSome_of_eq_some parsed),
          mem_spanDigits later mark⟩
    · split at parsed
      · cases parsed
      · exact ⟨_, Option.isSome_map.symm.trans (Option.isSome_of_eq_some parsed), after⟩
  obtain ⟨rest, valid, member⟩ := tail
  obtain ⟨power, valid⟩ := Option.isSome_iff_exists.mp valid
  exact exponent?_free valid mark member

theorem Literal.parse?_free {literal : Literal} (parsed : Literal.parse? cs = some literal)
    (mark : IsMark c) : c ∉ cs := by
  intro member
  have body : c ∈ (takeSign cs).2 := mem_takeSign member mark
  have other (word : String) (known : word ∈ ["inf", "infinity", "nan"]) :
      String.ofList ((takeSign cs).2.map Char.toLower) ≠ word := by
    intro same
    apply toLower_not_mem_of_mark mark known
    rw [← same, String.toList_ofList]
    exact List.mem_map_of_mem body
  have number : (unsigned? (takeSign cs).2).isSome := by
    unfold Literal.parse? at parsed
    simp only [Bool.or_eq_true, decide_eq_true_eq, other "inf" (by simp),
      other "infinity" (by simp), other "nan" (by simp), or_self, if_false]
      at parsed
    exact Option.isSome_map.symm.trans (Option.isSome_of_eq_some parsed)
  obtain ⟨value, number⟩ := Option.isSome_iff_exists.mp number
  exact unsigned?_free number mark body

end SpriteStage.Number
