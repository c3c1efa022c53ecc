import SpriteStage.Input.Basic
import SpriteStage.Text.Letters

/-! Canonical key names are fixed. Every letter that lower case moves leaves the table of those that it
moves at once, so lower case leaves none of them behind, and no capital letter. -/

namespace SpriteStage.Text

/-- No letter from the first to the last is in the run, which ends before them, begins behind them,
or has its own places between them where both take every second one. -/
def CaseRun.misses (first last : Nat) (spaced : Bool) (run : CaseRun) : Bool :=
  last.blt run.first || run.last.blt first ||
    (spaced && run.step.beq 2 && ((first - run.first) % 2).beq 1)

def CaseRun.leaves (others : List CaseRun) (run : CaseRun) : Bool :=
  others.all (misses (run.first + run.shift).toNat (run.last + run.shift).toNat
    (run.step.beq 2 || run.first.beq run.last))

theorem CaseRun.leaves_sound {run other : CaseRun} {others : List CaseRun}
    (leaves : run.leaves others) (present : other ∈ others) {code moved : Nat}
    (member : run.contains code) (place : (moved : Int) = code + run.shift) :
    other.contains moved = false := by
  have apart := List.all_eq_true.mp leaves other present
  simp only [misses, contains, Bool.or_eq_true, Bool.and_eq_true, Nat.blt_eq, Nat.beq_eq,
    decide_eq_true_eq, beq_iff_eq] at apart member
  rw [← Bool.not_eq_true]
  simp only [contains, Bool.and_eq_true, decide_eq_true_eq, beq_iff_eq]
  rintro ⟨within, step⟩
  rcases apart with (before | behind) | ⟨⟨two | single, other_two⟩, odd⟩
  · omega
  · omega
  · rw [two] at member
    rw [other_two] at step
    omega
  · rw [other_two] at step
    omega

/-- All that lower case moves. -/
def unsettledRuns : List CaseRun := ⟨0x130, 0x130, 1, 0⟩ :: lowerRuns

def blankRun : CaseRun := ⟨0x20, 0x20, 1, 0⟩

theorem lowerRuns_leave : lowerRuns.all (·.leaves (blankRun :: unsettledRuns)) := by
  decide +kernel

def isSettled (c : Char) : Bool := unsettledRuns.all (!·.contains c.toNat)

theorem moved_place (code : Nat) (shift : Int) :
    let moved := Char.ofNat (code + shift).toNat
    moved = '\x00' ∨ (moved.toNat : Int) = code + shift := by
  intro moved
  by_cases inside : 0 ≤ code + shift
  · by_cases valid : (code + shift).toNat.isValidChar
    · right
      have kept : (Char.ofNat (code + shift).toNat).toNat = (code + shift).toNat := by
        rw [Char.ofNat, dif_pos valid]
        rfl
      rw [kept, Int.toNat_of_nonneg inside]
    · left
      exact dif_neg valid
  · left
    have zero : (code + shift).toNat = 0 := by omega
    exact congrArg Char.ofNat zero

theorem isSettled_iff (c : Char) :
    isSettled c ↔ ∀ run ∈ unsettledRuns, run.contains c.toNat = false := by
  simp [isSettled]

/-- Lower case moves a letter to where it is settled, and to no blank. -/
theorem shiftBy_settled {c : Char} (dotless : c ≠ 'İ') :
    isSettled (shiftBy lowerRuns c) ∧ (shiftBy lowerRuns c = ' ' → c = ' ') := by
  unfold shiftBy
  split
  · rename_i run found
    have present := List.mem_of_find?_eq_some found
    have member := List.find?_some found
    have leaves := List.all_eq_true.mp lowerRuns_leave run present
    rcases moved_place c.toNat run.shift with nowhere | place
    · rw [nowhere]
      exact ⟨by decide, fun blank => absurd blank (by decide)⟩
    · have missed {other : CaseRun} (among : other ∈ blankRun :: unsettledRuns) :=
        CaseRun.leaves_sound leaves among member place
      refine ⟨(isSettled_iff _).mpr fun other among => missed (List.mem_cons_of_mem _ among), ?_⟩
      intro blank
      have none := missed List.mem_cons_self
      rw [blank] at none
      exact absurd none (by decide)
  · rename_i absent
    refine ⟨(isSettled_iff c).mpr ?_, id⟩
    rw [unsettledRuns, List.forall_mem_cons]
    refine ⟨?_, by simpa using absent⟩
    rw [← Bool.not_eq_true]
    intro dotted
    simp only [CaseRun.contains, Bool.and_eq_true, decide_eq_true_eq] at dotted
    exact dotless (Char.toNat_inj.mp (Nat.le_antisymm dotted.1.2 dotted.1.1))

theorem lowerChar_cases (before : List Char) (c : Char) (after : List Char) :
    lowerChar before c after ∈ [['ς'], ['σ'], ['i', '\u0307']] ∨
      c ≠ 'İ' ∧ lowerChar before c after = [shiftBy lowerRuns c] := by
  unfold lowerChar
  split
  · left
    split <;> decide
  · split
    · exact .inl (by decide)
    · exact .inr ⟨‹_›, rfl⟩

theorem lowerChar_settled (before : List Char) (c : Char) (after : List Char) :
    ∀ d ∈ lowerChar before c after, isSettled d := by
  rcases lowerChar_cases before c after with written | ⟨dotless, written⟩
  · have settled : [['ς'], ['σ'], ['i', '\u0307']].all (·.all isSettled) := by decide +kernel
    exact List.all_eq_true.mp (List.all_eq_true.mp settled _ written)
  · rw [written, List.forall_mem_singleton]
    exact (shiftBy_settled dotless).1

theorem lowerFrom_settled (before cs : List Char) : ∀ d ∈ lowerFrom before cs, isSettled d := by
  induction cs generalizing before with
  | nil => exact fun _ => nofun
  | cons c rest ih =>
    rw [lowerFrom, List.forall_mem_append]
    exact ⟨lowerChar_settled before c rest, ih (c :: before)⟩

theorem lowerChar_of_settled {c : Char} (settled : isSettled c) (before after : List Char) :
    lowerChar before c after = [c] := by
  have moved := (isSettled_iff c).mp settled
  rw [unsettledRuns, List.forall_mem_cons] at moved
  have still : shiftBy lowerRuns c = c := by
    have absent : lowerRuns.find? (·.contains c.toNat) = none := by simpa using moved.2
    rw [shiftBy, absent]
  have not_sigma : c ≠ 'Σ' := by
    rintro rfl
    exact absurd settled (by decide)
  have dotless : c ≠ 'İ' := by
    rintro rfl
    exact absurd settled (by decide)
  rw [lowerChar, if_neg not_sigma, if_neg dotless, still]

theorem lowerFrom_of_settled {cs : List Char} (settled : ∀ c ∈ cs, isSettled c)
    (before : List Char) : lowerFrom before cs = cs := by
  induction cs generalizing before with
  | nil => rfl
  | cons c rest ih =>
    rw [List.forall_mem_cons] at settled
    rw [lowerFrom, lowerChar_of_settled settled.1, ih settled.2]
    rfl

theorem lower_lower (s : String) : lower (lower s) = lower s := by
  simp only [lower, String.toList_ofList]
  rw [lowerFrom_of_settled (lowerFrom_settled [] s.toList)]

theorem lower_no_capital (s : String) : ∀ c ∈ (lower s).toList, c.isUpper = false := by
  intro c written
  rw [lower, String.toList_ofList] at written
  have settled := (isSettled_iff c).mp (lowerFrom_settled [] s.toList c written)
  have moved := settled ⟨0x41, 0x5A, 1, 32⟩ (.tail _ (.head _))
  rw [← Bool.not_eq_true]
  intro capital
  have within : 0x41 ≤ c.toNat ∧ c.toNat ≤ 0x5A := of_decide_eq_true capital
  simp [CaseRun.contains, within, Nat.mod_one] at moved

theorem lowerFrom_eq_nil {before cs : List Char} (empty : lowerFrom before cs = []) : cs = [] := by
  cases cs with
  | nil => rfl
  | cons c rest =>
    rw [lowerFrom, List.append_eq_nil_iff] at empty
    rcases lowerChar_cases before c rest with written | ⟨_, written⟩
    · exact absurd (empty.1 ▸ written) (by decide)
    · exact absurd (written.symm.trans empty.1) (List.cons_ne_nil _ _)

theorem lower_blank {s : String} (blank : lower s = " ") : s = " " := by
  have written : lowerFrom [] s.toList = [' '] :=
    String.toList_ofList.symm.trans (congrArg String.toList blank)
  cases text : s.toList with
  | nil => simp [text, lowerFrom] at written
  | cons c rest =>
    rw [text, lowerFrom] at written
    rcases lowerChar_cases [] c rest with marked | ⟨dotless, plain⟩
    · have first : ∀ word ∈ [['ς'], ['σ'], ['i', '\u0307']], ∀ more, word ++ more ≠ [' '] := by
        simp
      exact absurd written (first _ marked _)
    · rw [plain, List.singleton_append, List.cons.injEq] at written
      have alone := lowerFrom_eq_nil written.2
      have space := (shiftBy_settled dotless).2 written.1
      rw [← String.ofList_toList (s := s), text, alone, space]

end SpriteStage.Text

namespace SpriteStage.Key

theorem alias_of_lookup {raw word : String} (named : aliases.lookup raw = some word) :
    (raw, word) ∈ aliases := by
  obtain ⟨before, after, split, -⟩ := List.lookup_eq_some_iff.mp named
  rw [split]
  exact List.mem_append_right _ List.mem_cons_self

/-- A name that has another word is a blank, or has a capital letter. -/
theorem aliases_unlowered : aliases.all fun (name, _) =>
    name == " " || name.toList.any (·.isUpper) := by
  decide +kernel

theorem aliases_canonical : aliases.all fun (_, word) => canonical word == word := by
  decide +kernel

theorem lookup_lower {raw : String} (plain : aliases.lookup raw = none) :
    aliases.lookup (Text.lower raw) = none := by
  cases named : aliases.lookup (Text.lower raw) with
  | none => rfl
  | some word =>
    have unlowered := List.all_eq_true.mp aliases_unlowered _ (alias_of_lookup named)
    simp only [Bool.or_eq_true, beq_iff_eq, List.any_eq_true] at unlowered
    rcases unlowered with blank | ⟨c, written, capital⟩
    · rw [Text.lower_blank blank] at plain
      exact absurd plain (by decide)
    · exact absurd capital (Bool.eq_false_iff.mp (Text.lower_no_capital raw c written))

theorem canonical_canonical (raw : String) : canonical (canonical raw) = canonical raw := by
  cases named : aliases.lookup raw with
  | some word =>
    have other : canonical raw = word := by rw [canonical, named, Option.getD_some]
    have fixed := List.all_eq_true.mp aliases_canonical _ (alias_of_lookup named)
    rw [other]
    exact beq_iff_eq.mp fixed
  | none =>
    have lowered : canonical raw = Text.lower raw := by rw [canonical, named, Option.getD_none]
    rw [lowered, canonical, lookup_lower named, Option.getD_none, Text.lower_lower]

end SpriteStage.Key
