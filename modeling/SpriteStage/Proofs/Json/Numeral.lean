import Mathlib.Data.List.Basic
import Mathlib.Data.List.TakeDrop
import SpriteStage.Json.Tree

namespace SpriteStage.Json
open SpriteStage.Number
variable {cs digits rest : List Char}

def Digits (cs : List Char) : Prop := cs ≠ [] ∧ ∀ c ∈ cs, isDigit c

/-- Parts that can stand in a text: digits before the point without a needless zero, and digits
behind it if there is one. -/
structure Numeral.WellFormed (n : Numeral) : Prop where
  whole : Digits n.whole
  zero : n.whole.head? = some '0' → n.whole.length = 1
  fraction : ∀ digits ∈ n.fraction, Digits digits

/-- What follows a value: the end of the text, the end of its container or another value. -/
def Ends (rest : List Char) : Prop := ∀ c ∈ rest.head?, c = ',' ∨ c = ']' ∨ c = '\x7d'

def NoDigit (rest : List Char) : Prop := ∀ c ∈ rest.head?, isDigit c = false

theorem Ends.noDigit (ends : Ends rest) : NoDigit rest := by
  intro c first
  rcases ends c first with rfl | rfl | rfl <;> rfl

theorem spanDigits_append (all : ∀ c ∈ digits, isDigit c) (follows : NoDigit rest) :
    spanDigits (digits ++ rest) = (digits, rest) := by
  have nothing : rest.takeWhile isDigit = [] ∧ rest.dropWhile isDigit = rest := by
    cases rest with
    | nil => exact ⟨rfl, rfl⟩
    | cons c more => simp [follows c rfl]
  rw [spanDigits, List.span_eq_takeWhile_dropWhile, List.takeWhile_append_of_pos all,
    List.dropWhile_append_of_pos all, nothing.1, nothing.2, List.append_nil]

theorem someDigits_append (run : Digits digits) (follows : NoDigit rest) :
    someDigits (digits ++ rest) = .ok (digits, rest) := by
  simp [someDigits, spanDigits_append run.2 follows, run.1]

/-! ## Decimal digits of a number -/

theorem isDigit_eq (c : Char) : isDigit c = c.isDigit := by
  simp only [isDigit, Char.isDigit, Char.le_def]

theorem digits_toDigits (n : Nat) : Digits (Nat.toDigits 10 n) :=
  ⟨Nat.toDigits_ne_nil, fun c member =>
    (isDigit_eq c).trans (Nat.isDigit_of_mem_toDigits (by decide) (by decide) member)⟩

theorem valueOf_toDigits (n : Nat) : valueOf (Nat.toDigits 10 n) = n :=
  Nat.ofDigitChars_ten_toDigits

theorem head?_toDigits {n : Nat} (some : 0 < n) : (Nat.toDigits 10 n).head? ≠ .some '0' := by
  induction n using Nat.strongRecOn with
  | ind n ih =>
    rw [Nat.toDigits_eq_if (by decide)]
    split
    · rename_i small
      simp [Nat.digitChar_eq_zero]
      omega
    · rename_i large
      obtain ⟨first, others, same⟩ :=
        List.exists_cons_of_ne_nil (Nat.toDigits_ne_nil (b := 10) (n := n / 10))
      have earlier := ih (n / 10) (by omega) (by omega)
      rw [same] at earlier ⊢
      exact earlier

/-! ## Reading the parts -/

def fractionChars : Option (List Char) → List Char
  | some digits => '.' :: digits
  | none => []

def powerChars : Option Int → List Char
  | some power => 'e' :: (if power < 0 then '-' else '+') :: Nat.toDigits 10 power.natAbs
  | none => []

theorem Numeral.chars_eq (n : Numeral) : n.chars =
    (if n.negative then ['-'] else []) ++ (n.whole ++ (fractionChars n.fraction ++
      powerChars n.power)) := by
  obtain ⟨negative, whole, _ | fraction, _ | power⟩ := n <;>
    simp [Numeral.chars, fractionChars, powerChars]

theorem head?_powerChars (power : Option Int) (ends : Ends rest) :
    ∀ c ∈ (powerChars power ++ rest).head?, isDigit c = false ∧ c ≠ '.' := by
  intro c first
  cases power with
  | none =>
    rcases ends c first with rfl | rfl | rfl <;> decide
  | some power =>
    obtain rfl : 'e' = c := by simpa [powerChars] using first
    decide

theorem wholePart_append (run : Digits digits) (zero : digits.head? = some '0' → digits.length = 1)
    (follows : NoDigit rest) : wholePart (digits ++ rest) = .ok (digits, rest) := by
  have alone : ¬ (digits.head? = some '0' ∧ 1 < digits.length) := by
    rintro ⟨first, long⟩
    have := zero first
    omega
  rw [wholePart, someDigits_append run follows]
  simp only [bind, Except.bind, Bool.and_eq_true, decide_eq_true_eq, alone]
  rfl

theorem fractionPart_append {fraction : Option (List Char)}
    (run : ∀ digits ∈ fraction, Digits digits)
    (follows : ∀ c ∈ rest.head?, isDigit c = false ∧ c ≠ '.') :
    fractionPart (fractionChars fraction ++ rest) = .ok (fraction, rest) := by
  cases fraction with
  | none =>
    rw [fractionChars, List.nil_append]
    unfold fractionPart
    split
    · exact absurd rfl (follows '.' rfl).2
    · rfl
  | some digits =>
    rw [fractionChars, List.cons_append, fractionPart,
      someDigits_append (run digits rfl) fun c first => (follows c first).1]
    rfl

theorem takeSign_power (power : Int) (cs : List Char) :
    takeSign ((if power < 0 then '-' else '+') :: cs) = (decide (power < 0), cs) := by
  by_cases negative : power < 0 <;> simp [takeSign, negative]

theorem powerPart_append {power : Option Int} (ends : Ends rest) :
    powerPart (powerChars power ++ rest) = .ok (power, rest) := by
  cases power with
  | none =>
    rw [powerChars, List.nil_append]
    cases rest with
    | nil => rfl
    | cons c more =>
      have other : ¬ (c = 'e' || c = 'E') = true := by
        rcases ends c rfl with rfl | rfl | rfl <;> decide
      rw [powerPart, if_neg other]
  | some power =>
    have value : (if power < 0 then -((valueOf (Nat.toDigits 10 power.natAbs) : Nat) : Int)
        else valueOf (Nat.toDigits 10 power.natAbs)) = power := by
      rw [valueOf_toDigits]
      split <;> omega
    rw [powerChars, List.cons_append, List.cons_append, powerPart, if_pos (by decide)]
    simp only [takeSign_power, someDigits_append (digits_toDigits power.natAbs) ends.noDigit, bind,
      Except.bind, decide_eq_true_eq, value]
    rfl

def behindSign (negative : Bool) (cs : List Char) : Except Flaw (Numeral × List Char) := do
  let (whole, rest) ← wholePart cs
  let (fraction, rest) ← fractionPart rest
  let (power, rest) ← powerPart rest
  return (⟨negative, whole, fraction, power⟩, rest)

theorem numeral_plain (plain : cs.head? ≠ some '-') : numeral cs = behindSign false cs := by
  cases cs with
  | nil => rfl
  | cons c rest =>
    have other : c ≠ '-' := by simpa using plain
    unfold numeral
    split
    rename_i sign
    split at sign
    · rename_i minus
      exact absurd (List.cons.inj minus).1 other
    · cases sign
      rfl

theorem behindSign_append {n : Numeral} (wellFormed : n.WellFormed) (ends : Ends rest) :
    behindSign n.negative (n.whole ++ (fractionChars n.fraction ++ (powerChars n.power ++ rest))) =
      .ok (n, rest) := by
  have behind := head?_powerChars n.power ends
  have wholeFollows : NoDigit (fractionChars n.fraction ++ (powerChars n.power ++ rest)) := by
    cases n.fraction with
    | none => exact fun c first => (behind c first).1
    | some digits =>
      intro c first
      obtain rfl : '.' = c := by simpa [fractionChars] using first
      decide
  simp only [behindSign, wholePart_append wellFormed.whole wellFormed.zero wholeFollows,
    fractionPart_append wellFormed.fraction behind, powerPart_append ends, bind, Except.bind]
  rfl

/-- A numeral is read from its text, whatever ends it. -/
theorem numeral_append {n : Numeral} (wellFormed : n.WellFormed) (ends : Ends rest) :
    numeral (n.chars ++ rest) = .ok (n, rest) := by
  have parts := behindSign_append wellFormed ends
  rw [Numeral.chars_eq, List.append_assoc, List.append_assoc, List.append_assoc]
  by_cases negative : n.negative = true
  · rw [negative] at parts
    rw [if_pos negative]
    exact parts
  · rw [Bool.not_eq_true] at negative
    rw [negative] at parts
    rw [if_neg (by simp [negative]), List.nil_append, numeral_plain ?_, parts]
    obtain ⟨first, others, same⟩ := List.exists_cons_of_ne_nil wellFormed.whole.1
    rw [same]
    intro minus
    obtain rfl : first = '-' := by simpa using minus
    have digit := wellFormed.whole.2 '-' (by simp [same])
    contradiction

/-! ## What is written -/

theorem Numeral.wellFormed_ofInt (n : Int) : (Numeral.ofInt n).WellFormed where
  whole := digits_toDigits _
  zero := by
    intro first
    rcases Nat.eq_zero_or_pos n.natAbs with zero | some
    · simp [Numeral.ofInt, zero]
    · exact absurd first (head?_toDigits some)
  fraction := by simp [Numeral.ofInt]

theorem isDigit_zeros (n : Nat) : ∀ c ∈ zeros n, isDigit c := by
  intro c member
  rw [zeros, List.mem_replicate] at member
  rw [member.2]
  rfl

theorem Digits.take {places : Nat} (run : Digits cs) (some : 0 < places) :
    Digits (cs.take places) := by
  refine ⟨?_, fun c member => run.2 c (List.mem_of_mem_take member)⟩
  simp only [ne_eq, List.take_eq_nil_iff, run.1, or_false]
  omega

theorem Digits.drop {places : Nat} (run : Digits cs) (left : places < cs.length) :
    Digits (cs.drop places) := by
  refine ⟨?_, fun c member => run.2 c (List.mem_of_mem_drop member)⟩
  simp only [ne_eq, List.drop_eq_nil_iff]
  omega

theorem Digits.append_zeros (run : Digits cs) (n : Nat) : Digits (cs ++ zeros n) :=
  ⟨by simp [run.1], fun c member => (List.mem_append.mp member).elim (run.2 c) (isDigit_zeros n c)⟩

theorem Digits.zeros_append (run : Digits cs) (n : Nat) : Digits (zeros n ++ cs) :=
  ⟨by simp [run.1], fun c member => (List.mem_append.mp member).elim (isDigit_zeros n c) (run.2 c)⟩

theorem Numeral.WellFormed.of_zero {n : Numeral} (zero : n.whole = ['0'])
    (fraction : ∀ digits ∈ n.fraction, Digits digits) : n.WellFormed where
  whole := zero ▸ ⟨by simp, List.forall_mem_singleton.mpr rfl⟩
  zero _ := by rw [zero]; rfl
  fraction := fraction

theorem Numeral.WellFormed.of_first {n : Numeral} (whole : Digits n.whole)
    (first : n.whole.head? ≠ some '0') (fraction : ∀ digits ∈ n.fraction, Digits digits) :
    n.WellFormed where
  whole := whole
  zero zero := absurd zero first
  fraction := fraction

/-- Each layout keeps digits on both sides of the point, and a zero only where it is alone. -/
theorem Numeral.wellFormed_ofDecimal (d : Decimal) : (Numeral.ofDecimal d).WellFormed := by
  have run := digits_toDigits d.significand
  have alone : ∀ digits ∈ some ['0'], Digits digits := by simp [Digits, isDigit]
  unfold Numeral.ofDecimal
  dsimp only
  split
  · exact .of_zero rfl alone
  · rename_i significant
    have first := head?_toDigits (Nat.pos_of_ne_zero significant)
    split
    -- All digits stand before the point.
    · refine .of_first (run.append_zeros _) ?_ alone
      rwa [List.head?_append_of_ne_nil _ run.1]
    · split
      -- The point stands among the digits.
      · rename_i large inside
        simp only [Bool.and_eq_true, decide_eq_true_eq, not_and] at large inside
        refine .of_first (run.take (by omega)) ?_ fun digits known => ?_
        · rwa [List.head?_take, if_neg (by omega)]
        · cases known
          exact run.drop (by omega)
      · split
        -- All digits stand behind the point.
        · refine .of_zero rfl fun digits known => ?_
          cases known
          exact run.zeros_append _
        -- In scientific form one digit stands before the point.
        · refine .of_first (run.take (by decide)) ?_ fun digits known => ?_
          · rwa [List.head?_take, if_neg (by decide)]
          · split at known
            · cases known
            · rename_i more
              cases known
              exact run.drop (by omega)

theorem Numeral.chars_ofInt (n : Int) : (Numeral.ofInt n).chars = (toString n).toList := by
  cases n with
  | ofNat n =>
    have text : toString (Int.ofNat n) = String.ofList (Nat.toDigits 10 n) :=
      Nat.repr_eq_ofList_toDigits
    rw [text, String.toList_ofList]
    simp [Numeral.chars_eq, Numeral.ofInt, fractionChars, powerChars]
  | negSucc n =>
    have text : toString (Int.negSucc n) = "-" ++ String.ofList (Nat.toDigits 10 (n + 1)) :=
      congrArg ("-" ++ ·) Nat.repr_eq_ofList_toDigits
    rw [text, String.toList_append, String.toList_ofList]
    simp [Numeral.chars_eq, Numeral.ofInt, fractionChars, powerChars]

theorem Numeral.value?_ofInt {n : Nat} (small : n < wordLimit) :
    (Numeral.ofInt n).value? = some (.natural n) := by
  have magnitude : valueOf (Numeral.ofInt n).whole = n := valueOf_toDigits n
  have fits : ¬ wordLimit ≤ n := Nat.not_le.mpr small
  simp [Numeral.value?, magnitude, fits]
  simp [Numeral.ofInt]

end SpriteStage.Json
