import SpriteStage.Proofs.Colour.Grammar

/-! Hexadecimal digits taken out of a text by byte positions. A slice has to begin and end between
characters of the text; every slice that is taken does, and the digits read the same. -/

namespace SpriteStage.Colour
open SpriteStage.Text SpriteStage.Number
variable {c : Char} {cs digits : List Char} {colour : Colour}

/-- A range of bytes with an end outside the text or inside a character. -/
structure BadSlice where
  start : Nat
  stop : Nat
  deriving Repr, DecidableEq

def byteLength (cs : List Char) : Nat := (cs.map Char.utf8Size).sum

/-- The text behind a number of bytes, when these are whole characters. -/
def dropBytes? : List Char → Nat → Option (List Char)
  | cs, 0 => some cs
  | [], _ + 1 => none
  | c :: rest, bytes + 1 =>
    if c.utf8Size ≤ bytes + 1 then dropBytes? rest (bytes + 1 - c.utf8Size) else none

def takeBytes? : List Char → Nat → Option (List Char)
  | _, 0 => some []
  | [], _ + 1 => none
  | c :: rest, bytes + 1 =>
    if c.utf8Size ≤ bytes + 1 then (takeBytes? rest (bytes + 1 - c.utf8Size)).map (c :: ·) else none

def slice (cs : List Char) (start stop : Nat) : Except BadSlice (List Char) :=
  match (dropBytes? cs start).bind (takeBytes? · (stop - start)) with
  | some part => .ok part
  | none => .error ⟨start, stop⟩

def radixDigit? (c : Char) : Option Nat :=
  if isDigit c then some (digitValue c)
  else if 'a' ≤ c && c ≤ 'f' then some (c.toNat - 'a'.toNat + 10)
  else if 'A' ≤ c && c ≤ 'F' then some (c.toNat - 'A'.toNat + 10)
  else none

/-- A byte in hexadecimal digits; a plus sign may stand before them. -/
def byteOfText? (cs : List Char) : Option UInt8 :=
  let digits := match cs with
    | '+' :: rest => rest
    | _ => cs
  if digits.isEmpty then none
  else (digits.mapM radixDigit?).bind fun values =>
    let value := values.foldl (fun value digit => 16 * value + digit) 0
    if value < 256 then some (UInt8.ofNat value) else none

/-- The byte in the slice of one digit, which stands for two. -/
def nibbleAt (digits : List Char) (i : Nat) : OptionT (Except BadSlice) UInt8 :=
  .mk ((slice digits i (i + 1)).map fun part => (byteOfText? part).map (· * 17))

def byteAt (digits : List Char) (i : Nat) : OptionT (Except BadSlice) UInt8 :=
  .mk ((slice digits i (i + 2)).map byteOfText?)

/-- Reading digits by slices. The length in bytes tells which positions are sliced. -/
def hexBySlices (digits : List Char) : Except BadSlice (Option Colour) :=
  if !digits.all fun c => (radixDigit? c).isSome then .ok none
  else OptionT.run (match byteLength digits with
    | 3 => return rgb (← nibbleAt digits 0) (← nibbleAt digits 1) (← nibbleAt digits 2)
    | 4 => return ⟨← nibbleAt digits 0, ← nibbleAt digits 1, ← nibbleAt digits 2,
      ← nibbleAt digits 3⟩
    | 6 => return rgb (← byteAt digits 0) (← byteAt digits 2) (← byteAt digits 4)
    | 8 => return ⟨← byteAt digits 0, ← byteAt digits 2, ← byteAt digits 4, ← byteAt digits 6⟩
    | _ => failure)

theorem radixDigit?_of_digit {place : Nat} (digit : Digit c place) :
    radixDigit? c = some place :=
  digit.forall (P := fun c place => radixDigit? c = some place) (by decide)

theorem size_of_digit {place : Nat} (digit : Digit c place) : c.utf8Size = 1 ∧ c ≠ '+' :=
  digit.forall (P := fun c _ => c.utf8Size = 1 ∧ c ≠ '+') (by decide)

theorem byteLength_digits (all : AllDigits cs) : byteLength cs = cs.length := by
  induction cs with
  | nil => rfl
  | cons c rest ih =>
    obtain ⟨place, digit⟩ := all c (by simp)
    have later := ih fun c member => all c (List.mem_cons_of_mem _ member)
    simp only [byteLength, List.map_cons, List.sum_cons] at later ⊢
    rw [later, (size_of_digit digit).1, List.length_cons, Nat.add_comm]

theorem dropBytes?_digits (all : AllDigits cs) (bytes : Nat) (inside : bytes ≤ cs.length) :
    dropBytes? cs bytes = some (cs.drop bytes) := by
  induction cs generalizing bytes with
  | nil =>
    obtain rfl : bytes = 0 := by simpa using inside
    rfl
  | cons c rest ih =>
    cases bytes with
    | zero => rfl
    | succ bytes =>
      obtain ⟨place, digit⟩ := all c (by simp)
      have later := ih (fun c member => all c (List.mem_cons_of_mem _ member)) bytes
        (Nat.le_of_succ_le_succ inside)
      simpa [dropBytes?, (size_of_digit digit).1] using later

theorem takeBytes?_digits (all : AllDigits cs) (bytes : Nat) (inside : bytes ≤ cs.length) :
    takeBytes? cs bytes = some (cs.take bytes) := by
  induction cs generalizing bytes with
  | nil =>
    obtain rfl : bytes = 0 := by simpa using inside
    rfl
  | cons c rest ih =>
    cases bytes with
    | zero => rfl
    | succ bytes =>
      obtain ⟨place, digit⟩ := all c (by simp)
      have later := ih (fun c member => all c (List.mem_cons_of_mem _ member)) bytes
        (Nat.le_of_succ_le_succ inside)
      simpa [takeBytes?, (size_of_digit digit).1] using later

theorem slice_digits (all : AllDigits cs) {start length : Nat}
    (inside : start + length ≤ cs.length) :
    slice cs start (start + length) = .ok ((cs.drop start).take length) := by
  have dropped := dropBytes?_digits all start (by omega)
  have others : AllDigits (cs.drop start) := fun c member => all c (List.mem_of_mem_drop member)
  have taken := takeBytes?_digits others length (by rw [List.length_drop]; omega)
  rw [slice, dropped, Option.bind_some, Nat.add_sub_cancel_left, taken]

theorem byteOfText?_one {place : Nat} (digit : Digit c place) : byteOfText? [c] = hexValue? c := by
  have small : place < 256 := (digit_lt digit).trans (by decide)
  simp [byteOfText?, (size_of_digit digit).2, radixDigit?_of_digit digit,
    hexValue?_of_digit digit, small]

theorem byteOfText?_two {high low : Char} {h l : Nat} (highDigit : Digit high h)
    (lowDigit : Digit low l) : byteOfText? [high, low] = byte? high low := by
  have small : 16 * h + l < 256 := by
    have := digit_lt highDigit
    have := digit_lt lowDigit
    omega
  rw [byte?_eq_some_iff.mpr ⟨h, l, highDigit, lowDigit, rfl⟩]
  simp [byteOfText?, (size_of_digit highDigit).2, radixDigit?_of_digit highDigit,
    radixDigit?_of_digit lowDigit, small]

theorem nibbleAt_eq (all : AllDigits digits) {i : Nat} (inside : i < digits.length) :
    nibbleAt digits i = .mk (.ok (nibble? digits[i])) := by
  obtain ⟨place, digit⟩ := all digits[i] (List.getElem_mem inside)
  have part : (digits.drop i).take 1 = [digits[i]] := by
    rw [List.drop_eq_getElem_cons inside]
    rfl
  rw [nibbleAt, slice_digits all inside, part, nibble?, ← byteOfText?_one digit]
  rfl

theorem byteAt_eq (all : AllDigits digits) {i : Nat} (inside : i + 1 < digits.length) :
    byteAt digits i = .mk (.ok (byte? digits[i] digits[i + 1])) := by
  obtain ⟨h, high⟩ := all digits[i] (List.getElem_mem _)
  obtain ⟨l, low⟩ := all digits[i + 1] (List.getElem_mem inside)
  have part : (digits.drop i).take 2 = [digits[i], digits[i + 1]] := by
    rw [List.drop_eq_getElem_cons (by omega), List.drop_eq_getElem_cons inside]
    rfl
  rw [byteAt, slice_digits all inside, part, ← byteOfText?_two high low]
  rfl

theorem digit_of_radixDigit? (lower : c.isUpper = false) (read : (radixDigit? c).isSome) :
    ∃ place, Digit c place := by
  have small : ¬ ('A' ≤ c && c ≤ 'F') = true := by
    intro capital
    simp only [Bool.and_eq_true, decide_eq_true_eq, Char.le_def, UInt32.le_iff_toNat_le] at capital
    have : c.isUpper = true := by
      simp only [Char.isUpper, decide_eq_true_eq, ge_iff_le, UInt32.le_iff_toNat_le]
      exact ⟨capital.1, capital.2.trans (by decide)⟩
    simp [lower] at this
  have same : (hexValue? c).isSome := by
    unfold radixDigit? at read
    unfold hexValue?
    rw [if_neg small] at read
    split
    · rfl
    · rename_i other
      rw [if_neg other] at read
      split
      · rfl
      · rename_i other
        rw [if_neg other] at read
        cases read
  obtain ⟨value, read⟩ := Option.isSome_iff_exists.mp same
  obtain ⟨place, digit, -⟩ := hexValue?_eq_some_iff.mp read
  exact ⟨place, digit⟩

theorem run_three : (digits : List Char) → digits.length = 3 → AllDigits digits →
    (do return rgb (← nibbleAt digits 0) (← nibbleAt digits 1) (← nibbleAt digits 2) :
      OptionT (Except BadSlice) Colour).run = .ok (ofHex? digits)
  | [r, g, b], _, all => by
    rw [nibbleAt_eq all (i := 0) (by simp), nibbleAt_eq all (i := 1) (by simp),
      nibbleAt_eq all (i := 2) (by simp), ofHex?]
    simp only [List.getElem_cons_zero, List.getElem_cons_succ]
    cases nibble? r <;> cases nibble? g <;> cases nibble? b <;> rfl

theorem run_four : (digits : List Char) → digits.length = 4 → AllDigits digits →
    (do return ⟨← nibbleAt digits 0, ← nibbleAt digits 1, ← nibbleAt digits 2,
      ← nibbleAt digits 3⟩ : OptionT (Except BadSlice) Colour).run = .ok (ofHex? digits)
  | [r, g, b, a], _, all => by
    rw [nibbleAt_eq all (i := 0) (by simp), nibbleAt_eq all (i := 1) (by simp),
      nibbleAt_eq all (i := 2) (by simp), nibbleAt_eq all (i := 3) (by simp), ofHex?]
    simp only [List.getElem_cons_zero, List.getElem_cons_succ]
    cases nibble? r <;> cases nibble? g <;> cases nibble? b <;> cases nibble? a <;> rfl

theorem run_six : (digits : List Char) → digits.length = 6 → AllDigits digits →
    (do return rgb (← byteAt digits 0) (← byteAt digits 2) (← byteAt digits 4) :
      OptionT (Except BadSlice) Colour).run = .ok (ofHex? digits)
  | [r, r', g, g', b, b'], _, all => by
    rw [byteAt_eq all (i := 0) (by simp), byteAt_eq all (i := 2) (by simp),
      byteAt_eq all (i := 4) (by simp), ofHex?]
    simp only [List.getElem_cons_zero, List.getElem_cons_succ]
    cases byte? r r' <;> cases byte? g g' <;> cases byte? b b' <;> rfl

theorem run_eight : (digits : List Char) → digits.length = 8 → AllDigits digits →
    (do return ⟨← byteAt digits 0, ← byteAt digits 2, ← byteAt digits 4, ← byteAt digits 6⟩ :
      OptionT (Except BadSlice) Colour).run = .ok (ofHex? digits)
  | [r, r', g, g', b, b', a, a'], _, all => by
    rw [byteAt_eq all (i := 0) (by simp), byteAt_eq all (i := 2) (by simp),
      byteAt_eq all (i := 4) (by simp), byteAt_eq all (i := 6) (by simp), ofHex?]
    simp only [List.getElem_cons_zero, List.getElem_cons_succ]
    cases byte? r r' <;> cases byte? g g' <;> cases byte? b b' <;> cases byte? a a' <;> rfl

/-- Every slice can be taken, and the slices give the colour that the digits give. -/
theorem hexBySlices_eq (lower : ∀ c ∈ digits, c.isUpper = false) :
    hexBySlices digits = .ok (ofHex? digits) := by
  unfold hexBySlices
  split
  · rename_i stray
    cases read : ofHex? digits with
    | none => rfl
    | some colour =>
      have all : (digits.all fun c => (radixDigit? c).isSome) = true := by
        rw [List.all_eq_true]
        intro c member
        obtain ⟨place, digit⟩ := allDigits_of_ofHex? read c member
        rw [radixDigit?_of_digit digit]
        rfl
      simp [all] at stray
  · rename_i proper
    have all : AllDigits digits := by
      intro c member
      rw [Bool.not_eq_true', Bool.not_eq_false, List.all_eq_true] at proper
      exact digit_of_radixDigit? (lower c member) (proper c member)
    rw [byteLength_digits all]
    split
    · rename_i three
      exact run_three digits three all
    · rename_i four
      exact run_four digits four all
    · rename_i six
      exact run_six digits six all
    · rename_i eight
      exact run_eight digits eight all
    · rename_i three four six eight
      have nothing : ofHex? digits = none := by
        unfold ofHex?
        split <;> simp_all
      rw [nothing]
      rfl

/-! ## All texts -/

theorem not_isUpper_of_normal {s : String} (member : c ∈ normal s) : c.isUpper = false := by
  obtain ⟨original, -, rfl⟩ := List.mem_map.mp member
  exact Char.isUpper_toLower_eq_false original

/-- Colours are read exactly as they are written. Anything else is an error that keeps the text, and
drawing calls take it for white. Behind a number sign stand 3, 4, 6 or 8 digits, and every slice
that is taken of them lies inside and between characters. -/
theorem parse_exact (s : String) :
    (∀ colour, parse s = .ok colour ↔ Written (normal s) colour) ∧
      (∀ e, parse s = .error e ↔ e = ⟨s⟩ ∧ ∀ colour, ¬ Written (normal s) colour) ∧
      (∀ digits, normal s = '#' :: digits →
        ((∃ colour, parse s = .ok colour) ↔ digits.length ∈ [3, 4, 6, 8] ∧ AllDigits digits) ∧
        hexBySlices digits = .ok (ofHex? digits)) ∧
      parseOrWhite s = match parse s with
        | .ok colour => colour
        | .error _ => white := by
  refine ⟨fun _ => parse_eq_ok_iff, fun _ => parse_eq_error_iff, fun digits sign => ⟨?_, ?_⟩,
    parseOrWhite_eq s⟩
  · have read (colour : Colour) : parse s = .ok colour ↔ ofHex? digits = some colour := by
      rw [parse_eq_ok_iff, ← parse?_eq_some_iff]
      change ofNormal? (normal s) = some colour ↔ _
      rw [sign, ofNormal?]
    simp only [read, ofHex?_isSome_iff]
  · refine hexBySlices_eq fun c member => ?_
    exact not_isUpper_of_normal (sign ▸ List.mem_cons_of_mem _ member)

theorem parse_short_capitals :
    normal " #0AF\n" = ['#', '0', 'a', 'f'] ∧ parse " #0AF\n" = .ok ⟨0, 170, 255, 255⟩ ∧
      hexBySlices ['0', 'a', 'f'] = .ok (some ⟨0, 170, 255, 255⟩) := by
  have known : normal " #0AF\n" = ['#', '0', 'a', 'f'] := by decide
  obtain ⟨read, -, slices, -⟩ := parse_exact " #0AF\n"
  refine ⟨known, (read _).mpr ?_, (slices _ known).2.trans (by decide)⟩
  rw [known]
  have pairs : Bytes (doubled ['0', 'a', 'f']) [0, 170, 255] :=
    .cons (h := 0) (l := 0) rfl rfl (.cons (h := 10) (l := 10) rfl rfl
      (.cons (h := 15) (l := 15) rfl rfl .nil))
  exact .short pairs rfl

end SpriteStage.Colour
