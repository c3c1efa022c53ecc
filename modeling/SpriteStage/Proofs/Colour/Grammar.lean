import SpriteStage.Colour.Basic
import SpriteStage.Proofs.Number.Literal
import SpriteStage.Proofs.Number.NearestByte
import SpriteStage.Proofs.Text.Basic

/-! Which texts are colours, and which colours they are. The written forms are listed once, as a
relation that mentions no reading, and reading is shown to follow it in both directions. -/

namespace SpriteStage.Colour
open SpriteStage.Text SpriteStage.Number
variable {c : Char} {cs digits : List Char} {colour : Colour}

/-- The text that is read: no blanks around it, and ASCII letters in lower case. -/
def normal (s : String) : List Char := (trimChars s.toList).map Char.toLower

def hexDigits : List Char :=
  ['0', '1', '2', '3', '4', '5', '6', '7', '8', '9', 'a', 'b', 'c', 'd', 'e', 'f']

def Digit (c : Char) (value : Nat) : Prop := hexDigits[value]? = some c

inductive Bytes : List Char → List UInt8 → Prop
  | nil : Bytes [] []
  | cons {high low : Char} {h l : Nat} {rest : List Char} {bytes : List UInt8} :
    Digit high h → Digit low l → Bytes rest bytes →
      Bytes (high :: low :: rest) (UInt8.ofNat (16 * h + l) :: bytes)

/-- Three channels or four. Without the fourth nothing shows through. -/
def ofChannels? : List UInt8 → Option Colour
  | [r, g, b] => some ⟨r, g, b, 255⟩
  | [r, g, b, a] => some ⟨r, g, b, a⟩
  | _ => none

def doubled (digits : List Char) : List Char := digits.flatMap fun digit => [digit, digit]

/-- A channel argument: a number literal held between 0 and 255 and rounded, a half going up. -/
def Level (argument : List Char) (byte : UInt8) : Prop :=
  ∃ literal, Literal.parse? (trimChars argument) = some literal ∧
    (byte.toNat : ℤ) = ⌊held 0 255 literal.toSingle + 1 / 2⌋

/-- An opacity argument: a number literal held between 0 and 1, scaled and rounded. -/
def Share (argument : List Char) (byte : UInt8) : Prop :=
  ∃ literal, Literal.parse? (trimChars argument) = some literal ∧
    (byte.toNat : ℤ) = ⌊held 0 255 (clamp 0 1 literal.toSingle * 255) + 1 / 2⌋

def call (name : List Char) (arguments : List (List Char)) : List Char :=
  name ++ '(' :: ([','].intercalate arguments ++ [')'])

def Unparenthesised (parts : List (List Char)) : Prop := ∀ part ∈ parts, '(' ∉ part ∧ ')' ∉ part

/-- A text and the colour it writes. -/
inductive Written : List Char → Colour → Prop
  | long {digits : List Char} {bytes : List UInt8} {colour : Colour} :
    Bytes digits bytes → ofChannels? bytes = some colour → Written ('#' :: digits) colour
  | short {digits : List Char} {bytes : List UInt8} {colour : Colour} :
    Bytes (doubled digits) bytes → ofChannels? bytes = some colour → Written ('#' :: digits) colour
  | rgb {name p₁ p₂ p₃ : List Char} {r g b : UInt8} :
    String.ofList (trimChars name) = "rgb" → Unparenthesised [name, p₁, p₂, p₃] →
    Level p₁ r → Level p₂ g → Level p₃ b → Written (call name [p₁, p₂, p₃]) ⟨r, g, b, 255⟩
  | rgba {name p₁ p₂ p₃ p₄ : List Char} {r g b a : UInt8} :
    String.ofList (trimChars name) = "rgba" → Unparenthesised [name, p₁, p₂, p₃, p₄] →
    Level p₁ r → Level p₂ g → Level p₃ b → Share p₄ a →
      Written (call name [p₁, p₂, p₃, p₄]) ⟨r, g, b, a⟩
  | named {t : List Char} {colour : Colour} : (String.ofList t, colour) ∈ names → Written t colour

/-! ## Digits -/

theorem digit_lt {place : Nat} (digit : Digit c place) : place < 16 :=
  (List.getElem?_eq_some_iff.mp digit).1

theorem Digit.forall {P : Char → Nat → Prop} {place : Nat} (digit : Digit c place)
    (all : ∀ place : Fin hexDigits.length, P (hexDigits.get place) place) : P c place := by
  obtain ⟨inside, rfl⟩ := List.getElem?_eq_some_iff.mp digit
  exact all ⟨place, inside⟩

theorem hexValue?_of_digit {place : Nat} (digit : Digit c place) :
    hexValue? c = some (UInt8.ofNat place) :=
  digit.forall (P := fun c place => hexValue? c = some (UInt8.ofNat place)) (by decide)

theorem digit_of_between {first last : Char} {base : Nat}
    (row : ∀ n ≤ last.toNat - first.toNat, Digit (Char.ofNat (first.toNat + n)) (base + n))
    (low : first ≤ c) (high : c ≤ last) : Digit c (base + (c.toNat - first.toNat)) := by
  rw [Char.le_def, UInt32.le_iff_toNat_le] at low high
  change first.toNat ≤ c.toNat at low
  change c.toNat ≤ last.toNat at high
  have place := row (c.toNat - first.toNat) (by omega)
  rwa [Nat.add_sub_of_le low, Char.ofNat_toNat] at place

theorem hexValue?_eq_some_iff {value : UInt8} :
    hexValue? c = some value ↔ ∃ place, Digit c place ∧ value = UInt8.ofNat place := by
  constructor
  · intro read
    unfold hexValue? at read
    split at read
    · rename_i decimal
      simp only [isDigit, Bool.and_eq_true, decide_eq_true_eq] at decimal
      have row : ∀ n ≤ '9'.toNat - '0'.toNat,
          hexDigits[0 + n]? = some (Char.ofNat ('0'.toNat + n)) := by
        decide
      have digit := digit_of_between row decimal.1 decimal.2
      rw [Nat.zero_add] at digit
      exact ⟨_, digit, (Option.some.inj read).symm⟩
    · split at read
      · rename_i letter
        simp only [Bool.and_eq_true, decide_eq_true_eq] at letter
        have row : ∀ n ≤ 'f'.toNat - 'a'.toNat,
            hexDigits[10 + n]? = some (Char.ofNat ('a'.toNat + n)) := by
          decide
        have digit := digit_of_between row letter.1 letter.2
        rw [Nat.add_comm] at digit
        exact ⟨_, digit, (Option.some.inj read).symm⟩
      · cases read
  · rintro ⟨place, digit, rfl⟩
    exact hexValue?_of_digit digit

theorem byte?_eq_some_iff {high low : Char} {byte : UInt8} : byte? high low = some byte ↔
    ∃ h l, Digit high h ∧ Digit low l ∧ byte = UInt8.ofNat (16 * h + l) := by
  simp only [byte?, Option.pure_def, Option.bind_eq_bind, Option.bind_eq_some_iff,
    hexValue?_eq_some_iff, Option.some.injEq]
  constructor
  · rintro ⟨_, ⟨h, high, rfl⟩, _, ⟨l, low, rfl⟩, rfl⟩
    refine ⟨h, l, high, low, ?_⟩
    rw [UInt8.ofNat_add, UInt8.ofNat_mul, UInt8.mul_comm]
    rfl
  · rintro ⟨h, l, high, low, rfl⟩
    refine ⟨_, ⟨h, high, rfl⟩, _, ⟨l, low, rfl⟩, ?_⟩
    rw [UInt8.ofNat_add, UInt8.ofNat_mul, UInt8.mul_comm]
    rfl

theorem nibble?_eq_byte? (c : Char) : nibble? c = byte? c c := by
  have seventeen (value : UInt8) : value * 17 = value * 16 + value := by
    rw [← UInt8.toNat_inj]
    simp
    omega
  cases read : hexValue? c <;> simp [nibble?, byte?, read, seventeen]

theorem Bytes.of_byte? {high low : Char} {byte : UInt8} {rest : List Char} {bytes : List UInt8}
    (read : byte? high low = some byte) (others : Bytes rest bytes) :
    Bytes (high :: low :: rest) (byte :: bytes) := by
  obtain ⟨h, l, highDigit, lowDigit, rfl⟩ := byte?_eq_some_iff.mp read
  exact .cons highDigit lowDigit others

theorem Bytes.inv {byte : UInt8} {bytes : List UInt8} (written : Bytes digits (byte :: bytes)) :
    ∃ high low rest, digits = high :: low :: rest ∧ byte? high low = some byte ∧
      Bytes rest bytes := by
  cases written with
  | cons highDigit lowDigit others =>
    exact ⟨_, _, _, rfl, byte?_eq_some_iff.mpr ⟨_, _, highDigit, lowDigit, rfl⟩, others⟩

theorem Bytes.inv_doubled {byte : UInt8} {bytes : List UInt8}
    (written : Bytes (doubled digits) (byte :: bytes)) :
    ∃ digit rest, digits = digit :: rest ∧ nibble? digit = some byte ∧
      Bytes (doubled rest) bytes := by
  obtain ⟨high, low, rest, same, read, others⟩ := written.inv
  cases digits with
  | nil => cases same
  | cons digit more =>
    obtain ⟨rfl, rfl, rfl⟩ : digit = high ∧ digit = low ∧ doubled more = rest := by
      simpa [doubled] using same
    exact ⟨digit, more, rfl, (nibble?_eq_byte? digit).trans read, others⟩

theorem Bytes.eq_nil (written : Bytes digits []) : digits = [] := by
  cases written
  rfl

theorem Bytes.eq_nil_of_doubled (written : Bytes (doubled digits) []) : digits = [] := by
  cases digits with
  | nil => rfl
  | cons digit more => cases written

theorem bytes_of_ofHex? (read : ofHex? digits = some colour) :
    ∃ bytes, (Bytes digits bytes ∨ Bytes (doubled digits) bytes) ∧
      ofChannels? bytes = some colour := by
  unfold ofHex? at read
  split at read
  all_goals simp only [nibble?_eq_byte?, Option.pure_def, Option.bind_eq_bind,
    Option.bind_eq_some_iff, Option.some.injEq, reduceCtorEq] at read
  · obtain ⟨r, red, g, green, b, blue, rfl⟩ := read
    exact ⟨[r, g, b], .inr (.of_byte? red (.of_byte? green (.of_byte? blue .nil))), rfl⟩
  · obtain ⟨r, red, g, green, b, blue, a, alpha, rfl⟩ := read
    exact ⟨[r, g, b, a],
      .inr (.of_byte? red (.of_byte? green (.of_byte? blue (.of_byte? alpha .nil)))), rfl⟩
  · obtain ⟨r, red, g, green, b, blue, rfl⟩ := read
    exact ⟨[r, g, b], .inl (.of_byte? red (.of_byte? green (.of_byte? blue .nil))), rfl⟩
  · obtain ⟨r, red, g, green, b, blue, a, alpha, rfl⟩ := read
    exact ⟨[r, g, b, a],
      .inl (.of_byte? red (.of_byte? green (.of_byte? blue (.of_byte? alpha .nil)))), rfl⟩

theorem ofHex?_of_bytes {bytes : List UInt8} (pairs : Bytes digits bytes)
    (channels : ofChannels? bytes = some colour) : ofHex? digits = some colour := by
  unfold ofChannels? at channels
  split at channels
  · cases channels
    obtain ⟨_, _, _, rfl, red, others⟩ := pairs.inv
    obtain ⟨_, _, _, rfl, green, others⟩ := others.inv
    obtain ⟨_, _, _, rfl, blue, others⟩ := others.inv
    cases others.eq_nil
    simp [ofHex?, red, green, blue, Colour.rgb]
  · cases channels
    obtain ⟨_, _, _, rfl, red, others⟩ := pairs.inv
    obtain ⟨_, _, _, rfl, green, others⟩ := others.inv
    obtain ⟨_, _, _, rfl, blue, others⟩ := others.inv
    obtain ⟨_, _, _, rfl, alpha, others⟩ := others.inv
    cases others.eq_nil
    simp [ofHex?, red, green, blue, alpha]
  · cases channels

theorem ofHex?_of_doubled {bytes : List UInt8} (pairs : Bytes (doubled digits) bytes)
    (channels : ofChannels? bytes = some colour) : ofHex? digits = some colour := by
  unfold ofChannels? at channels
  split at channels
  · cases channels
    obtain ⟨_, _, rfl, red, others⟩ := pairs.inv_doubled
    obtain ⟨_, _, rfl, green, others⟩ := others.inv_doubled
    obtain ⟨_, _, rfl, blue, others⟩ := others.inv_doubled
    cases others.eq_nil_of_doubled
    simp [ofHex?, red, green, blue, Colour.rgb]
  · cases channels
    obtain ⟨_, _, rfl, red, others⟩ := pairs.inv_doubled
    obtain ⟨_, _, rfl, green, others⟩ := others.inv_doubled
    obtain ⟨_, _, rfl, blue, others⟩ := others.inv_doubled
    obtain ⟨_, _, rfl, alpha, others⟩ := others.inv_doubled
    cases others.eq_nil_of_doubled
    simp [ofHex?, red, green, blue, alpha]
  · cases channels

/-! ## How many digits -/

def AllDigits (cs : List Char) : Prop := ∀ c ∈ cs, ∃ place, Digit c place

theorem Bytes.allDigits {bytes : List UInt8} (pairs : Bytes digits bytes) : AllDigits digits := by
  induction pairs with
  | nil => simp [AllDigits]
  | cons high low _ ih =>
    intro c member
    simp only [List.mem_cons] at member
    rcases member with rfl | rfl | later
    · exact ⟨_, high⟩
    · exact ⟨_, low⟩
    · exact ih c later

theorem allDigits_of_ofHex? (read : ofHex? digits = some colour) : AllDigits digits := by
  obtain ⟨bytes, long | short, -⟩ := bytes_of_ofHex? read
  · exact long.allDigits
  · exact fun c member => short.allDigits c (List.mem_flatMap.mpr ⟨c, member, by simp⟩)

theorem Bytes.length_eq {bytes : List UInt8} (pairs : Bytes digits bytes) :
    digits.length = 2 * bytes.length := by
  induction pairs with
  | nil => rfl
  | cons _ _ _ ih =>
    simp only [List.length_cons, ih]
    omega

theorem length_doubled (digits : List Char) : (doubled digits).length = 2 * digits.length := by
  simp [doubled, List.length_flatMap]
  omega

theorem exists_bytes : (digits : List Char) → AllDigits digits → digits.length % 2 = 0 →
    ∃ bytes, Bytes digits bytes
  | [], _, _ => ⟨[], .nil⟩
  | high :: low :: rest, all, even => by
    obtain ⟨h, highDigit⟩ := all high (by simp)
    obtain ⟨l, lowDigit⟩ := all low (by simp)
    have evenRest : rest.length % 2 = 0 := by
      simp only [List.length_cons] at even
      omega
    obtain ⟨bytes, pairs⟩ := exists_bytes rest (fun c member => all c (by simp [member])) evenRest
    exact ⟨_, .cons highDigit lowDigit pairs⟩

theorem ofChannels?_isSome_iff (bytes : List UInt8) :
    (∃ colour, ofChannels? bytes = some colour) ↔ bytes.length = 3 ∨ bytes.length = 4 := by
  constructor
  · rintro ⟨colour, channels⟩
    unfold ofChannels? at channels
    split at channels
    · exact .inl rfl
    · exact .inr rfl
    · cases channels
  · rintro (three | four)
    · match bytes, three with
      | [r, g, b], _ => exact ⟨_, rfl⟩
    · match bytes, four with
      | [r, g, b, a], _ => exact ⟨_, rfl⟩

/-- Behind a number sign, the texts that are colours are 3, 4, 6 or 8 digits. -/
theorem ofHex?_isSome_iff :
    (∃ colour, ofHex? digits = some colour) ↔ digits.length ∈ [3, 4, 6, 8] ∧ AllDigits digits := by
  constructor
  · rintro ⟨colour, read⟩
    refine ⟨?_, allDigits_of_ofHex? read⟩
    obtain ⟨bytes, written, channels⟩ := bytes_of_ofHex? read
    have count := (ofChannels?_isSome_iff bytes).mp ⟨colour, channels⟩
    simp only [List.mem_cons, List.not_mem_nil, or_false]
    rcases written with long | short
    · have := long.length_eq
      omega
    · have := short.length_eq
      rw [length_doubled] at this
      omega
  · rintro ⟨count, all⟩
    simp only [List.mem_cons, List.not_mem_nil, or_false] at count
    -- Up to four digits stand for two each; more stand for themselves.
    by_cases few : digits.length ≤ 4
    · have both : AllDigits (doubled digits) := by
        intro c member
        obtain ⟨digit, member, same⟩ := List.mem_flatMap.mp member
        obtain rfl : c = digit := by simpa using same
        exact all c member
      obtain ⟨bytes, pairs⟩ := exists_bytes _ both (by rw [length_doubled]; omega)
      have := pairs.length_eq
      rw [length_doubled] at this
      obtain ⟨colour, channels⟩ := (ofChannels?_isSome_iff bytes).mpr (by omega)
      exact ⟨colour, ofHex?_of_doubled pairs channels⟩
    · obtain ⟨bytes, pairs⟩ := exists_bytes _ all (by omega)
      have := pairs.length_eq
      obtain ⟨colour, channels⟩ := (ofChannels?_isSome_iff bytes).mpr (by omega)
      exact ⟨colour, ofHex?_of_bytes pairs channels⟩

/-! ## Calls -/

theorem nearestByte_eq_iff {x : Float32} {byte : UInt8} :
    nearestByte x = byte ↔ (byte.toNat : ℤ) = ⌊held 0 255 x + 1 / 2⌋ := by
  rw [← nearestByte_eq, Nat.cast_inj, UInt8.toNat_inj, eq_comm]

theorem channel?_eq_some_iff {byte : UInt8} :
    channel? (trimChars cs) = some byte ↔ Level cs byte := by
  simp only [channel?, Level, Option.map_eq_some_iff, nearestByte_eq_iff, held_clamp]

theorem opacity?_eq_some_iff {byte : UInt8} :
    opacity? (trimChars cs) = some byte ↔ Share cs byte := by
  simp only [opacity?, Share, Option.map_eq_some_iff, nearestByte_eq_iff]

theorem isBlank_of_mark {mark : Char} (known : IsMark mark) : isBlank mark = false := by
  rcases known with rfl | rfl | rfl <;> decide

/-- An argument that is a literal holds no comma and no parenthesis, also outside its trimmed
part. -/
theorem argument_free {literal : Literal} (parsed : Literal.parse? (trimChars cs) = some literal)
    {mark : Char} (known : IsMark mark) : mark ∉ cs :=
  fun member => Literal.parse?_free parsed known (mem_trimChars member (isBlank_of_mark known))

theorem Level.free {byte : UInt8} (level : Level cs byte) {mark : Char} (known : IsMark mark) :
    mark ∉ cs := by
  obtain ⟨literal, parsed, -⟩ := level
  exact argument_free parsed known

theorem Level.unparenthesised {byte : UInt8} (level : Level cs byte) : '(' ∉ cs ∧ ')' ∉ cs :=
  ⟨level.free (by simp [IsMark]), level.free (by simp [IsMark])⟩

theorem Share.free {byte : UInt8} (share : Share cs byte) {mark : Char} (known : IsMark mark) :
    mark ∉ cs := by
  obtain ⟨literal, parsed, -⟩ := share
  exact argument_free parsed known

theorem Share.unparenthesised {byte : UInt8} (share : Share cs byte) : '(' ∉ cs ∧ ')' ∉ cs :=
  ⟨share.free (by simp [IsMark]), share.free (by simp [IsMark])⟩

theorem mem_word {name : List Char} {word : String} (same : String.ofList (trimChars name) = word)
    (member : c ∈ name) (visible : isBlank c = false) : c ∈ word.toList := by
  rw [← same, String.toList_ofList]
  exact mem_trimChars member visible

theorem written_of_ofCall? (read : ofCall? cs = some colour) : Written cs colour := by
  simp only [ofCall?, Option.bind_eq_bind, Option.bind_eq_some_iff] at read
  obtain ⟨⟨name, rest⟩, cut, arguments, dropped, read⟩ := read
  obtain ⟨rfl, noOpening⟩ := cut?_eq_some_iff.mp cut
  obtain rfl := dropEnd?_eq_some_iff.mp dropped
  have nameFree {word : String} (same : String.ofList (trimChars name) = word)
      (letters : ')' ∉ word.toList) : '(' ∉ name ∧ ')' ∉ name :=
    ⟨noOpening, fun member => letters (mem_word same member (isBlank_of_mark (.inr (.inr rfl))))⟩
  rw [← fields_intercalate ',' arguments]
  split at read
  · rename_i word parts
    simp only [List.map_eq_cons_iff, List.map_eq_nil_iff] at parts
    obtain ⟨p₁, _, split, rfl, p₂, _, rfl, rfl, p₃, _, rfl, rfl, rfl⟩ := parts
    simp only [Option.pure_def, Option.bind_eq_some_iff, channel?_eq_some_iff,
      Option.some.injEq] at read
    obtain ⟨r, red, g, green, b, blue, rfl⟩ := read
    rw [split]
    refine .rgb word ?_ red green blue
    simp only [Unparenthesised, List.forall_mem_cons]
    exact ⟨nameFree word (by decide), red.unparenthesised, green.unparenthesised,
      blue.unparenthesised, by simp⟩
  · rename_i word parts
    simp only [List.map_eq_cons_iff, List.map_eq_nil_iff] at parts
    obtain ⟨p₁, _, split, rfl, p₂, _, rfl, rfl, p₃, _, rfl, rfl, p₄, _, rfl, rfl, rfl⟩ := parts
    simp only [Option.pure_def, Option.bind_eq_some_iff, channel?_eq_some_iff,
      opacity?_eq_some_iff, Option.some.injEq] at read
    obtain ⟨r, red, g, green, b, blue, a, alpha, rfl⟩ := read
    rw [split]
    refine .rgba word ?_ red green blue alpha
    simp only [Unparenthesised, List.forall_mem_cons]
    exact ⟨nameFree word (by decide), red.unparenthesised, green.unparenthesised,
      blue.unparenthesised, alpha.unparenthesised, by simp⟩
  · cases read

theorem ofCall?_parts {name : List Char} {arguments : List (List Char)} (some : arguments ≠ [])
    (nameFree : '(' ∉ name) (free : ∀ part ∈ arguments, ',' ∉ part) :
    ∃ inner, cut? '(' (call name arguments) = .some (name, inner ++ [')']) ∧
      dropEnd? ')' (inner ++ [')']) = .some inner ∧ fields ',' inner = arguments :=
  ⟨[','].intercalate arguments, cut?_eq_some_iff.mpr ⟨rfl, nameFree⟩, dropEnd?_eq_some_iff.mpr rfl,
    fields_of_intercalate some free⟩

theorem ofCall?_of_rgb {name p₁ p₂ p₃ : List Char} {r g b : UInt8}
    (word : String.ofList (trimChars name) = "rgb") (free : '(' ∉ name) (red : Level p₁ r)
    (green : Level p₂ g) (blue : Level p₃ b) :
    ofCall? (call name [p₁, p₂, p₃]) = some ⟨r, g, b, 255⟩ := by
  have comma : ∀ part ∈ [p₁, p₂, p₃], ',' ∉ part := by
    simp only [List.forall_mem_cons]
    exact ⟨red.free (.inl rfl), green.free (.inl rfl), blue.free (.inl rfl), by simp⟩
  obtain ⟨inner, cut, dropped, split⟩ := ofCall?_parts (by simp) free comma
  simp [ofCall?, cut, dropped, split, word, channel?_eq_some_iff.mpr red,
    channel?_eq_some_iff.mpr green, channel?_eq_some_iff.mpr blue, Colour.rgb]

theorem ofCall?_of_rgba {name p₁ p₂ p₃ p₄ : List Char} {r g b a : UInt8}
    (word : String.ofList (trimChars name) = "rgba") (free : '(' ∉ name) (red : Level p₁ r)
    (green : Level p₂ g) (blue : Level p₃ b) (alpha : Share p₄ a) :
    ofCall? (call name [p₁, p₂, p₃, p₄]) = some ⟨r, g, b, a⟩ := by
  have comma : ∀ part ∈ [p₁, p₂, p₃, p₄], ',' ∉ part := by
    simp only [List.forall_mem_cons]
    exact ⟨red.free (.inl rfl), green.free (.inl rfl), blue.free (.inl rfl),
      alpha.free (.inl rfl), by simp⟩
  obtain ⟨inner, cut, dropped, split⟩ := ofCall?_parts (by simp) free comma
  simp [ofCall?, cut, dropped, split, word, channel?_eq_some_iff.mpr red,
    channel?_eq_some_iff.mpr green, channel?_eq_some_iff.mpr blue, opacity?_eq_some_iff.mpr alpha]

/-! ## All texts -/

theorem ofNormal?_call {name : List Char} {arguments : List (List Char)} (plain : '#' ∉ name) :
    ofNormal? (call name arguments) = ofCall? (call name arguments) := by
  have parenthesis : (call name arguments).contains '(' = true := by simp [call]
  unfold ofNormal?
  split
  · rename_i digits start
    cases name with
    | nil => simp [call] at start
    | cons first rest =>
      simp only [call, List.cons_append, List.cons.injEq] at start
      exact absurd start.1 (by rintro rfl; simp at plain)
  · rw [if_pos parenthesis]

theorem ofNormal?_of_written (written : Written cs colour) : ofNormal? cs = some colour := by
  cases written with
  | long pairs channels => exact ofHex?_of_bytes pairs channels
  | short pairs channels => exact ofHex?_of_doubled pairs channels
  | rgb word free red green blue =>
    rw [ofNormal?_call fun member => ?_,
      ofCall?_of_rgb word (free _ (by simp)).1 red green blue]
    exact absurd (mem_word word member (by decide)) (by decide)
  | rgba word free red green blue alpha =>
    rw [ofNormal?_call fun member => ?_,
      ofCall?_of_rgba word (free _ (by simp)).1 red green blue alpha]
    exact absurd (mem_word word member (by decide)) (by decide)
  | named listed =>
    have all : ∀ entry ∈ names, ofNormal? entry.1.toList = some entry.2 := by decide
    simpa using all _ listed

theorem written_of_ofNormal? (read : ofNormal? cs = some colour) : Written cs colour := by
  unfold ofNormal? at read
  split at read
  · obtain ⟨bytes, long | short, channels⟩ := bytes_of_ofHex? read
    · exact .long long channels
    · exact .short short channels
  · split at read
    · exact written_of_ofCall? read
    · obtain ⟨before, after, split, -⟩ := List.lookup_eq_some_iff.mp read
      exact .named (by simp [split])

/-- The colours that are read are those that are written. -/
theorem parse?_eq_some_iff {s : String} : parse? s = some colour ↔ Written (normal s) colour :=
  ⟨written_of_ofNormal?, ofNormal?_of_written⟩

theorem parse_eq_ok_iff {s : String} : parse s = .ok colour ↔ Written (normal s) colour := by
  rw [← parse?_eq_some_iff]
  cases read : parse? s <;> simp [parse, read]

theorem parse_eq_error_iff {s : String} {e : ColourError} :
    parse s = .error e ↔ e = ⟨s⟩ ∧ ∀ colour, ¬ Written (normal s) colour := by
  simp only [← parse?_eq_some_iff, ← Option.eq_none_iff_forall_ne_some]
  cases read : parse? s <;> simp [parse, read, eq_comm]

/-- A blank text has nothing to read, so the early exit changes nothing. -/
theorem parseOrWhite_eq (s : String) :
    parseOrWhite s = match parse s with
      | .ok colour => colour
      | .error _ => white := by
  unfold parseOrWhite
  split
  · rename_i blank
    have nothing : parse? s = none := by
      rw [parse?, List.isEmpty_iff.mp blank]
      decide
    simp [parse, nothing]
  · cases read : parse? s <;> simp [parse, read]

end SpriteStage.Colour
