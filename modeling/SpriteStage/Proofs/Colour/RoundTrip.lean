import SpriteStage.Json.Decode
import SpriteStage.Proofs.Colour.Grammar

namespace SpriteStage.Colour
open SpriteStage.Text
variable {c : Char} {cs : List Char}

theorem digit_hexDigit (place : Nat) (small : place < 16) : Digit (hexDigit place) place := by
  have all : ∀ place : Fin 16, hexDigits[place.val]? = some (hexDigit place) := by decide
  exact all ⟨place, small⟩

theorem Bytes.hexByte (channel : UInt8) {bytes : List UInt8} (others : Bytes cs bytes) :
    Bytes (Colour.hexByte channel ++ cs) (channel :: bytes) := by
  have same : UInt8.ofNat (16 * (channel.toNat / 16) + channel.toNat % 16) = channel := by
    rw [Nat.div_add_mod, UInt8.ofNat_toNat]
  have inside := channel.toNat_lt
  have pairs := Bytes.cons (digit_hexDigit (channel.toNat / 16) (by omega))
    (digit_hexDigit (channel.toNat % 16) (by omega)) others
  rwa [same] at pairs

theorem normal_eq_self {s : String} {bytes : List UInt8} {digits : List Char}
    (start : s.toList = '#' :: digits) (pairs : Bytes digits bytes) : normal s = s.toList := by
  have each (c : Char) (member : c ∈ s.toList) : isBlank c = false ∧ c.toLower = c := by
    rw [start] at member
    rcases List.mem_cons.mp member with rfl | digit
    · decide
    · obtain ⟨place, known⟩ := pairs.allDigits c digit
      exact known.forall (P := fun c _ => isBlank c = false ∧ c.toLower = c) (by decide)
  rw [normal, trimChars_visible fun c member => (each c member).1,
    List.map_congr_left fun c member => (each c member).2, List.map_id']

/-- The text of a colour is its channels, two digits each; the fourth is left out when nothing shows
through. -/
theorem text_bytes (colour : Colour) : ∃ digits bytes, colour.text.toList = '#' :: digits ∧
    Bytes digits bytes ∧ ofChannels? bytes = some colour ∧
    digits.length = if colour.alpha = 255 then 6 else 8 := by
  obtain ⟨r, g, b, a⟩ := colour
  by_cases full : a = 255
  · refine ⟨hexByte r ++ (hexByte g ++ (hexByte b ++ [])), [r, g, b], ?_,
      .hexByte r (.hexByte g (.hexByte b .nil)), by rw [full]; rfl, by rw [if_pos full]; rfl⟩
    simp [text, full]
  · refine ⟨hexByte r ++ (hexByte g ++ (hexByte b ++ (hexByte a ++ []))), [r, g, b, a], ?_,
      .hexByte r (.hexByte g (.hexByte b (.hexByte a .nil))), rfl, by rw [if_neg full]; rfl⟩
    simp [text, full]

theorem parse_text (colour : Colour) : parse colour.text = .ok colour := by
  obtain ⟨digits, bytes, start, pairs, channels, -⟩ := text_bytes colour
  rw [parse_eq_ok_iff, normal_eq_self start pairs, start]
  exact .long pairs channels

theorem colour_toTree (colour : Colour) : colour.toJson.toTree.colour = .ok colour := by
  have string : colour.toJson.toTree.text = .ok colour.text := rfl
  rw [Json.Tree.colour, string]
  simp [bind, Except.bind, parse_text]

/-- Every colour comes back from its text, alone and as a string of a document, from six digits or
from eight. Whatever text a colour is read from, the text written for it is read as the same colour,
and written again as itself. -/
theorem text_roundTrip :
    (∀ colour : Colour, parse colour.text = .ok colour ∧
      colour.toJson.toTree.colour = .ok colour ∧
      colour.text.toList.length = if colour.alpha = 255 then 7 else 9) ∧
    ∀ s written, (parse s).map text = .ok written →
      parse written = parse s ∧ (parse written).map text = .ok written := by
  constructor
  · intro colour
    refine ⟨parse_text colour, colour_toTree colour, ?_⟩
    obtain ⟨digits, bytes, start, -, -, count⟩ := text_bytes colour
    rw [start, List.length_cons, count]
    split <;> rfl
  · intro s written shown
    cases read : parse s with
    | error e => simp [read, Except.map] at shown
    | ok colour =>
      obtain rfl : colour.text = written := by simpa [read, Except.map] using shown
      rw [parse_text]
      exact ⟨rfl, rfl⟩

theorem text_roundTrip_short : (parse " #0Af ").map text = .ok "#00aaff" ∧
    parse "#00aaff" = parse " #0Af " ∧ (parse "#00aaff").map text = .ok "#00aaff" :=
  have shown : (parse " #0Af ").map text = .ok "#00aaff" := by decide
  ⟨shown, text_roundTrip.2 _ _ shown⟩

end SpriteStage.Colour
