import SpriteStage.Json.Decode
import SpriteStage.Proofs.Json.Numeral

namespace SpriteStage.Json
variable {cs rest : List Char}

/-! ## Strings -/

theorem codeUnit_control {n : Nat} (small : n < 32) (rest : List Char) :
    codeUnit ('0' :: '0' :: Nat.digitChar (n / 16) :: Nat.digitChar (n % 16) :: rest) =
      (.unit n, rest) := by
  have known : ∀ n < 32,
      (String.ofList ['0', '0', Nat.digitChar (n / 16), Nat.digitChar (n % 16)]).utf8ByteSize = 4 ∧
        ['0', '0', Nat.digitChar (n / 16), Nat.digitChar (n % 16)].mapM hexDigit? =
          some [0, 0, n / 16, n % 16] := by
    decide
  obtain ⟨size, digits⟩ := known n small
  have value : 16 * (n / 16) + n % 16 = n := Nat.div_add_mod n 16
  simp only [codeUnit, List.take_succ_cons, List.take_zero, size, digits]
  simp [value]

theorem addUnit_control {c : Char} (small : c.toNat < 32) (reversed : List Char) :
    Draft.addUnit ⟨reversed, none, false⟩ c.toNat = ⟨c :: reversed, none, false⟩ := by
  have leading : isLeading c.toNat = false := by
    simp only [isLeading, Bool.and_eq_false_iff, decide_eq_false_iff_not]
    omega
  have trailing : isTrailing c.toNat = false := by
    simp only [isTrailing, Bool.and_eq_false_iff, decide_eq_false_iff_not]
    omega
  simp [Draft.addUnit, leading, trailing, Draft.addChar]

/-- Every character comes back from its escaped form in one step. -/
theorem stringBody_escapeChar (fuel : Nat) (c : Char) (reversed rest : List Char) :
    stringBody (fuel + 1) ⟨reversed, none, false⟩ (escapeChar c ++ rest) =
      stringBody fuel ⟨c :: reversed, none, false⟩ rest := by
  unfold escapeChar
  -- The quote, the backslash and five control characters have a letter of their own.
  iterate 7
    split
    · rename_i known
      subst known
      rfl
  split
  · rename_i small
    have control : piece (['\\', 'u', '0', '0', Nat.digitChar (c.toNat / 16),
        Nat.digitChar (c.toNat % 16)] ++ rest) = (.unit c.toNat, rest) :=
      codeUnit_control small rest
    rw [stringBody, control]
    simp only [addUnit_control small]
  · rename_i quote backslash _ _ _ _ _ large
    have plain : piece ([c] ++ rest) = (.char c, rest) := by
      simp [piece, quote, backslash, large]
    rw [stringBody, plain]
    rfl

theorem stringBody_escaped {fuel : Nat} (enough : cs.length < fuel) (reversed rest : List Char) :
    stringBody fuel ⟨reversed, none, false⟩ (cs.flatMap escapeChar ++ '"' :: rest) =
      .ok (.ok (String.ofList (reversed.reverse ++ cs)), rest) := by
  induction cs generalizing fuel reversed with
  | nil =>
    obtain ⟨fuel, rfl⟩ := Nat.exists_eq_succ_of_ne_zero (by omega : fuel ≠ 0)
    simp [stringBody, piece, Draft.finish]
  | cons c cs ih =>
    obtain ⟨fuel, rfl⟩ := Nat.exists_eq_succ_of_ne_zero (by omega : fuel ≠ 0)
    rw [List.flatMap_cons, List.append_assoc, Nat.succ_eq_add_one, stringBody_escapeChar,
      ih (Nat.lt_of_succ_lt_succ enough)]
    simp

theorem length_escapeChar (c : Char) : 1 ≤ (escapeChar c).length := by
  unfold escapeChar
  repeat' split
  all_goals simp

theorem length_escaped (cs : List Char) : cs.length ≤ (cs.flatMap escapeChar).length := by
  induction cs with
  | nil => simp
  | cons c cs ih =>
    have := length_escapeChar c
    rw [List.flatMap_cons, List.length_append, List.length_cons]
    omega

theorem stringAfterQuote_append (s : String) (rest : List Char) :
    stringAfterQuote (s.toList.flatMap escapeChar ++ '"' :: rest) = .ok (.ok s, rest) := by
  rw [stringAfterQuote, stringBody_escaped]
  · simp
  · have := length_escaped s.toList
    simp only [List.length_append, List.length_cons]
    omega

/-! ## Items and members -/

/-- What stands before an item or a member: a comma, unless it is the first one or there is none. -/
def lead (start none : Bool) : List Char := if start || none then [] else [',']

theorem itemChars_cons (item : Json) (items : List Json) :
    itemChars (item :: items) = item.chars ++ (lead false items.isEmpty ++ itemChars items) := by
  cases items <;> simp [itemChars, lead]

theorem memberChars_cons (key : String) (value : Json) (members : List (String × Json)) :
    memberChars ((key, value) :: members) = quoted key ++ (':' :: (value.chars ++
      (lead false members.isEmpty ++ memberChars members))) := by
  cases members <;> simp [memberChars, lead]

theorem skipSpace_cons {c : Char} (plain : isSpace c = false) : skipSpace (c :: cs) = c :: cs := by
  simp [skipSpace, plain]

theorem readItems_end {fuel : Nat} {start : Bool} :
    readItems (fuel + 1) start (lead start true ++ ']' :: rest) = (([], none), some rest) := by
  have bracket : skipSpace (']' :: rest) = ']' :: rest := skipSpace_cons rfl
  simp [readItems, lead, bracket]

theorem readItems_step {fuel : Nat} {start : Bool} {c : Char} {item : Tree} {items : List Tree}
    {left : Option (List Char)} (plain : isSpace c = false) (other : c ≠ ']')
    (first : readValue fuel (c :: cs) = (item, some rest))
    (later : readItems fuel false rest = ((items, none), left)) :
    readItems (fuel + 1) start (lead start false ++ c :: cs) = ((item :: items, none), left) := by
  have comma : skipSpace (',' :: c :: cs) = ',' :: c :: cs := skipSpace_cons rfl
  cases start with
  | true => simp [readItems, lead, skipSpace_cons plain, other, first, later]
  | false => simp [readItems, lead, comma, first, later]

theorem readMembers_end {fuel : Nat} {start : Bool} :
    readMembers (fuel + 1) start (lead start true ++ '\x7d' :: rest) = (([], none), some rest) := by
  have brace : skipSpace ('\x7d' :: rest) = '\x7d' :: rest := skipSpace_cons rfl
  simp [readMembers, lead, brace]

theorem readMembers_step {fuel : Nat} {start : Bool} {key : String} {value : Tree}
    {members : List (Except Problem String × Tree)} {left : Option (List Char)}
    (first : readValue fuel cs = (value, some rest))
    (later : readMembers fuel false rest = ((members, none), left)) :
    readMembers (fuel + 1) start (lead start false ++ (quoted key ++ ':' :: cs)) =
      (((.ok key, value) :: members, none), left) := by
  have text : quoted key ++ ':' :: cs =
      '"' :: (key.toList.flatMap escapeChar ++ '"' :: ':' :: cs) := by
    simp [quoted]
  have comma (cs : List Char) : skipSpace (',' :: cs) = ',' :: cs := skipSpace_cons rfl
  have quote (cs : List Char) : skipSpace ('"' :: cs) = '"' :: cs := skipSpace_cons rfl
  have colon : skipSpace (':' :: cs) = ':' :: cs := skipSpace_cons rfl
  rw [text]
  cases start with
  | true => simp [readMembers, lead, quote, stringAfterQuote_append, colon, first, later]
  | false => simp [readMembers, lead, comma, quote, stringAfterQuote_append, colon, first, later]

/-! ## Whole values -/

theorem Numeral.chars_first {n : Numeral} (wellFormed : n.WellFormed) :
    ∃ c others, n.chars = c :: others ∧ (c = '-' ∨ Number.isDigit c) := by
  rw [Numeral.chars_eq]
  by_cases negative : n.negative = true
  · rw [if_pos negative]
    exact ⟨'-', _, rfl, .inl rfl⟩
  · obtain ⟨first, others, same⟩ := List.exists_cons_of_ne_nil wellFormed.whole.1
    rw [if_neg negative, same]
    exact ⟨first, _, rfl, .inr (wellFormed.whole.2 first (by simp [same]))⟩

theorem numeral_start {c other : Char} (first : c = '-' ∨ Number.isDigit c) (unsigned : other ≠ '-')
    (noDigit : Number.isDigit other = false) : c ≠ other := by
  rintro rfl
  rcases first with minus | digit
  · exact unsigned minus
  · simp [noDigit] at digit

theorem isSpace_numeral {c : Char} (first : c = '-' ∨ Number.isDigit c) : isSpace c = false := by
  have space : c ≠ ' ' := numeral_start first (by decide) rfl
  have line : c ≠ '\n' := numeral_start first (by decide) rfl
  have tab : c ≠ '\t' := numeral_start first (by decide) rfl
  have back : c ≠ '\r' := numeral_start first (by decide) rfl
  simp [isSpace, space, line, tab, back]

theorem readValue_numeral {fuel : Nat} {n : Numeral} (wellFormed : n.WellFormed)
    (ends : Ends rest) : readValue (fuel + 1) (n.chars ++ rest) = (.number n, some rest) := by
  have read := numeral_append wellFormed ends
  obtain ⟨c, others, text, first⟩ := Numeral.chars_first wellFormed
  have start : (c = '-' || Number.isDigit c) = true := by
    rcases first with minus | digit
    · simp [minus]
    · simp [digit]
  rw [text, List.cons_append] at read ⊢
  simp only [readValue, skipSpace_cons (isSpace_numeral first)]
  rw [if_neg (numeral_start first (by decide) rfl), if_neg (numeral_start first (by decide) rfl),
    if_neg (numeral_start first (by decide) rfl), if_neg (numeral_start first (by decide) rfl),
    if_pos start, read]

theorem chars_first (value : Json) :
    ∃ c others, value.chars = c :: others ∧ isSpace c = false ∧ c ≠ ']' := by
  have ofNumeral {n : Numeral} (wellFormed : n.WellFormed) :
      ∃ c others, n.chars = c :: others ∧ isSpace c = false ∧ c ≠ ']' := by
    obtain ⟨c, others, text, first⟩ := Numeral.chars_first wellFormed
    exact ⟨c, others, text, isSpace_numeral first, numeral_start first (by decide) rfl⟩
  cases value with
  | null => exact ⟨'n', _, by rw [chars], by decide, by decide⟩
  | bool b => cases b <;> exact ⟨_, _, by rw [chars], by decide, by decide⟩
  | int n =>
    rw [chars, ← Numeral.chars_ofInt]
    exact ofNumeral (Numeral.wellFormed_ofInt n)
  | single x =>
    rw [chars, singleText]
    split
    · exact ofNumeral (Numeral.wellFormed_ofDecimal _)
    · exact ⟨'n', _, rfl, by decide, by decide⟩
  | string s => exact ⟨'"', _, by rw [chars, quoted, List.cons_append], by decide, by decide⟩
  | array items => exact ⟨'[', _, by rw [chars, List.cons_append], by decide, by decide⟩
  | object members => exact ⟨'\x7b', _, by rw [chars, List.cons_append], by decide, by decide⟩

theorem readValue_null {fuel : Nat} :
    readValue (fuel + 1) (['n', 'u', 'l', 'l'] ++ rest) = (.null, some rest) := by
  rw [readValue]
  simp [skipSpace, isSpace, wordValue, expectWord]

theorem ends_lead {c : Char} (closing : c = ']' ∨ c = '\x7d') (none : Bool)
    (follows : none = true → cs = []) : Ends (lead false none ++ (cs ++ c :: rest)) := by
  intro first head
  cases none with
  | true =>
    obtain rfl : c = first := by simpa [lead, follows rfl] using head
    rcases closing with rfl | rfl <;> simp
  | false =>
    obtain rfl : ',' = first := by simpa [lead] using head
    simp

mutual

/-- Every value is read from its text, whatever follows it. -/
theorem readValue_append : ∀ (value : Json) (fuel : Nat) (rest : List Char),
    value.chars.length ≤ fuel → Ends rest →
      readValue fuel (value.chars ++ rest) = (value.toTree, some rest)
  | value, 0, rest, enough, ends => by
    obtain ⟨c, others, text, -⟩ := chars_first value
    simp [text] at enough
  | .null, fuel + 1, rest, enough, ends => by
    rw [chars, toTree]
    exact readValue_null
  | .bool true, fuel + 1, rest, enough, ends => by
    simp [chars, toTree, readValue, skipSpace, isSpace, wordValue, expectWord]
  | .bool false, fuel + 1, rest, enough, ends => by
    simp [chars, toTree, readValue, skipSpace, isSpace, wordValue, expectWord]
  | .int n, fuel + 1, rest, enough, ends => by
    rw [chars, ← Numeral.chars_ofInt, toTree]
    exact readValue_numeral (Numeral.wellFormed_ofInt n) ends
  | .single x, fuel + 1, rest, enough, ends => by
    rw [chars, singleText, toTree]
    split
    · exact readValue_numeral (Numeral.wellFormed_ofDecimal _) ends
    · exact readValue_null
  | .string s, fuel + 1, rest, enough, ends => by
    simp [chars, toTree, quoted, readValue, skipSpace, isSpace, stringAfterQuote_append]
  | .array items, fuel + 1, rest, enough, ends => by
    have short : (itemChars items).length < fuel := by
      simp only [chars, List.length_cons, List.length_append, List.length_nil] at enough
      omega
    have inner := readItems_append items fuel true rest short
    have text : (Json.array items).chars ++ rest = '[' :: (itemChars items ++ ']' :: rest) := by
      simp [chars]
    rw [lead, Bool.true_or, if_pos rfl, List.nil_append] at inner
    rw [text, toTree, readValue, skipSpace_cons rfl]
    simp [inner, Number.isDigit]
  | .object members, fuel + 1, rest, enough, ends => by
    have short : (memberChars members).length < fuel := by
      simp only [chars, List.length_cons, List.length_append, List.length_nil] at enough
      omega
    have inner := readMembers_append members fuel true rest short
    have text : (Json.object members).chars ++ rest =
        '\x7b' :: (memberChars members ++ '\x7d' :: rest) := by
      simp [chars]
    rw [lead, Bool.true_or, if_pos rfl, List.nil_append] at inner
    rw [text, toTree, readValue, skipSpace_cons rfl]
    simp [inner, Number.isDigit]

theorem readItems_append : ∀ (items : List Json) (fuel : Nat) (start : Bool) (rest : List Char),
    (lead start items.isEmpty ++ itemChars items).length < fuel →
      readItems fuel start (lead start items.isEmpty ++ (itemChars items ++ ']' :: rest)) =
        ((itemTrees items, none), some rest)
  | items, 0, start, rest, enough => absurd enough (Nat.not_lt_zero _)
  | [], fuel + 1, start, rest, enough => by
    rw [itemTrees]
    exact readItems_end
  | item :: items, fuel + 1, start, rest, enough => by
    obtain ⟨c, others, text, plain, other⟩ := chars_first item
    rw [itemChars_cons] at enough ⊢
    simp only [List.isEmpty_cons, List.length_append] at enough ⊢
    have some : 0 < item.chars.length := by simp [text]
    have first := readValue_append item fuel
      (lead false items.isEmpty ++ (itemChars items ++ ']' :: rest)) (by omega)
      (ends_lead (.inl rfl) _ fun none => by rw [List.isEmpty_iff.mp none, itemChars])
    have later := readItems_append items fuel false rest (by rw [List.length_append]; omega)
    rw [text, List.cons_append] at first
    rw [text, itemTrees]
    simp only [List.append_assoc, List.cons_append]
    exact readItems_step plain other first later

theorem readMembers_append : ∀ (members : List (String × Json)) (fuel : Nat) (start : Bool)
    (rest : List Char), (lead start members.isEmpty ++ memberChars members).length < fuel →
      readMembers fuel start
          (lead start members.isEmpty ++ (memberChars members ++ '\x7d' :: rest)) =
        ((memberTrees members, none), some rest)
  | members, 0, start, rest, enough => absurd enough (Nat.not_lt_zero _)
  | [], fuel + 1, start, rest, enough => by
    rw [memberTrees]
    exact readMembers_end
  | (key, value) :: members, fuel + 1, start, rest, enough => by
    rw [memberChars_cons] at enough ⊢
    simp only [List.isEmpty_cons, List.length_append, List.length_cons] at enough ⊢
    have first := readValue_append value fuel
      (lead false members.isEmpty ++ (memberChars members ++ '\x7d' :: rest)) (by omega)
      (ends_lead (.inr rfl) _ fun none => by rw [List.isEmpty_iff.mp none, memberChars])
    have later := readMembers_append members fuel false rest (by rw [List.length_append]; omega)
    rw [memberTrees]
    simp only [List.append_assoc, List.cons_append]
    exact readMembers_step first later

end

/-- A whole text that was written is read completely, as the tree of the value. -/
theorem readText_text (value : Json) : readText value.text = (value.toTree, true) := by
  have ends : Ends [] := by simp [Ends]
  have read := readValue_append value (2 * value.chars.length + 2) [] (by omega) ends
  rw [List.append_nil] at read
  simp only [readText, text, String.toList_ofList, read]
  rfl

end SpriteStage.Json
