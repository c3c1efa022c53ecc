import SpriteStage.Proofs.Number.Single

namespace SpriteStage.Number
open Float.Model UnpackedFloat
variable {x : Float32} {sign : Sign} {mantissa : Nat} {exponent : Int} {positive : 0 < mantissa}

/-- The value of a number held between two bounds. An infinite one stops at a bound, and what is not
a number counts as zero. -/
def held (low high : ℚ) (x : Float32) : ℚ :=
  match x.toModel.unpack with
  | .notANumber => 0
  | .infinity .positive => high
  | .infinity .negative => low
  | .zero _ => max low (min high 0)
  | .finite sign mantissa exponent _ =>
    max low (min high ((sign.apply mantissa : Int) * 2 ^ exponent))

theorem half_parts :
    (0.5 : Float32).toModel.unpack = .finite .positive (2 ^ 23) (-24) (by decide) :=
  rfl

theorem zero_parts : (0 : UInt8).toFloat32.toModel.unpack = .zero .positive := rfl

theorem half_le_iff (y : Float32) : (0.5 : Float32) ≤ y ↔
    UnpackedFloat.le (.finite .positive (2 ^ 23) (-24) (by decide)) y.toModel.unpack = true := by
  rw [← half_parts]
  exact decide_eq_true_iff

theorem half_le_finite (stored : Stored mantissa exponent) :
    UnpackedFloat.le (.finite .positive (2 ^ 23) (-24) (by decide))
      (.finite .positive mantissa exponent positive) = true ↔ -24 ≤ exponent := by
  obtain ⟨upper, least, most, full⟩ := stored
  simp only [UnpackedFloat.le, UnpackedFloat.compare, Option.any_some]
  rcases lt_trichotomy (-24) exponent with above | same | below
  · rw [Int.compare_eq_lt.mpr above]
    simp [above.le]
  · have normal : 2 ^ 23 ≤ mantissa := by omega
    rw [Int.compare_eq_eq.mpr same]
    simpa [← same, Nat.isLE_compare] using normal
  · rw [Int.compare_eq_gt.mpr below]
    simp [below]

theorem toUInt8_positive :
    UnpackedFloat.toUInt8 (.finite .positive mantissa exponent positive) =
      UInt8.ofNatClamp (mantissa * 2 ^ exponent.toNat / 2 ^ (-exponent).toNat) := by
  simp only [UnpackedFloat.toUInt8, UnpackedFloat.toInt, roundToInt, decreaseExponent,
    shiftToExponent, shiftRight_mantissa, ExtendedMantissa.ofMantissaAndAccuracy, Sign.apply,
    Nat.shiftLeft_eq]
  have place : (0 - (exponent - ((exponent - 0).toNat : Int))).toNat = (-exponent).toNat := by omega
  rw [place, Int.sub_zero, Int.toNat_natCast]

theorem toUInt8_negative :
    UnpackedFloat.toUInt8 (.finite .negative mantissa exponent positive) = 0 := by
  simp only [UnpackedFloat.toUInt8, UnpackedFloat.toInt, roundToInt, Sign.apply]
  rw [Int.toNat_of_nonpos (by omega)]
  rfl

theorem whole_parts {whole : UInt8} (something : 0 < whole.toNat) {places : Nat}
    (full : whole.toNat.log2 + places = 23) :
    ∃ shifted, whole.toFloat32.toModel.unpack =
      .finite .positive (whole.toNat * 2 ^ places) (-places) shifted := by
  obtain ⟨shifted, parts⟩ := normalize_exact 0 places something full (by omega) (by omega)
    .positive
  refine ⟨shifted, ?_⟩
  simp only [Int.zero_sub] at parts
  exact parts

theorem sub_parts (x y : Float32) : (x - y).toModel.unpack =
    (Float32.Model.pack (UnpackedFloat.sub .binary32 x.toModel.unpack y.toModel.unpack)).unpack :=
  rfl

theorem half_le_sub_zero {x : Float32} (stored : Stored mantissa exponent)
    (parts : x.toModel.unpack = .finite sign mantissa exponent positive) :
    (0.5 : Float32) ≤ x - (0 : UInt8).toFloat32 ↔ sign = .positive ∧ -24 ≤ exponent := by
  have same : (x - (0 : UInt8).toFloat32).toModel.unpack =
      .finite sign mantissa exponent positive := by
    rw [sub_parts, parts, zero_parts]
    exact unpack_ofModel_pack stored
  rw [half_le_iff, same]
  cases sign with
  | positive => simpa using half_le_finite stored
  | negative => simp [UnpackedFloat.le, UnpackedFloat.compare]

/-- A mantissa of 24 bits with a whole part has few bits behind the point, and the bits of the whole
part are the others. -/
theorem log2_whole {places : Nat} (upper : mantissa < 2 ^ 24) (normal : 2 ^ 23 ≤ mantissa)
    (something : 0 < mantissa / 2 ^ places) : (mantissa / 2 ^ places).log2 + places = 23 := by
  have few : places ≤ 23 := by
    by_contra many
    have : 2 ^ 24 ≤ 2 ^ places := Nat.pow_le_pow_right (by decide) (by omega)
    rw [Nat.div_eq_of_lt (by omega)] at something
    exact something.false
  have grown : 2 ^ 23 = 2 ^ (23 - places) * 2 ^ places := by
    rw [← Nat.pow_add, Nat.sub_add_cancel few]
  have wider : 2 ^ 24 = 2 ^ (23 - places + 1) * 2 ^ places := by
    rw [← Nat.pow_add]
    congr 1
    omega
  have log : (mantissa / 2 ^ places).log2 = 23 - places := by
    rw [Nat.log2_eq_iff something.ne', Nat.le_div_iff_mul_le (Nat.two_pow_pos places),
      Nat.div_lt_iff_lt_mul (Nat.two_pow_pos places), ← grown, ← wider]
    exact ⟨normal, upper⟩
  omega

/-- A part behind the point is stored without rounding, and is a half or more exactly if its
double has as many bits as there are places. -/
theorem half_le_rest {rest places : Nat} (few : places ≤ 23) (below : rest < 2 ^ places) :
    UnpackedFloat.le (.finite .positive (2 ^ 23) (-24) (by decide)) (Float32.Model.pack
      (UnpackedFloat.normalize .binary32 rest (-places) .positive)).unpack = true ↔
        2 ^ places ≤ 2 * rest := by
  rcases Nat.eq_zero_or_pos rest with rfl | something
  · have zero : UnpackedFloat.normalize .binary32 (0 : Nat) (-places) .positive = .zero .positive :=
      rfl
    have wide : ¬ 2 ^ places ≤ 2 * 0 := by
      have := Nat.two_pow_pos places
      omega
    simp only [zero, wide, iff_false]
    decide
  · have short : rest.log2 < places := (Nat.log2_lt something.ne').mpr below
    obtain ⟨shifted, kept⟩ := normalize_exact (-places) (23 - rest.log2) something (by omega)
      (by omega) (by omega) .positive
    have log : (rest * 2 ^ (23 - rest.log2)).log2 = 23 := by
      rw [log2_mul_two_pow something]
      omega
    rw [kept, half_le_finite (.of_log2 log (by omega) (by omega)), ← Nat.le_log2 (by omega),
      Nat.log2_two_mul something.ne']
    omega

/-- The whole part is taken away exactly: what is left is the part of the mantissa behind the
point. -/
theorem half_le_sub_whole {x : Float32} {whole : UInt8} {places : Nat} (upper : mantissa < 2 ^ 24)
    (normal : 2 ^ 23 ≤ mantissa)
    (parts : x.toModel.unpack = .finite .positive mantissa (-places) positive)
    (something : 0 < whole.toNat) (truncated : whole.toNat = mantissa / 2 ^ places) :
    (0.5 : Float32) ≤ x - whole.toFloat32 ↔ 2 ^ places ≤ 2 * (mantissa % 2 ^ places) := by
  have full : whole.toNat.log2 + places = 23 := by
    rw [truncated] at something ⊢
    exact log2_whole upper normal something
  obtain ⟨shifted, whole_parts⟩ := whole_parts something full
  have rest : (mantissa : Int) - (whole.toNat * 2 ^ places : Nat) =
      (mantissa % 2 ^ places : Nat) := by
    have := Nat.mod_add_div' mantissa (2 ^ places)
    rw [truncated]
    omega
  have left : (x - whole.toFloat32).toModel.unpack = (Float32.Model.pack (UnpackedFloat.normalize
      .binary32 (mantissa % 2 ^ places : Nat) (-places) .positive)).unpack := by
    rw [sub_parts, parts, whole_parts, ← rest]
    simp only [UnpackedFloat.sub, Sign.apply, decreaseExponent, Int.min_self, Int.sub_self,
      Int.toNat_zero, Nat.shiftLeft_zero]
  rw [half_le_iff, left]
  exact half_le_rest (by omega) (Nat.mod_lt _ (Nat.two_pow_pos places))

/-- Whether what is left behind the point is a half is a question about the mantissa alone. -/
theorem half_le_sub_truncated {x : Float32} {whole : UInt8} {places : Nat}
    (stored : Stored mantissa (-places))
    (parts : x.toModel.unpack = .finite .positive mantissa (-places) positive)
    (truncated : whole.toNat = mantissa / 2 ^ places) :
    (0.5 : Float32) ≤ x - whole.toFloat32 ↔ 2 ^ places ≤ 2 * (mantissa % 2 ^ places) := by
  obtain ⟨upper, least, -, full⟩ := id stored
  rcases Nat.eq_zero_or_pos whole.toNat with nothing | something
  · have same : whole = 0 := UInt8.toNat_inj.mp nothing
    have small : mantissa < 2 ^ places := by
      rw [nothing] at truncated
      exact (Nat.div_eq_zero_iff_lt (Nat.two_pow_pos places)).mp truncated.symm
    rw [same, half_le_sub_zero stored parts, Nat.mod_eq_of_lt small]
    constructor
    · rintro ⟨-, near⟩
      have : 2 ^ places ≤ 2 ^ 24 := Nat.pow_le_pow_right (by decide) (by omega)
      omega
    · intro half
      refine ⟨rfl, ?_⟩
      by_contra far
      have : 2 ^ 25 ≤ 2 ^ places := Nat.pow_le_pow_right (by decide) (by omega)
      omega
  · refine half_le_sub_whole upper ?_ parts something truncated
    -- A mantissa without its leading bit is so far behind the point that it has no whole part.
    by_contra few
    have : 2 ^ 24 ≤ 2 ^ places := Nat.pow_le_pow_right (by decide) (by omega)
    rw [truncated, Nat.div_eq_of_lt (by omega)] at something
    exact something.false

theorem nearestByte_toNat (x : Float32) : (nearestByte x).toNat =
    if (0.5 : Float32) ≤ x - x.toUInt8.toFloat32 ∧ x.toUInt8.toNat < 255
      then x.toUInt8.toNat + 1 else x.toUInt8.toNat := by
  simp only [nearestByte, Bool.and_eq_true, decide_eq_true_eq, UInt8.lt_iff_toNat_lt]
  change (if _ ∧ x.toUInt8.toNat < 255 then _ else _ : UInt8).toNat = _
  split
  · rw [UInt8.toNat_add]
    change (x.toUInt8.toNat + 1) % 256 = _
    omega
  · rfl

theorem floor_div_add_half (numerator : Nat) {denominator : Nat} (positive : 0 < denominator) :
    ⌊(numerator / denominator + 1 / 2 : ℚ)⌋ = (numerator / denominator +
      if denominator ≤ 2 * (numerator % denominator) then 1 else 0 : ℕ) := by
  have below : numerator % denominator < denominator := Nat.mod_lt _ positive
  have together : (numerator / denominator + 1 / 2 : ℚ) =
      (2 * numerator + denominator : ℕ) / (2 * denominator : ℕ) := by
    push_cast
    field_simp
  have shape : 2 * numerator + denominator = 2 * (numerator % denominator) + denominator +
      2 * denominator * (numerator / denominator) := by
    have := Nat.mod_add_div numerator denominator
    rw [Nat.mul_assoc]
    omega
  rw [together, Rat.floor_natCast_div_natCast, ← Int.natCast_div, shape,
    Nat.add_mul_div_left _ _ (by omega), Nat.add_comm]
  congr 2
  split
  · exact Nat.div_eq_of_lt_le (by omega) (by omega)
  · exact Nat.div_eq_of_lt (by omega)

theorem toNat_ofNatClamp (whole : Nat) : (UInt8.ofNatClamp whole).toNat = min whole 255 := by
  unfold UInt8.ofNatClamp
  split
  · rename_i inside
    change whole = _
    change whole < 256 at inside
    omega
  · rename_i outside
    change 255 = _
    change ¬ whole < 256 at outside
    omega

theorem nearestByte_nothing (whole : x.toUInt8 = 0)
    (little : ¬ (0.5 : Float32) ≤ x - (0 : UInt8).toFloat32) : (nearestByte x).toNat = 0 := by
  rw [nearestByte_toNat, whole, if_neg fun both => little both.1]
  rfl

theorem nearestByte_full (whole : x.toUInt8.toNat = 255) : (nearestByte x).toNat = 255 := by
  rw [nearestByte_toNat, whole, if_neg fun both => both.2.false]

theorem not_half_le_sub_zero {parts : UnpackedFloat} (unpacked : x.toModel.unpack = parts)
    (nothing : parts ∈ [.zero .positive, .zero .negative, .infinity .negative, .notANumber]) :
    ¬ (0.5 : Float32) ≤ x - (0 : UInt8).toFloat32 := by
  rw [half_le_iff, sub_parts, unpacked, zero_parts]
  simp only [List.mem_cons, List.not_mem_nil, or_false] at nothing
  rcases nothing with rfl | rfl | rfl | rfl <;> decide

theorem nearestByte_large {places : Nat} (stored : Stored mantissa places)
    (parts : x.toModel.unpack = .finite .positive mantissa places positive) :
    ((nearestByte x).toNat : ℤ) = ⌊held 0 255 x + 1 / 2⌋ := by
  have normal : 2 ^ 23 ≤ mantissa := by
    have := stored.full
    omega
  have grown : mantissa ≤ mantissa * 2 ^ places :=
    Nat.le_mul_of_pos_right _ (Nat.two_pow_pos places)
  have whole : x.toUInt8.toNat = 255 := by
    change (UnpackedFloat.toUInt8 x.toModel.unpack).toNat = 255
    rw [parts, toUInt8_positive, toNat_ofNatClamp]
    simp
    omega
  have large : (255 : ℚ) ≤ mantissa * 2 ^ (places : Int) := by
    have : 255 ≤ mantissa * 2 ^ places := by omega
    exact_mod_cast this
  simp only [nearestByte_full whole, held, parts, Sign.apply, Int.cast_natCast, min_eq_left large]
  norm_num

theorem nearestByte_fraction {places : Nat} (stored : Stored mantissa (-places))
    (parts : x.toModel.unpack = .finite .positive mantissa (-places) positive) :
    ((nearestByte x).toNat : ℤ) = ⌊held 0 255 x + 1 / 2⌋ := by
  have place : (mantissa : ℚ) * 2 ^ (-places : Int) = mantissa / (2 ^ places : ℕ) := by
    rw [zpow_neg, zpow_natCast, Nat.cast_pow, div_eq_mul_inv]
    rfl
  have whole : x.toUInt8.toNat = min (mantissa / 2 ^ places) 255 := by
    change (UnpackedFloat.toUInt8 x.toModel.unpack).toNat = _
    rw [parts, toUInt8_positive, toNat_ofNatClamp]
    simp
  have wide : (0 : ℚ) < (2 ^ places : ℕ) := by exact_mod_cast Nat.two_pow_pos places
  simp only [held, parts, Sign.apply, Int.cast_natCast, place]
  rcases Nat.lt_or_ge (mantissa / 2 ^ places) 255 with few | many
  · have kept : x.toUInt8.toNat = mantissa / 2 ^ places := by omega
    have below : (mantissa / (2 ^ places : ℕ) : ℚ) < 255 := by
      rw [div_lt_iff₀ wide]
      exact_mod_cast (Nat.div_lt_iff_lt_mul (Nat.two_pow_pos places)).mp few
    rw [min_eq_right below.le, max_eq_right (by positivity), nearestByte_toNat,
      floor_div_add_half mantissa (Nat.two_pow_pos places), kept]
    simp only [half_le_sub_truncated stored parts kept, few, and_true]
    split <;> simp
  · have full : x.toUInt8.toNat = 255 := by omega
    have large : (255 : ℚ) ≤ mantissa / (2 ^ places : ℕ) := by
      rw [le_div_iff₀ wide]
      exact_mod_cast (Nat.le_div_iff_mul_le (Nat.two_pow_pos places)).mp many
    rw [nearestByte_full full, min_eq_left large]
    norm_num

theorem held_negative (parts : x.toModel.unpack = .finite .negative mantissa exponent positive) :
    held 0 255 x = 0 := by
  have below : ((Sign.negative.apply mantissa : Int) : ℚ) * 2 ^ exponent ≤ 0 := by
    have : (0 : ℚ) ≤ mantissa * 2 ^ exponent := by positivity
    simp only [Sign.apply, Int.cast_neg, Int.cast_natCast]
    linarith
  simp only [held, parts]
  rw [min_eq_right (by linarith), max_eq_left below]

theorem nearestByte_negative (stored : Stored mantissa exponent)
    (parts : x.toModel.unpack = .finite .negative mantissa exponent positive) :
    ((nearestByte x).toNat : ℤ) = ⌊held 0 255 x + 1 / 2⌋ := by
  have whole : x.toUInt8 = 0 := by
    change UnpackedFloat.toUInt8 x.toModel.unpack = 0
    rw [parts, toUInt8_negative]
  have little : ¬ (0.5 : Float32) ≤ x - (0 : UInt8).toFloat32 := by
    simp [half_le_sub_zero stored parts]
  rw [nearestByte_nothing whole little, held_negative parts]
  norm_num

/-- The nearest byte to any single precision value, a half going up: exactly, and with both ends and
the values that are not finite. -/
theorem nearestByte_eq (x : Float32) :
    ((nearestByte x).toNat : ℤ) = ⌊held 0 255 x + 1 / 2⌋ := by
  have whole : x.toUInt8 = UnpackedFloat.toUInt8 x.toModel.unpack := rfl
  cases parts : x.toModel.unpack with
  | notANumber =>
    rw [parts] at whole
    simp only [nearestByte_nothing whole (not_half_le_sub_zero parts (by simp)), held, parts]
    norm_num
  | infinity sign =>
    rw [parts] at whole
    cases sign with
    | positive =>
      simp only [nearestByte_full (congrArg UInt8.toNat whole), held, parts]
      norm_num
    | negative =>
      simp only [nearestByte_nothing whole (not_half_le_sub_zero parts (by simp)), held, parts]
      norm_num
  | zero sign =>
    rw [parts] at whole
    have little := not_half_le_sub_zero parts (by cases sign <;> simp)
    simp only [nearestByte_nothing whole little, held, parts]
    norm_num
  | finite sign mantissa exponent positive =>
    have stored : Stored mantissa exponent := .of_unpack parts
    cases sign with
    | negative => exact nearestByte_negative stored parts
    | positive =>
      obtain ⟨places, rfl | rfl⟩ := exponent.eq_nat_or_neg
      · exact nearestByte_large stored parts
      · exact nearestByte_fraction stored parts

theorem lt_iff (x y : Float32) :
    x < y ↔ UnpackedFloat.lt x.toModel.unpack y.toModel.unpack = true :=
  decide_eq_true_iff

theorem bound_parts :
    (255 : Float32).toModel.unpack = .finite .positive (255 * 2 ^ 16) (-16) (by decide) :=
  rfl

theorem held_of_lt_zero (below : x < 0) : held 0 255 x = 0 := by
  have zero : (0 : Float32).toModel.unpack = .zero .positive := rfl
  rw [lt_iff, zero] at below
  cases parts : x.toModel.unpack with
  | notANumber => simp only [held, parts]
  | infinity sign =>
    cases sign with
    | positive => simp [parts, UnpackedFloat.lt, UnpackedFloat.compare] at below
    | negative => simp only [held, parts]
  | zero sign => simp [parts, UnpackedFloat.lt, UnpackedFloat.compare] at below
  | finite sign mantissa exponent positive =>
    cases sign with
    | positive => simp [parts, UnpackedFloat.lt, UnpackedFloat.compare] at below
    | negative => exact held_negative parts

theorem le_of_bound_lt (stored : Stored mantissa exponent)
    (above : UnpackedFloat.lt (.finite .positive (255 * 2 ^ 16) (-16) (by decide))
      (.finite .positive mantissa exponent positive) = true) :
    (255 : ℚ) ≤ mantissa * 2 ^ exponent := by
  have full := stored.full
  simp only [UnpackedFloat.lt, UnpackedFloat.compare] at above
  rcases lt_trichotomy (-16) exponent with larger | same | smaller
  · have power : (2 : ℚ) ^ (-15 : ℤ) ≤ 2 ^ exponent :=
      zpow_le_zpow_right₀ (by norm_num) (by omega)
    have digits : (2 ^ 23 : ℚ) ≤ mantissa := by
      have : 2 ^ 23 ≤ mantissa := by omega
      exact_mod_cast this
    calc (255 : ℚ) ≤ 2 ^ 23 * 2 ^ (-15 : ℤ) := by norm_num
      _ ≤ mantissa * 2 ^ exponent := by gcongr
  · rw [Int.compare_eq_eq.mpr same] at above
    have larger : 255 * 2 ^ 16 < mantissa := by simpa [Nat.compare_eq_lt] using above
    have digits : (255 * 2 ^ 16 : ℚ) ≤ mantissa := by exact_mod_cast larger.le
    calc (255 : ℚ) = 255 * 2 ^ 16 * 2 ^ (-16 : ℤ) := by norm_num
      _ ≤ mantissa * 2 ^ exponent := by rw [← same]; gcongr
  · rw [Int.compare_eq_gt.mpr smaller] at above
    cases above

theorem held_of_lt (above : 255 < x) : held 0 255 x = 255 := by
  rw [lt_iff, bound_parts] at above
  cases parts : x.toModel.unpack with
  | notANumber => simp [parts, UnpackedFloat.lt, UnpackedFloat.compare] at above
  | infinity sign =>
    cases sign with
    | positive => simp only [held, parts]
    | negative => simp [parts, UnpackedFloat.lt, UnpackedFloat.compare] at above
  | zero sign => simp [parts, UnpackedFloat.lt, UnpackedFloat.compare] at above
  | finite sign mantissa exponent positive =>
    cases sign with
    | negative => simp [parts, UnpackedFloat.lt, UnpackedFloat.compare] at above
    | positive =>
      rw [parts] at above
      simp only [held, parts, Sign.apply, Int.cast_natCast,
        min_eq_left (le_of_bound_lt (.of_unpack parts) above)]
      norm_num

/-- A value kept between the bounds first is held there as well. -/
theorem held_clamp (x : Float32) : held 0 255 (clamp 0 255 x) = held 0 255 x := by
  unfold clamp
  split
  · rename_i below
    rw [held_of_lt_zero below]
    have zero : (0 : Float32).toModel.unpack = .zero .positive := rfl
    simp [held, zero]
  · split
    · rename_i above
      rw [held_of_lt above]
      simp only [held, bound_parts, Sign.apply]
      norm_num
    · rfl

end SpriteStage.Number
