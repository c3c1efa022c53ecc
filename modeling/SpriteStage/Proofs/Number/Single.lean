import Mathlib
import SpriteStage.Number.Basic

namespace SpriteStage.Number
open Float.Model UnpackedFloat

/-- Mantissa and exponent as they are stored: the mantissa has 24 bits, and fewer only at the least
exponent. -/
structure Stored (mantissa : Nat) (exponent : Int) : Prop where
  narrow : mantissa < 2 ^ 24
  least : -149 ≤ exponent
  most : exponent ≤ 104
  full : 2 ^ 23 ≤ mantissa ∨ exponent = -149

variable {x : Float32} {sign : Sign} {mantissa : Nat} {exponent : Int} {positive : 0 < mantissa}

theorem leadingBit_append (digits : BitVec 23) : (1#1 ++ digits).toNat = 2 ^ 23 + digits.toNat := by
  rw [BitVec.toNat_append, ← Nat.shiftLeft_add_eq_or_of_lt digits.isLt]
  rfl

theorem Stored.of_unpack {bits : BitVec 32}
    (parts : UnpackedFloat.unpack .binary32 bits = .finite sign mantissa exponent positive) :
    Stored mantissa exponent := by
  have digits : (@unpackMantissa .binary32 bits).toNat < 2 ^ 23 :=
    (@unpackMantissa .binary32 bits).isLt
  have power : (@unpackExponent .binary32 bits).toNat < 2 ^ 8 :=
    (@unpackExponent .binary32 bits).isLt
  have bias : (Format.exponentBias .binary32 : Int) = 127 := by decide
  unfold UnpackedFloat.unpack at parts
  simp only [bias] at parts
  split at parts
  · split at parts <;> cases parts
  · rename_i finite
    -- The largest exponent field is taken by the infinities and by what is not a number.
    have below : (@unpackExponent .binary32 bits).toNat ≠ 255 := by
      intro full
      exact finite (BitVec.eq_of_toNat_eq full)
    split at parts
    · split at parts
      · cases parts
      · rename_i subnormal _
        cases parts
        refine ⟨by omega, ?_, ?_, ?_⟩ <;> simp [subnormal]
    · rename_i normal
      have above : (@unpackExponent .binary32 bits).toNat ≠ 0 := by
        intro zero
        exact normal (BitVec.eq_of_toNat_eq zero)
      cases parts
      have value : (1#1 ++ @unpackMantissa .binary32 bits).toNat =
        2 ^ 23 + (@unpackMantissa .binary32 bits).toNat := leadingBit_append _
      refine ⟨by omega, ?_, ?_, .inl (by omega)⟩ <;> push_cast <;> omega

theorem pack_finite (stored : Stored mantissa exponent) :
    UnpackedFloat.pack .binary32 (.finite sign mantissa exponent positive) =
      if mantissa.log2 + 1 = 24 then packComponents .binary32 sign
        (BitVec.ofNat 8 (exponent + 150).toNat) (BitVec.ofNat 23 mantissa)
      else packComponents .binary32 sign 0#8 (BitVec.ofNat 23 mantissa) := by
  have most := stored.most
  have biased : exponent + (127 : Nat) + (23 : Nat) = exponent + 150 := by omega
  unfold UnpackedFloat.pack
  change (if 2 ^ 8 ≤ (exponent + (127 : Nat) + (23 : Nat)).toNat + 1 then _ else
    if mantissa.log2 + 1 = 24 then packComponents .binary32 sign
      (BitVec.ofNat 8 (exponent + (127 : Nat) + (23 : Nat)).toNat) (BitVec.ofNat 23 mantissa)
    else _) = _
  rw [biased, if_neg (by omega)]

/-- With its leading bit in place the mantissa loses that bit in storage and gets it back. -/
theorem unpack_normal (upper : mantissa < 2 ^ 24) (whole : 2 ^ 23 ≤ mantissa)
    (least : -149 ≤ exponent) (most : exponent ≤ 104) :
    UnpackedFloat.unpack .binary32 (packComponents .binary32 sign
      (BitVec.ofNat 8 (exponent + 150).toNat) (BitVec.ofNat 23 mantissa)) =
      .finite sign mantissa exponent positive := by
  have power : (BitVec.ofNat 8 (exponent + 150).toNat).toNat = (exponent + 150).toNat := by
    rw [BitVec.toNat_ofNat, Nat.mod_eq_of_lt (by omega)]
  have digits : (BitVec.ofNat 23 mantissa).toNat = mantissa - 2 ^ 23 := by
    rw [BitVec.toNat_ofNat, Nat.mod_eq_sub_mod whole, Nat.mod_eq_of_lt (by omega)]
  have notZero : BitVec.ofNat 8 (exponent + 150).toNat ≠ 0#8 := by
    intro same
    have := congrArg BitVec.toNat same
    rw [power] at this
    change _ = 0 at this
    omega
  have notLast : BitVec.ofNat 8 (exponent + 150).toNat ≠ -1#8 := by
    intro same
    have := congrArg BitVec.toNat same
    rw [power] at this
    change _ = 255 at this
    omega
  have bias : (Format.exponentBias .binary32 : Int) = 127 := by decide
  unfold UnpackedFloat.unpack
  simp only [unpackMantissa_packComponents, unpackExponent_packComponents,
    unpackSign_packComponents, Sign.ofBitVec_toBitVec, notZero, notLast, if_false, power]
  congr 1
  · rw [leadingBit_append, digits]
    omega
  · omega

theorem unpack_subnormal (short : mantissa < 2 ^ 23) :
    UnpackedFloat.unpack .binary32 (packComponents .binary32 sign 0#8 (BitVec.ofNat 23 mantissa)) =
      .finite sign mantissa (-149) positive := by
  have digits : (BitVec.ofNat 23 mantissa).toNat = mantissa := by
    rw [BitVec.toNat_ofNat, Nat.mod_eq_of_lt short]
  have notZero : BitVec.ofNat 23 mantissa ≠ 0#23 := by
    intro same
    have := congrArg BitVec.toNat same
    rw [digits] at this
    change _ = 0 at this
    omega
  have notLast : 0#8 ≠ -1#8 := by decide
  unfold UnpackedFloat.unpack
  simp only [unpackMantissa_packComponents, unpackExponent_packComponents,
    unpackSign_packComponents, Sign.ofBitVec_toBitVec, notZero, notLast, if_false, if_true,
    dite_false, digits]
  rfl

theorem unpack_pack (stored : Stored mantissa exponent) :
    UnpackedFloat.unpack .binary32 (UnpackedFloat.pack .binary32
      (.finite sign mantissa exponent positive)) = .finite sign mantissa exponent positive := by
  rw [pack_finite stored]
  obtain ⟨upper, least, most, full⟩ := stored
  split
  · rename_i log
    exact unpack_normal upper ((Nat.le_log2 positive.ne').mp (by omega)) least most
  · rename_i log
    have short : mantissa < 2 ^ 23 := by
      by_contra whole
      have := (Nat.le_log2 positive.ne').mpr (not_lt.mp whole)
      have := (Nat.log2_lt positive.ne').mpr upper
      omega
    obtain rfl : exponent = -149 := by omega
    exact unpack_subnormal short

theorem unpack_ofModel_pack (stored : Stored mantissa exponent) :
    (Float32.Model.pack (.finite sign mantissa exponent positive)).unpack =
      .finite sign mantissa exponent positive :=
  unpack_pack stored

theorem minExponent_eq : Format.minExponent .binary32 = -149 := by decide

theorem targetExponent_eq (total : Int) :
    Format.targetExponent .binary32 total = max (total - 24) (-149) := by
  rw [Format.targetExponent, minExponent_eq]
  rfl

theorem shiftRight_mantissa (extended : ExtendedMantissa) (places : Nat) :
    (extended >>> places).mantissa = extended.mantissa / 2 ^ places := by
  induction places with
  | zero => simp [HShiftRight.hShiftRight, Nat.repeat]
  | succ places ih =>
    change (extended >>> places).mantissa / 2 = _
    rw [ih, Nat.div_div_eq_div_mul, Nat.pow_succ]

theorem log2_mul_two_pow (positive : 0 < mantissa) (places : Nat) :
    (mantissa * 2 ^ places).log2 = mantissa.log2 + places := by
  have grown : 0 < mantissa * 2 ^ places := Nat.mul_pos positive (Nat.two_pow_pos places)
  obtain ⟨low, high⟩ := (Nat.log2_eq_iff positive.ne').mp rfl
  rw [Nat.log2_eq_iff grown.ne', Nat.add_right_comm, Nat.pow_add, Nat.pow_add]
  exact ⟨Nat.mul_le_mul_right _ low, Nat.mul_lt_mul_of_pos_right high (Nat.two_pow_pos places)⟩

theorem shiftToTargetExponent_exact
    (target : Format.targetExponent .binary32 (totalExponent mantissa exponent) = exponent) :
    shiftToTargetExponent .binary32 mantissa exponent .exact =
      (⟨mantissa, false, false⟩, exponent) := by
  have still : (exponent - exponent).toNat = 0 := by simp
  simp only [shiftToTargetExponent, shiftToExponent, target, still]
  exact Prod.ext rfl (Int.add_zero exponent)

theorem round_exact (sign : Sign) (positive : 0 < mantissa) {places : Nat}
    (full : mantissa.log2 + places = 23) (least : -149 ≤ exponent - places) :
    ∃ shifted, UnpackedFloat.round .binary32 sign mantissa exponent =
      .finite sign (mantissa * 2 ^ places) (exponent - places) shifted := by
  have grown : 0 < mantissa * 2 ^ places := Nat.mul_pos positive (Nat.two_pow_pos places)
  have target : Format.targetExponent .binary32 (totalExponent mantissa exponent) =
      exponent - places := by
    rw [targetExponent_eq, totalExponent]
    omega
  have again : Format.targetExponent .binary32
      (totalExponent (mantissa * 2 ^ places) (exponent - places)) = exponent - places := by
    rw [targetExponent_eq, totalExponent, log2_mul_two_pow positive]
    omega
  have shift : (exponent - (exponent - places)).toNat = places := by omega
  refine ⟨grown, ?_⟩
  simp only [UnpackedFloat.round, decreaseExponent, target, shift, Nat.shiftLeft_eq,
    roundWithAccuracy, shiftToTargetExponent_exact again]
  have rounded : (ExtendedMantissa.mk (mantissa * 2 ^ places) false false).roundedMantissa =
    mantissa * 2 ^ places := rfl
  simp only [rounded, shiftToTargetExponent_exact again, grown.ne', dite_false]

theorem Stored.of_log2 (log : mantissa.log2 = 23) (least : -149 ≤ exponent)
    (most : exponent ≤ 104) : Stored mantissa exponent := by
  have some : mantissa ≠ 0 := by
    rintro rfl
    cases log
  exact ⟨(Nat.log2_lt some).mp (by omega), least, most, .inl ((Nat.le_log2 some).mp log.ge)⟩

theorem normalize_exact (exponent : Int) (places : Nat) (positive : 0 < mantissa)
    (full : mantissa.log2 + places = 23) (least : -149 ≤ exponent - places)
    (most : exponent - places ≤ 104) (zeroSign : Sign) :
    ∃ shifted, (Float32.Model.pack
        (UnpackedFloat.normalize .binary32 mantissa exponent zeroSign)).unpack =
      .finite .positive (mantissa * 2 ^ places) (exponent - places) shifted := by
  obtain ⟨shifted, rounded⟩ := round_exact .positive positive full least
  have greater : compare (mantissa : Int) 0 = .gt := Int.compare_eq_gt.mpr (by omega)
  have log : (mantissa * 2 ^ places).log2 = 23 := (log2_mul_two_pow positive places).trans full
  have stored : Stored (mantissa * 2 ^ places) (exponent - places) := .of_log2 log least most
  refine ⟨shifted, ?_⟩
  rw [UnpackedFloat.normalize, greater]
  exact (congrArg (fun parts => (Float32.Model.pack parts).unpack) rounded).trans
    (unpack_ofModel_pack stored)

end SpriteStage.Number
