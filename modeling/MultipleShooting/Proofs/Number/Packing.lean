/-
**Significand and exponent of a stored double.**

* `canonical_of_parts`: what is stored for a finite double other than zero is the significand and
  the exponent of the format, and the decimal writer reads the same pair from its bits;
* `unpack_pack_canonical`: such a pair is stored without loss.
-/
import MultipleShooting.Proofs.Number.Rounding
import MultipleShooting.Proofs.Number.Sign

namespace MultipleShooting

namespace Double

open Float.Model Float.Model.UnpackedFloat

variable {bits : BitVec Format.binary64.numBits} {value : Float}

/-! ### Fields of the bits -/

theorem toNat_unpackMantissa (bits : BitVec Format.binary64.numBits) :
    (unpackMantissa bits).toNat = bits.toNat % 0x10000000000000 := by
  rw [unpackMantissa, BitVec.toNat_cast, BitVec.extractLsb_toNat, Nat.shiftRight_zero]
  rfl

theorem toNat_unpackExponent (bits : BitVec Format.binary64.numBits) :
    (unpackExponent bits).toNat = bits.toNat / 0x10000000000000 % 2048 := by
  rw [unpackExponent, BitVec.toNat_cast, BitVec.extractLsb_toNat, Nat.shiftRight_eq_div_pow]
  rfl

/-- The mantissa of a normal double with its first binary digit, which is not stored. -/
theorem toNat_implicit (mantissa : BitVec 52) :
    (1#1 ++ mantissa).toNat = 0x10000000000000 + mantissa.toNat := by
  rw [BitVec.toNat_append, ← Nat.shiftLeft_add_eq_or_of_lt mantissa.isLt]
  rfl

/-- The decimal writer reads significand and exponent from the same fields. -/
theorem ofDouble_eq (value : Float) : Dyadic.ofDouble value =
    if (unpackExponent (bitsOf value)).toNat = 0 then
      ⟨(unpackMantissa (bitsOf value)).toNat, -1074⟩
    else ⟨0x10000000000000 + (unpackMantissa (bitsOf value)).toNat,
      (unpackExponent (bitsOf value)).toNat - 1075⟩ := by
  rw [toNat_unpackMantissa, toNat_unpackExponent]
  rfl

/-- **What is stored for a finite double** other than zero. -/
theorem canonical_of_parts {sign : Sign} {significand : ℕ} {exponent : ℤ}
    {positive : 0 < significand} (same : parts value = .finite sign significand exponent positive) :
    Dyadic.ofDouble value = ⟨significand, exponent⟩ ∧
      (⟨significand, exponent⟩ : Dyadic).IsCanonical := by
  have unpacked : UnpackedFloat.unpack Format.binary64 (bitsOf value) =
      .finite sign significand exponent positive := same
  have small : (unpackMantissa (bitsOf value)).toNat < 2 ^ 52 := BitVec.isLt _
  have range : (unpackExponent (bitsOf value)).toNat < 2 ^ 11 := BitVec.isLt _
  rw [ofDouble_eq]
  simp only [UnpackedFloat.unpack] at unpacked
  split_ifs at unpacked with last empty least zero
  · cases unpacked
    have zeroExponent : (unpackExponent (bitsOf value)).toNat = 0 := by rw [least]; rfl
    rw [if_pos zeroExponent, zeroExponent]
    refine ⟨rfl, ⟨positive, ?_, ?_, ?_, .inl rfl⟩⟩
    · exact small.trans (by decide)
    · exact le_of_eq rfl
    · show (-1074 : ℤ) ≤ 971
      decide
  · cases unpacked
    have nonzero : (unpackExponent (bitsOf value)).toNat ≠ 0 := by
      intro zeroExponent
      exact least (BitVec.eq_of_toNat_eq zeroExponent)
    have notLast : (unpackExponent (bitsOf value)).toNat ≠ 2047 := by
      intro full
      exact last (BitVec.eq_of_toNat_eq full)
    have implicit := toNat_implicit (unpackMantissa (bitsOf value))
    have bias : (Format.binary64.exponentBias : ℤ) + Format.binary64.mantissaBitsWithoutImplicit =
        1075 := rfl
    rw [if_neg nonzero, bias, implicit]
    refine ⟨rfl, ⟨?_, ?_, ?_, ?_, .inr ?_⟩⟩
    all_goals
      simp only
      omega

/-! ### Storing -/

/-- Fields that are stored are found again. -/
theorem unpack_packComponents (sign : Sign) (exponent : BitVec 11) (mantissa : BitVec 52)
    (notLast : exponent ≠ -1#11) :
    UnpackedFloat.unpack Format.binary64 (packComponents Format.binary64 sign exponent mantissa) =
      if exponent = 0#11 then
        if empty : mantissa = 0#52 then .zero sign
        else .finite sign mantissa.toNat (-1074)
          (by simpa [BitVec.toNat_pos, BitVec.pos_iff_ne_zero] using empty)
      else .finite sign (1#1 ++ mantissa).toNat (exponent.toNat - 1075)
        (by rw [toNat_implicit]; omega) := by
  simp only [UnpackedFloat.unpack, unpackMantissa_packComponents, unpackExponent_packComponents,
    unpackSign_packComponents, Sign.ofBitVec_toBitVec, if_neg notLast]
  split_ifs with least
  · rfl
  · subst least
    rfl
  · rfl

theorem toNat_ofNat_of_lt {width number : ℕ} (inside : number < 2 ^ width) :
    (BitVec.ofNat width number).toNat = number := by
  rw [BitVec.toNat_ofNat, Nat.mod_eq_of_lt inside]

/-- A field that is not all ones. -/
theorem ofNat_ne_last {number : ℕ} (inside : number < 2047) : BitVec.ofNat 11 number ≠ -1#11 := by
  intro same
  have value := congrArg BitVec.toNat same
  have last : (-1#11).toNat = 2047 := rfl
  rw [toNat_ofNat_of_lt (by omega)] at value
  omega

theorem ofNat_ne_zero {width number : ℕ} (positive : 0 < number) (inside : number < 2 ^ width) :
    BitVec.ofNat width number ≠ BitVec.ofNat width 0 := by
  intro same
  have value := congrArg BitVec.toNat same
  rw [toNat_ofNat_of_lt inside, BitVec.toNat_zero] at value
  omega

/-- **A significand and an exponent of the format** are stored without loss. -/
theorem unpack_pack_canonical {significand : ℕ} {exponent : ℤ}
    (canonical : (⟨significand, exponent⟩ : Dyadic).IsCanonical) (sign : Sign) :
    (Float.Model.pack (.finite sign significand exponent canonical.positive)).unpack =
      .finite sign significand exponent canonical.positive := by
  obtain ⟨positive, bounded, least, most, normal⟩ := canonical
  simp only at positive bounded least most normal
  have biased : exponent + Format.binary64.exponentBias +
      Format.binary64.mantissaBitsWithoutImplicit = exponent + 1075 := add_assoc _ _ _
  have inside : ¬ 2 ^ Format.binary64.exponentBits ≤ (exponent + 1075).toNat + 1 := by
    show ¬ 2048 ≤ _
    omega
  show UnpackedFloat.unpack Format.binary64 (UnpackedFloat.pack Format.binary64 _) = _
  simp only [UnpackedFloat.pack, biased, if_neg inside]
  by_cases full : 2 ^ 52 ≤ significand
  · have digits : significand.log2 + 1 = Format.binary64.mantissaBits := by
      have lower := (Nat.le_log2 positive.ne').mpr full
      have upper := (Nat.log2_lt positive.ne').mpr bounded
      show significand.log2 + 1 = 53
      omega
    have implicit : (1#1 ++ BitVec.ofNat 52 significand).toNat = significand := by
      rw [toNat_implicit, BitVec.toNat_ofNat]
      omega
    have field : ((BitVec.ofNat 11 (exponent + 1075).toNat).toNat : ℤ) - 1075 = exponent := by
      rw [toNat_ofNat_of_lt (by omega)]
      omega
    rw [if_pos digits]
    refine (unpack_packComponents sign _ _ (ofNat_ne_last (by omega))).trans ?_
    rw [if_neg (ofNat_ne_zero (by omega) (by omega))]
    congr
  · have digits : ¬ significand.log2 + 1 = Format.binary64.mantissaBits := by
      have upper := (Nat.log2_lt positive.ne').mpr (not_le.mp full)
      show ¬ significand.log2 + 1 = 53
      omega
    have field : (BitVec.ofNat 52 significand).toNat = significand :=
      toNat_ofNat_of_lt (not_le.mp full)
    have atLeast : -1074 = exponent := (normal.resolve_right full).symm
    rw [if_neg digits]
    refine (unpack_packComponents sign _ _ (by decide)).trans ?_
    rw [if_pos rfl, dif_neg (ofNat_ne_zero positive (not_le.mp full))]
    congr

end Double

end MultipleShooting
