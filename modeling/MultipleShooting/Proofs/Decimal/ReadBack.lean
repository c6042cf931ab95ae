/-
**The text of a double reads back as the double.**

A finite double is its magnitude under its sign (`Double.signed_abs`). The text of the magnitude is
a numeral that reads as it (`Decimal.numeral_magnitude`), so the text of the double reads as the
double (`Decimal.readDouble?_write`), the sign of a zero included.
-/
import MultipleShooting.Proofs.Decimal.Plain
import MultipleShooting.Proofs.Decimal.Shortest

namespace MultipleShooting

open Float.Model Float.Model.UnpackedFloat

variable {value : Float}

/-! ### Signs and magnitudes -/

namespace Double

theorem isNegative_iff (value : Float) : Decimal.isNegative value = true ↔
    Sign.ofBitVec (unpackSign (bitsOf value)) = .negative := by
  have first := toNat_unpackSign (bitsOf value)
  have bit : unpackSign (bitsOf value) = 0#1 ∨ unpackSign (bitsOf value) = 1#1 :=
    BitVec.eq_zero_or_eq_one _
  have same : Decimal.isNegative value = true ↔
      (bitsOf value).toNat / 0x8000000000000000 = 1 := decide_eq_true_iff
  rw [same, ← first]
  rcases bit with clear | set
  · rw [clear]
    exact iff_of_false (by decide) Sign.noConfusion
  · rw [set]
    exact iff_of_true rfl rfl

/-- **A finite double is its magnitude under its sign.** -/
theorem signed_abs (number : parts value ≠ .notANumber) :
    (if Decimal.isNegative value then -(Number.abs value) else Number.abs value) = value := by
  split_ifs with negative
  · have opposite : (parts value).abs = (parts value).neg :=
      abs_unpack_of_negative ((isNegative_iff value).mp negative)
    have twice : (parts value).neg.neg = parts value := by
      cases parts value with
      | notANumber => rfl
      | infinity sign => cases sign <;> rfl
      | zero sign => cases sign <;> rfl
      | finite sign significand exponent positive => cases sign <;> rfl
    show Float.ofModel (Float.Model.pack (parts (Number.abs value)).neg) = value
    rw [parts_abs number, opposite, twice, ofModel_pack_parts]
  · have positive : Sign.ofBitVec (unpackSign (bitsOf value)) = .positive := by
      cases sign : Sign.ofBitVec (unpackSign (bitsOf value)) with
      | positive => rfl
      | negative => exact absurd ((isNegative_iff value).mpr sign) negative
    have whole : (parts value).abs = parts value := abs_unpack positive
    show Float.ofModel (Float.Model.pack (parts value).abs) = value
    rw [whole, ofModel_pack_parts]

/-- Zero is stored with no significand. -/
theorem significand_of_zero {sign : Sign} (same : parts value = .zero sign) :
    (Dyadic.ofDouble value).significand = 0 := by
  have unpacked : UnpackedFloat.unpack Format.binary64 (bitsOf value) = .zero sign := same
  rw [ofDouble_eq]
  simp only [UnpackedFloat.unpack] at unpacked
  split_ifs at unpacked with last empty least zero
  have zeroExponent : (unpackExponent (bitsOf value)).toNat = 0 := by rw [least]; rfl
  have mantissa : (unpackMantissa (bitsOf value)).toNat = 0 := by rw [zero]; rfl
  rw [if_pos zeroExponent, mantissa]

end Double

/-! ### Texts -/

namespace Decimal

open Grammar

/-- A decimal without a coefficient is zero. -/
theorem toDouble_of_number_eq_zero {decimal : Decimal} (zero : decimal.number = 0) :
    decimal.toDouble = 0.0 := by
  have power : (10 : ℚ) ^ decimal.exponent ≠ 0 := zpow_ne_zero _ (by norm_num)
  have coefficient : decimal.coefficient = 0 :=
    Nat.cast_eq_zero.mp ((mul_eq_zero.mp zero).resolve_right power)
  rw [toDouble, if_pos coefficient]

/-- **The text of the magnitude** of a finite double is a numeral that reads as the magnitude. -/
theorem numeral_magnitude (finite : Number.isFinite value = true) :
    ∃ decimal, Numeral (magnitudeText value) decimal ∧
      decimal.toDouble = Number.abs value := by
  obtain ⟨decimal, written, same⟩ := numeral_positional (Dyadic.ofDouble value).shortest
  refine ⟨decimal, written, ?_⟩
  obtain ⟨defined, bounded⟩ := Double.unpacked_isFinite_iff.mp finite
  cases stored : Double.parts value with
  | notANumber => exact absurd stored defined
  | infinity sign => exact absurd stored (bounded sign)
  | zero sign =>
    have shortest : (Dyadic.ofDouble value).shortest = ⟨0, 0⟩ :=
      if_pos (Double.significand_of_zero stored)
    have zero : decimal.number = 0 := by
      rw [same, shortest, number, Nat.cast_zero, zero_mul]
    have magnitude : Number.abs value = 0.0 := by
      show Float.ofModel (Float.Model.pack (Double.parts value).abs) = 0.0
      rw [stored]
      rfl
    rw [toDouble_of_number_eq_zero zero, magnitude]
  | finite sign significand exponent positive =>
    obtain ⟨dyadic, canonical⟩ := Double.canonical_of_parts stored
    have parts : Double.parts (Number.abs value) =
        .finite .positive significand exponent canonical.positive := by
      rw [Double.parts_abs defined, stored]
      rfl
    refine toDouble_eq canonical parts ?_
    rw [same, dyadic]
    exact Dyadic.shortest_reads canonical

/-- **The text of a finite double reads back as it.** -/
theorem readDouble?_write (finite : Number.isFinite value = true) :
    readDouble? (DecimalText.write value) = some value := by
  obtain ⟨decimal, written, magnitude⟩ := numeral_magnitude finite
  obtain ⟨unsigned, minus⟩ := readDouble?_eq_some written
  have whole := Double.signed_abs (Double.unpacked_isFinite_iff.mp finite).1
  rw [write_eq finite]
  split_ifs at whole ⊢ with negative
  · rw [minus, magnitude, whole]
  · rw [unsigned, magnitude, whole]

end Decimal

end MultipleShooting
