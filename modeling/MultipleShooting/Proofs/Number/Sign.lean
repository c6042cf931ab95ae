/-
**The sign of a double.**

The negative of a number has the same exponent and mantissa and the other sign
(`Double.bitsOf_neg`), so a double with the minus sign that is the negative of a number has that
number as its magnitude (`Double.abs_neg`).
-/
import MultipleShooting.Decimal.Layout
import MultipleShooting.Proofs.Number.Double

namespace MultipleShooting

namespace Double

open Float.Model Float.Model.UnpackedFloat

variable {bits : BitVec Format.binary64.numBits} {value : Float}

/-! ### Bits -/

/-- The bits of a double: its sign, its exponent and its mantissa. -/
def bitsOf (value : Float) : BitVec Format.binary64.numBits := value.toBits.toBitVec

/-- The bits with the other sign. -/
def negatedBits (bits : BitVec Format.binary64.numBits) : BitVec Format.binary64.numBits :=
  packComponents Format.binary64 (-(Sign.ofBitVec (unpackSign bits))) (unpackExponent bits)
    (unpackMantissa bits)

/-- A negative has the other sign, the same exponent and the same mantissa. -/
theorem neg_unpack (bits : BitVec Format.binary64.numBits) :
    (UnpackedFloat.unpack Format.binary64 bits).neg =
      UnpackedFloat.unpack Format.binary64 (negatedBits bits) := by
  simp only [UnpackedFloat.unpack, negatedBits, unpackExponent_packComponents,
    unpackMantissa_packComponents, unpackSign_packComponents, Sign.ofBitVec_toBitVec]
  split_ifs <;> rfl

/-- The bits of a number stay those of a number under the other sign. -/
theorem valid_negatedBits (number : UnpackedFloat.unpack Format.binary64 bits ≠ .notANumber) :
    Format.binary64.Valid (negatedBits bits) := by
  refine ⟨fun last nonzero => absurd ?_ number⟩
  rw [negatedBits, unpackExponent_packComponents] at last
  rw [negatedBits, unpackMantissa_packComponents] at nonzero
  simp only [UnpackedFloat.unpack, last, nonzero, if_true, if_false]

/-- The sign is the first bit. -/
theorem toNat_unpackSign (bits : BitVec Format.binary64.numBits) :
    (unpackSign bits).toNat = bits.toNat / 0x8000000000000000 := by
  have small : bits.toNat < 2 ^ 64 := bits.isLt
  rw [unpackSign, BitVec.toNat_cast, BitVec.extractLsb_toNat, Nat.shiftRight_eq_div_pow]
  show bits.toNat / 2 ^ 63 % 2 = _
  omega

/-- A number without the minus sign is its own magnitude. -/
theorem abs_unpack (positive : Sign.ofBitVec (unpackSign bits) = .positive) :
    (UnpackedFloat.unpack Format.binary64 bits).abs =
      UnpackedFloat.unpack Format.binary64 bits := by
  simp only [UnpackedFloat.unpack, positive]
  split_ifs <;> rfl

/-- The magnitude of a number with the minus sign is its negative. -/
theorem abs_unpack_of_negative (negative : Sign.ofBitVec (unpackSign bits) = .negative) :
    (UnpackedFloat.unpack Format.binary64 bits).abs =
      (UnpackedFloat.unpack Format.binary64 bits).neg := by
  simp only [UnpackedFloat.unpack, negative]
  split_ifs <;> rfl

/-! ### Doubles -/

/-- A double is what its parts are stored as. -/
theorem ofModel_pack_parts (value : Float) :
    Float.ofModel (Float.Model.pack (parts value)) = value := by
  obtain ⟨⟨⟨bits⟩, valid⟩⟩ := value
  have same : UnpackedFloat.pack Format.binary64 (UnpackedFloat.unpack Format.binary64 bits) =
      bits := pack_unpack_of_valid valid
  simp only [parts, Float.Model.pack, Float.Model.unpack, same]

/-- The negative of a number has its bits with the other sign. -/
theorem bitsOf_neg (number : parts value ≠ .notANumber) :
    bitsOf (-value) = negatedBits (bitsOf value) := by
  show UnpackedFloat.pack Format.binary64
    (UnpackedFloat.unpack Format.binary64 (bitsOf value)).neg = _
  rw [neg_unpack]
  exact pack_unpack_of_valid (valid_negatedBits number)

/-- The negative of a number has its parts with the other sign. -/
theorem parts_neg (number : parts value ≠ .notANumber) : parts (-value) = (parts value).neg := by
  show UnpackedFloat.unpack Format.binary64 (bitsOf (-value)) = _
  rw [bitsOf_neg number, ← neg_unpack]
  rfl

/-- The magnitude of a number is stored without loss. -/
theorem parts_abs (number : parts value ≠ .notANumber) :
    parts (Number.abs value) = (parts value).abs := by
  show parts (Float.ofModel (Float.Model.pack (parts value).abs)) = _
  cases sign : Sign.ofBitVec (unpackSign (bitsOf value)) with
  | positive =>
    have same : (parts value).abs = parts value := abs_unpack sign
    rw [same, ofModel_pack_parts]
  | negative =>
    have same : (parts value).abs = (parts value).neg := abs_unpack_of_negative sign
    rw [same]
    exact parts_neg number

/-- **The magnitude of a negative**: a double with the minus sign that is the negative of a number
has that number as its magnitude. -/
theorem abs_neg (number : parts value ≠ .notANumber) (minus : Decimal.isNegative (-value) = true) :
    Number.abs (-value) = value := by
  have positive : Sign.ofBitVec (unpackSign (bitsOf value)) = .positive := by
    -- the first bit of the negative is set, so that of the number is not
    have first : (bitsOf (-value)).toNat / 0x8000000000000000 = 1 := of_decide_eq_true minus
    rw [bitsOf_neg number, ← toNat_unpackSign, negatedBits, unpackSign_packComponents] at first
    cases sign : Sign.ofBitVec (unpackSign (bitsOf value)) with
    | positive => rfl
    | negative =>
      rw [sign] at first
      cases first
  have magnitude : (parts (-value)).abs = parts value := by
    calc (parts (-value)).abs
        = (parts value).neg.abs := by rw [parts_neg number]
      _ = (parts value).abs := by cases parts value <;> rfl
      _ = parts value := abs_unpack positive
  show Float.ofModel (Float.Model.pack (parts (-value)).abs) = value
  rw [magnitude, ofModel_pack_parts]

/-- No NaN has an ordinary number as its negative. -/
theorem ne_notANumber_of_isFinite_neg (finite : Number.isFinite (-value) = true) :
    parts value ≠ .notANumber := by
  intro undefined
  have negative : (parts value).neg.isFinite = true := isFinite_of_pack finite
  rw [undefined] at negative
  cases negative

end Double

end MultipleShooting
