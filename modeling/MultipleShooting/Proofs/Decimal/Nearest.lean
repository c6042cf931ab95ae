/-
**Decimals read as the nearest double.**

A decimal is multiplied or divided by its power of ten in one rounding, be it with two exact doubles
or with natural numbers of any size.

* `mul_eq`, `div_eq`: a product or a quotient that is nearest to a double is rounded to it;
* `parts_toFloat`, `parts_power`: small natural numbers and small powers of ten are exact doubles;
* `Decimal.toDouble_eq`: **a decimal that is nearest to a double reads as it**.
-/
import MultipleShooting.Decimal.Reading
import MultipleShooting.Proofs.Number.Packing

namespace MultipleShooting

namespace Double

open Float.Model Float.Model.UnpackedFloat

variable {value : Dyadic}

/-- A power with an integer exponent as a quotient of natural powers, one of which is one. -/
theorem zpow_eq_div {base : ℚ} (nonzero : base ≠ 0) (exponent : ℤ) :
    base ^ exponent = base ^ exponent.toNat / base ^ (-exponent).toNat := by
  rw [← zpow_natCast, ← zpow_natCast, ← zpow_sub₀ nonzero, Int.toNat_sub_toNat_neg]

/-! ### Products and quotients -/

section Operations

variable {first second : ℕ} {firstExponent secondExponent : ℤ} {firstPositive : 0 < first}
  {secondPositive : 0 < second}

/-- **A product that is nearest to a double** is rounded to it. -/
theorem mul_eq (canonical : value.IsCanonical)
    (reads : value.Reads (first * 2 ^ firstExponent * (second * 2 ^ secondExponent)))
    (full : 2 ^ 52 ≤ first * second) :
    UnpackedFloat.mul Format.binary64 (.finite .positive first firstExponent firstPositive)
        (.finite .positive second secondExponent secondPositive) =
      .finite .positive value.significand value.exponent canonical.positive := by
  refine roundWithAccuracy_eq canonical reads ?_ (.inl full) _
  have product : (first * 2 ^ firstExponent * (second * 2 ^ secondExponent) : ℚ) /
      2 ^ (firstExponent + secondExponent) = ((first * second : ℕ) : ℚ) := by
    rw [zpow_add₀ two_ne_zero]
    push_cast
    field_simp
  rw [product]
  exact represents_exact _

/-- A natural number with a fraction, as what the fraction says about half a place. -/
theorem represents_fraction {remainder divisor : ℕ} (inside : remainder < divisor)
    (quotient : ℕ) :
    Represents (.ofMantissaAndAccuracy quotient (accuracyOfFraction remainder divisor))
      (quotient + remainder / divisor) := by
  have positive : (0 : ℚ) < divisor := Nat.cast_pos.mpr (Nat.zero_lt_of_lt inside)
  have below : (remainder : ℚ) / divisor < 1 := by
    rw [div_lt_one positive]
    exact_mod_cast inside
  unfold accuracyOfFraction
  split_ifs with exact
  · rw [exact, Nat.cast_zero, zero_div, add_zero]
    exact represents_exact quotient
  · have inexact : (0 : ℚ) < remainder / divisor :=
      div_pos (Nat.cast_pos.mpr (Nat.pos_of_ne_zero exact)) positive
    cases compared : compare (2 * remainder) divisor with
    | lt =>
      have half : (2 * remainder : ℚ) < divisor := by
        exact_mod_cast compare_lt_iff_lt.mp compared
      have less : (remainder : ℚ) / divisor < 1 / 2 := by
        rw [div_lt_iff₀ positive]
        linarith
      simp only [Represents, ExtendedMantissa.ofMantissaAndAccuracy, if_true, if_false,
        Bool.false_eq_true]
      constructor <;> linarith
    | eq =>
      have half : (2 * remainder : ℚ) = divisor := by
        exact_mod_cast compare_eq_iff_eq.mp compared
      have equal : (remainder : ℚ) / divisor = 1 / 2 := by
        rw [div_eq_iff positive.ne']
        linarith
      simp only [Represents, ExtendedMantissa.ofMantissaAndAccuracy, if_true, if_false,
        Bool.false_eq_true, equal]
    | gt =>
      have half : (divisor : ℚ) < 2 * remainder := by
        exact_mod_cast compare_gt_iff_gt.mp compared
      have more : 1 / 2 < (remainder : ℚ) / divisor := by
        rw [lt_div_iff₀ positive]
        linarith
      simp only [Represents, ExtendedMantissa.ofMantissaAndAccuracy, if_true]
      constructor <;> linarith

/-- A quotient of natural numbers with what its remainder says about it. -/
theorem represents_quotient (dividend : ℕ) {divisor : ℕ} (positive : 0 < divisor) :
    Represents (.ofMantissaAndAccuracy (dividend / divisor)
      (accuracyOfFraction (dividend % divisor) divisor)) (dividend / divisor) := by
  have nonzero : (divisor : ℚ) ≠ 0 := Nat.cast_ne_zero.mpr positive.ne'
  have parts : (dividend : ℚ) = divisor * (dividend / divisor : ℕ) + (dividend % divisor : ℕ) := by
    exact_mod_cast (Nat.div_add_mod dividend divisor).symm
  have whole : (dividend : ℚ) / divisor =
      (dividend / divisor : ℕ) + (dividend % divisor : ℕ) / (divisor : ℚ) := by
    rw [div_eq_iff nonzero, add_mul, div_mul_cancel₀ _ nonzero, mul_comm (_ : ℚ) (divisor : ℚ)]
    exact parts
  rw [whole]
  exact represents_fraction (Nat.mod_lt dividend positive) _

/-- The exponent of a quotient is low enough for all digits of the format. -/
theorem isFine_quotient {target : ℤ} {places : ℕ} (firstPositive : 0 < first)
    (secondPositive : 0 < second) (apart : target + places = firstExponent - secondExponent)
    (low : target ≤ max (totalExponent first firstExponent -
      totalExponent second secondExponent - 53) (-1074)) :
    IsFine (first * 2 ^ places / second) target := by
  rcases le_max_iff.mp low with normal | least
  · refine .inl ((Nat.le_div_iff_mul_le secondPositive).mpr ?_)
    have enough : 53 + second.log2 ≤ first.log2 + places := by
      unfold totalExponent at normal
      omega
    calc 2 ^ 52 * second
        ≤ 2 ^ 52 * 2 ^ (second.log2 + 1) := Nat.mul_le_mul_left _ Nat.lt_log2_self.le
      _ = 2 ^ (53 + second.log2) := by rw [← pow_add]; congr 1; omega
      _ ≤ 2 ^ (first.log2 + places) := Nat.pow_le_pow_right two_pos enough
      _ = 2 ^ first.log2 * 2 ^ places := pow_add _ _ _
      _ ≤ first * 2 ^ places := Nat.mul_le_mul_right _ (Nat.log2_self_le firstPositive.ne')
  · exact .inr least

/-- **A quotient that is nearest to a double** is rounded to it. -/
theorem div_eq (canonical : value.IsCanonical)
    (reads : value.Reads (first * 2 ^ firstExponent / (second * 2 ^ secondExponent))) :
    UnpackedFloat.div Format.binary64 (.finite .positive first firstExponent firstPositive)
        (.finite .positive second secondExponent secondPositive) =
      .finite .positive value.significand value.exponent canonical.positive := by
  obtain ⟨target, chosen⟩ : ∃ target, min (firstExponent - secondExponent)
    (Format.binary64.targetExponent
      (totalExponent first firstExponent - totalExponent second secondExponent)) = target :=
    ⟨_, rfl⟩
  obtain ⟨places, apart⟩ := Int.le.dest (chosen ▸ min_le_left _ _)
  have shift : (firstExponent - secondExponent - target).toNat = places := by omega
  have core : divCore Format.binary64 first firstExponent second secondExponent =
      (first * 2 ^ places / second, target,
        accuracyOfFraction (first * 2 ^ places % second) second) := by
    simp only [divCore, chosen, shift, Nat.shiftLeft_eq]
  have quotient : (first * 2 ^ firstExponent / (second * 2 ^ secondExponent) : ℚ) / 2 ^ target =
      ((first * 2 ^ places : ℕ) : ℚ) / second := by
    have exponents : firstExponent = target + places + secondExponent := by omega
    rw [exponents, zpow_add₀ two_ne_zero, zpow_add_places]
    push_cast
    field_simp
  have low := chosen ▸ min_le_right _ _
  simp only [UnpackedFloat.div, core]
  refine roundWithAccuracy_eq canonical reads ?_
    (isFine_quotient firstPositive secondPositive apart low) _
  rw [quotient]
  exact represents_quotient _ secondPositive

end Operations

/-! ### Exact doubles -/

/-- A double is nearest to itself. -/
theorem reads_number (value : Dyadic) : value.Reads value.number := by
  have units : value.number / 2 ^ value.exponent = value.significand :=
    mul_div_cancel_right₀ _ (zpow_ne_zero _ two_ne_zero)
  have gap : 0 < value.gap := by
    unfold Dyadic.gap
    split_ifs <;> norm_num
  refine ⟨?_, ?_, ?_⟩
  · rw [units]
    linarith
  · rw [units]
    linarith
  · rw [units]
    rintro (low | high) <;> linarith

/-- A natural number below two to the 53, with all digits of the format. -/
theorem exists_canonical {number : ℕ} (positive : 0 < number) (small : number < 2 ^ 53) :
    ∃ places ≤ 52, 2 ^ 52 ≤ number * 2 ^ places ∧ number * 2 ^ places < 2 ^ 53 ∧
      number.log2 + places = 52 := by
  have digits : number.log2 < 53 := (Nat.log2_lt positive.ne').mpr small
  refine ⟨52 - number.log2, Nat.sub_le _ _, ?_, ?_, by omega⟩
  · calc 2 ^ 52 = 2 ^ number.log2 * 2 ^ (52 - number.log2) := by rw [← pow_add]; congr 1; omega
      _ ≤ _ := Nat.mul_le_mul_right _ (Nat.log2_self_le positive.ne')
  · calc number * 2 ^ (52 - number.log2)
        < 2 ^ (number.log2 + 1) * 2 ^ (52 - number.log2) :=
          Nat.mul_lt_mul_of_pos_right Nat.lt_log2_self (Nat.two_pow_pos _)
      _ = 2 ^ 53 := by rw [← pow_add]; congr 1; omega

/-- **A small natural number** is an exact double. -/
theorem parts_toFloat {number : ℕ} (positive : 0 < number) (small : number < 2 ^ 53) :
    ∃ significand exponent, ∃ nonzero : 0 < significand,
      parts number.toUInt64.toFloat = .finite .positive significand exponent nonzero ∧
      2 ^ 52 ≤ significand ∧ (significand : ℚ) * 2 ^ exponent = number := by
  obtain ⟨places, few, full, bounded, digits⟩ := exists_canonical positive small
  have canonical : (⟨number * 2 ^ places, -places⟩ : Dyadic).IsCanonical :=
    ⟨by positivity, bounded, by simp only; omega, by simp only; omega, .inr full⟩
  have same : (⟨number * 2 ^ places, -places⟩ : Dyadic).number = number := by
    simp only [Dyadic.number]
    push_cast
    rw [zpow_neg, zpow_natCast, mul_assoc, mul_inv_cancel₀ (pow_ne_zero _ two_ne_zero), mul_one]
  refine ⟨_, _, canonical.positive, ?_, full, same⟩
  have natural : number.toUInt64.toNat = number := by
    rw [UInt64.toNat_ofNat']
    omega
  have target : Format.binary64.targetExponent (totalExponent number 0) = -places := by
    rw [targetExponent_eq, totalExponent]
    omega
  have unpacked : UnpackedFloat.ofUInt64 Format.binary64 number.toUInt64 =
      .finite .positive (number * 2 ^ places) (-places) canonical.positive := by
    have above : compare (number : ℤ) 0 = .gt := compare_gt_iff_gt.mpr (by exact_mod_cast positive)
    have shift : ((0 : ℤ) - -places).toNat = places := by omega
    have lowered : (0 : ℤ) - places = -places := zero_sub _
    simp only [UnpackedFloat.ofUInt64, UnpackedFloat.ofNat, UnpackedFloat.ofInt,
      UnpackedFloat.normalize, natural, above, UnpackedFloat.round, Int.toNat_natCast, target,
      decreaseExponent, shift, lowered, Nat.shiftLeft_eq]
    refine roundWithAccuracy_eq canonical (reads_number _) ?_ (.inl full) _
    rw [Dyadic.number, mul_div_cancel_right₀ _ (zpow_ne_zero _ two_ne_zero)]
    exact represents_exact _
  show (Float.Model.pack (UnpackedFloat.ofUInt64 Format.binary64 number.toUInt64)).unpack = _
  rw [unpacked]
  exact unpack_pack_canonical canonical .positive

/-- Whether a double is a power of ten with all digits of the format. -/
def isPowerOfTen (value : Float) (power : ℕ) : Bool :=
  match parts value with
  | .finite .positive significand exponent _ =>
    2 ^ 52 ≤ significand &&
      significand * 2 ^ exponent.toNat == 10 ^ power * 2 ^ (-exponent).toNat
  | _ => false

theorem isPowerOfTen_table : ∀ power : Fin Float.exactlyRepresentablePowersOfTen.size,
    isPowerOfTen Float.exactlyRepresentablePowersOfTen[power] power = true := by
  decide +kernel

/-- **A small power of ten** is an exact double. -/
theorem parts_power {power : ℕ} (small : power < Float.exactlyRepresentablePowersOfTen.size) :
    ∃ significand exponent, ∃ nonzero : 0 < significand,
      parts Float.exactlyRepresentablePowersOfTen[power] =
        .finite .positive significand exponent nonzero ∧
      2 ^ 52 ≤ significand ∧ (significand : ℚ) * 2 ^ exponent = 10 ^ power := by
  have here : isPowerOfTen Float.exactlyRepresentablePowersOfTen[power] power = true :=
    isPowerOfTen_table ⟨power, small⟩
  unfold isPowerOfTen at here
  split at here
  · next significand exponent positive same =>
    rw [Bool.and_eq_true, decide_eq_true_eq, beq_iff_eq] at here
    refine ⟨_, _, positive, same, here.1, ?_⟩
    have scaled : (significand : ℚ) * 2 ^ exponent.toNat = 10 ^ power * 2 ^ (-exponent).toNat := by
      exact_mod_cast here.2
    rw [zpow_eq_div two_ne_zero, ← mul_div_assoc, scaled,
      mul_div_cancel_right₀ _ (pow_ne_zero _ two_ne_zero)]
  · cases here

/-! ### Powers of ten -/

section Scientific

variable {double : Float} {coefficient power : ℕ}

/-- A double with known parts is what they are stored as. -/
theorem ofModel_pack_eq (canonical : value.IsCanonical)
    (same : parts double = .finite .positive value.significand value.exponent canonical.positive) :
    Float.ofModel (Float.Model.pack
      (.finite .positive value.significand value.exponent canonical.positive)) = double := by
  rw [← same]
  exact ofModel_pack_parts double

/-- A multiple of a power of ten is the rounded product of natural numbers. -/
theorem unpacked_mul (canonical : value.IsCanonical) (positive : 0 < coefficient)
    (small : power ≤ 2048) (reads : value.Reads (coefficient * 10 ^ power)) :
    UnpackedFloat.ofScientific Format.binary64 coefficient (Int.ofNat power) =
      .finite .positive value.significand value.exponent canonical.positive := by
  have within : ¬ Int.ofNat power > 2 ^ Format.binary64.exponentBits := by
    show ¬ (power : ℤ) > 2048
    omega
  have notTiny : ¬ Int.ofNat power <
      -((2 ^ Format.binary64.exponentBits : ℤ) + coefficient.log2) := by
    show ¬ (power : ℤ) < -(2048 + coefficient.log2)
    omega
  have shifted : coefficient <<< Format.binary64.mantissaBits = coefficient * 2 ^ 53 :=
    Nat.shiftLeft_eq _ _
  have places : (2 : ℚ) ^ (-(Format.binary64.mantissaBits : ℤ)) = (2 ^ 53)⁻¹ := rfl
  have whole : 0 ≤ Int.ofNat power := Int.natCast_nonneg power
  have back : (Int.ofNat power).toNat = power := Int.toNat_natCast power
  rw [UnpackedFloat.ofScientific, dif_neg positive.ne', if_neg within, if_neg notTiny,
    if_pos whole]
  refine mul_eq canonical ?_ ?_
  · rw [shifted, places, back, zpow_zero, mul_one, Nat.cast_mul, Nat.cast_pow, Nat.cast_pow,
      Nat.cast_ofNat, Nat.cast_ofNat, mul_assoc (coefficient : ℚ),
      mul_inv_cancel₀ (pow_ne_zero _ two_ne_zero), mul_one]
    exact reads
  · rw [shifted]
    calc 2 ^ 52 ≤ coefficient * 2 ^ 53 := by omega
      _ ≤ _ := Nat.le_mul_of_pos_right _ (Nat.pow_pos (by decide))

/-- A quotient by a power of ten is the rounded quotient of natural numbers. -/
theorem unpacked_div (canonical : value.IsCanonical) (positive : 0 < coefficient)
    (divided : 0 < power) (small : power ≤ 2048 + coefficient.log2)
    (reads : value.Reads (coefficient / 10 ^ power)) :
    UnpackedFloat.ofScientific Format.binary64 coefficient (-(power : ℤ)) =
      .finite .positive value.significand value.exponent canonical.positive := by
  have within : ¬ -(power : ℤ) > 2 ^ Format.binary64.exponentBits := by
    show ¬ -(power : ℤ) > 2048
    omega
  have notTiny : ¬ -(power : ℤ) <
      -((2 ^ Format.binary64.exponentBits : ℤ) + coefficient.log2) := by
    show ¬ -(power : ℤ) < -(2048 + coefficient.log2)
    omega
  have negative : ¬ 0 ≤ -(power : ℤ) := by omega
  have back : (- -(power : ℤ)).toNat = power := by omega
  rw [UnpackedFloat.ofScientific, dif_neg positive.ne', if_neg within, if_neg notTiny,
    if_neg negative]
  refine div_eq canonical ?_
  rw [back, zpow_zero, mul_one, mul_one, Nat.cast_pow, Nat.cast_ofNat]
  exact reads

/-- **A multiple of a power of ten** that is nearest to a double reads as it. -/
theorem ofScientific_mul (canonical : value.IsCanonical)
    (same : parts double = .finite .positive value.significand value.exponent canonical.positive)
    (positive : 0 < coefficient) (small : power ≤ 2048)
    (reads : value.Reads (coefficient * 10 ^ power)) :
    Float.ofScientific coefficient false power = double := by
  rw [← ofModel_pack_eq canonical same]
  unfold Float.ofScientific
  by_cases exact : coefficient < 2 ^ 53 ∧ power ≤ 22
  · have listed : power < Float.exactlyRepresentablePowersOfTen.size := Nat.lt_succ_of_le exact.2
    obtain ⟨first, firstExponent, _, firstParts, firstFull, firstNumber⟩ :=
      parts_toFloat positive exact.1
    obtain ⟨second, secondExponent, _, secondParts, secondFull, secondNumber⟩ := parts_power listed
    rw [dif_pos exact]
    show Float.ofModel (Float.Model.pack (UnpackedFloat.mul Format.binary64
      (parts coefficient.toUInt64.toFloat)
      (parts Float.exactlyRepresentablePowersOfTen[power]))) = _
    rw [firstParts, secondParts, mul_eq canonical]
    · rwa [firstNumber, secondNumber]
    · exact firstFull.trans (Nat.le_mul_of_pos_right _ (by omega))
  · rw [dif_neg exact]
    exact congrArg (fun unpacked => Float.ofModel (Float.Model.pack unpacked))
      (unpacked_mul canonical positive small reads)

/-- **A quotient by a power of ten** that is nearest to a double reads as it. -/
theorem ofScientific_div (canonical : value.IsCanonical)
    (same : parts double = .finite .positive value.significand value.exponent canonical.positive)
    (positive : 0 < coefficient) (divided : 0 < power) (small : power ≤ 2048 + coefficient.log2)
    (reads : value.Reads (coefficient / 10 ^ power)) :
    Float.ofScientific coefficient true power = double := by
  rw [← ofModel_pack_eq canonical same]
  unfold Float.ofScientific
  by_cases exact : coefficient < 2 ^ 53 ∧ power ≤ 22
  · have listed : power < Float.exactlyRepresentablePowersOfTen.size := Nat.lt_succ_of_le exact.2
    obtain ⟨first, firstExponent, _, firstParts, -, firstNumber⟩ := parts_toFloat positive exact.1
    obtain ⟨second, secondExponent, _, secondParts, -, secondNumber⟩ := parts_power listed
    rw [dif_pos exact]
    show Float.ofModel (Float.Model.pack (UnpackedFloat.div Format.binary64
      (parts coefficient.toUInt64.toFloat)
      (parts Float.exactlyRepresentablePowersOfTen[power]))) = _
    rw [firstParts, secondParts, div_eq canonical]
    rwa [firstNumber, secondNumber]
  · rw [dif_neg exact]
    show Float.ofModel (Float.Model.pack
      (UnpackedFloat.ofScientific Format.binary64 coefficient (Int.negOfNat power))) = _
    rw [Int.negOfNat_eq]
    exact congrArg (fun unpacked => Float.ofModel (Float.Model.pack unpacked))
      (unpacked_div canonical positive divided small reads)

end Scientific

/-- The numbers nearest to a double lie in the range of doubles. -/
theorem range_of_reads {x : ℚ} (canonical : value.IsCanonical) (reads : value.Reads x) :
    2 ^ (-1075 : ℤ) ≤ x ∧ x < 2 ^ (1024 : ℤ) := by
  obtain ⟨positive, bounded, least, most, -⟩ := canonical
  have gap : value.gap ≤ 1 / 2 := by
    unfold Dyadic.gap
    split_ifs <;> norm_num
  have unit : (0 : ℚ) < 2 ^ value.exponent := zpow_pos two_pos _
  have one : (1 : ℚ) ≤ value.significand := by exact_mod_cast positive
  have most53 : (value.significand : ℚ) + 1 ≤ 2 ^ 53 := by exact_mod_cast bounded
  have low : (2 : ℚ) ^ (-1074 : ℤ) ≤ 2 ^ value.exponent := zpow_le_zpow_right₀ one_le_two least
  have high : (2 : ℚ) ^ value.exponent ≤ 2 ^ (971 : ℤ) := zpow_le_zpow_right₀ one_le_two most
  have scaled : x = x / 2 ^ value.exponent * 2 ^ value.exponent :=
    (div_mul_cancel₀ x unit.ne').symm
  have lower : 1 / 2 ≤ x / 2 ^ value.exponent := by linarith [reads.lower]
  have upper : x / 2 ^ value.exponent < 2 ^ 53 := by linarith [reads.upper]
  constructor
  · calc (2 : ℚ) ^ (-1075 : ℤ) = 1 / 2 * 2 ^ (-1074 : ℤ) := by
          rw [one_div, ← zpow_neg_one, ← zpow_add₀ two_ne_zero]
          rfl
      _ ≤ x / 2 ^ value.exponent * 2 ^ value.exponent :=
          mul_le_mul lower low (zpow_pos two_pos _).le (by linarith)
      _ = x := scaled.symm
  · calc x = x / 2 ^ value.exponent * 2 ^ value.exponent := scaled
      _ < 2 ^ 53 * 2 ^ value.exponent := mul_lt_mul_of_pos_right upper unit
      _ ≤ 2 ^ 53 * 2 ^ (971 : ℤ) := mul_le_mul_of_nonneg_left high (by norm_num)
      _ = 2 ^ (1024 : ℤ) := (zpow_add₀ two_ne_zero 53 971).symm

end Double

namespace Decimal

open Double Float.Model Float.Model.UnpackedFloat

/-- The number that a decimal is. -/
def number (decimal : Decimal) : ℚ := decimal.coefficient * 10 ^ decimal.exponent

theorem length_digits_pos (decimal : Decimal) : 0 < decimal.digits.length :=
  Nat.length_toDigits_pos

/-- The number of digits of a natural number says between which powers of ten it lies. -/
theorem decimalLength_bounds {natural : ℕ} (positive : 0 < natural) :
    10 ^ (Dyadic.decimalLength natural - 1) ≤ natural ∧
      natural < 10 ^ Dyadic.decimalLength natural := by
  have nonempty : 0 < Dyadic.decimalLength natural := Nat.length_toDigits_pos
  refine ⟨?_, (Nat.length_toDigits_le_iff (by decide) nonempty).mp le_rfl⟩
  rcases Nat.eq_zero_or_pos (Dyadic.decimalLength natural - 1) with single | several
  · rw [single, pow_zero]
    exact positive
  · by_contra below
    have shorter : Dyadic.decimalLength natural ≤ Dyadic.decimalLength natural - 1 :=
      (Nat.length_toDigits_le_iff (by decide) several).mpr (not_le.mp below)
    omega

/-- **The leading power of ten** of a decimal. -/
theorem leading_bounds {decimal : Decimal} (positive : 0 < decimal.coefficient) :
    (10 : ℚ) ^ decimal.leading ≤ decimal.number ∧
      decimal.number < 10 ^ (decimal.leading + 1) := by
  obtain ⟨lower, upper⟩ := decimalLength_bounds positive
  change 10 ^ (decimal.digits.length - 1) ≤ _ at lower
  change _ < 10 ^ decimal.digits.length at upper
  have nonempty := decimal.length_digits_pos
  have unit : (0 : ℚ) < 10 ^ decimal.exponent := zpow_pos (by norm_num) _
  have first : decimal.leading = ((decimal.digits.length - 1 : ℕ) : ℤ) + decimal.exponent := by
    unfold leading
    omega
  have next : decimal.leading + 1 = (decimal.digits.length : ℤ) + decimal.exponent := by
    unfold leading
    omega
  rw [next, first, zpow_add₀ (by norm_num), zpow_add₀ (by norm_num), zpow_natCast, zpow_natCast]
  constructor
  · exact mul_le_mul_of_nonneg_right (by exact_mod_cast lower) unit.le
  · exact mul_lt_mul_of_pos_right (by exact_mod_cast upper) unit

/-- A decimal that is nearest to a double is not zero. -/
theorem coefficient_pos {decimal : Decimal} {value : Dyadic} (canonical : value.IsCanonical)
    (reads : value.Reads decimal.number) : 0 < decimal.coefficient := by
  obtain ⟨lower, -⟩ := range_of_reads canonical reads
  refine Nat.pos_of_ne_zero fun zero => ?_
  rw [number, zero, Nat.cast_zero, zero_mul] at lower
  exact absurd lower (not_le.mpr (zpow_pos two_pos _))

/-- The leading power of ten of a decimal that is nearest to a double is in the range of doubles. -/
theorem leading_range {decimal : Decimal} {value : Dyadic} (canonical : value.IsCanonical)
    (reads : value.Reads decimal.number) :
    ¬ 310 < decimal.leading ∧ ¬ decimal.leading < -330 := by
  obtain ⟨lower, upper⟩ := range_of_reads canonical reads
  obtain ⟨least, most⟩ := leading_bounds (coefficient_pos canonical reads)
  constructor
  · intro huge
    have ordered : (10 : ℚ) ^ (310 : ℤ) < 2 ^ (1024 : ℤ) :=
      (zpow_le_zpow_right₀ (by norm_num) huge.le).trans_lt (least.trans_lt upper)
    have beyond : 2 ^ 1024 < 10 ^ 310 := by decide +kernel
    rw [zpow_ofNat, zpow_ofNat] at ordered
    exact absurd (by exact_mod_cast beyond) ordered.not_gt
  · intro tiny
    have ordered : (2 : ℚ) ^ (-1075 : ℤ) < 10 ^ (-330 : ℤ) :=
      (lower.trans_lt most).trans_le (zpow_le_zpow_right₀ (by norm_num) (by omega))
    have beyond : 2 ^ 1075 < 10 ^ 330 := by decide +kernel
    rw [zpow_neg, zpow_neg, zpow_ofNat, zpow_ofNat,
      inv_lt_inv₀ (pow_pos two_pos _) (pow_pos (by norm_num) _)] at ordered
    exact absurd (by exact_mod_cast beyond) ordered.not_gt

/-- **A decimal that is nearest to a double reads as it.** -/
theorem toDouble_eq {decimal : Decimal} {double : Float} {value : Dyadic}
    (canonical : value.IsCanonical)
    (same : parts double = .finite .positive value.significand value.exponent canonical.positive)
    (reads : value.Reads decimal.number) : decimal.toDouble = double := by
  have positive := coefficient_pos canonical reads
  obtain ⟨notHuge, notTiny⟩ := leading_range canonical reads
  have nonempty := decimal.length_digits_pos
  have length : decimal.digits.length - 1 ≤ decimal.coefficient.log2 := by
    refine (Nat.le_log2 positive.ne').mpr (le_trans ?_ (decimalLength_bounds positive).1)
    exact Nat.pow_le_pow_left (by decide) _
  have digits : decimal.exponent = decimal.leading - (decimal.digits.length - 1 : ℕ) := by
    unfold leading
    omega
  unfold toDouble
  rw [if_neg positive.ne', if_neg notHuge, if_neg notTiny]
  split_ifs with whole
  · refine ofScientific_mul canonical same positive (by omega) ?_
    have power : (10 : ℚ) ^ decimal.exponent.toNat = 10 ^ decimal.exponent := by
      rw [← zpow_natCast, Int.toNat_of_nonneg whole]
    rw [power]
    exact reads
  · refine ofScientific_div canonical same positive (by omega) (by omega) ?_
    have power : (coefficient decimal : ℚ) / 10 ^ (-decimal.exponent).toNat = decimal.number := by
      rw [number, ← zpow_natCast, Int.toNat_of_nonneg (by omega), zpow_neg, div_inv_eq_mul]
    rw [power]
    exact reads

end Decimal

end MultipleShooting
