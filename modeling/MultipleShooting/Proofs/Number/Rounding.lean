/-
**Rounding to the nearest double.**

Rounding shifts a mantissa to the exponent of the format and keeps of what is shifted out a bit and
whether anything is below it.

* `Represents`: the numbers that a mantissa with these two bits stands for, kept by every shift
  (`Represents.shiftRight`);
* `Dyadic.Reads`: the numbers that are nearest to a double, those half-way between two doubles going
  to the even significand;
* `roundWithAccuracy_eq`: **a number that is nearest to a double is rounded to it**. Just below a
  power of two the exponent is one too small at first, and the carry corrects it.
-/
import MultipleShooting.Decimal.Digits
import Mathlib

namespace MultipleShooting

/-! ### Doubles and the numbers nearest to them -/

namespace Dyadic

/-- The number that a dyadic is. -/
def number (value : Dyadic) : ℚ := value.significand * 2 ^ value.exponent

/-- The significand of a double other than zero has 53 binary digits, or fewer at the least
exponent. -/
structure IsCanonical (value : Dyadic) : Prop where
  positive : 0 < value.significand
  bounded : value.significand < 2 ^ 53
  least : -1074 ≤ value.exponent
  most : value.exponent ≤ 971
  normal : value.exponent = -1074 ∨ 2 ^ 52 ≤ value.significand

/-- The part of the last place that is half-way to the double below: half of it, or a quarter where
the doubles below are twice as dense. -/
def gap (value : Dyadic) : ℚ :=
  if value.significand = leastNormal ∧ -1074 < value.exponent then 1 / 4 else 1 / 2

/-- The numbers that are nearest to a double, measured in its last place. -/
structure Reads (value : Dyadic) (x : ℚ) : Prop where
  lower : value.significand - value.gap ≤ x / 2 ^ value.exponent
  upper : x / 2 ^ value.exponent ≤ value.significand + 1 / 2
  ends : x / 2 ^ value.exponent = value.significand - value.gap ∨
    x / 2 ^ value.exponent = value.significand + 1 / 2 → value.significand % 2 = 0

end Dyadic

namespace Double

open Float.Model Float.Model.UnpackedFloat

/-! ### Mantissas with residual bits -/

/-- The numbers that a mantissa with its residual bits stands for, in units of its last place. -/
def Represents (extended : ExtendedMantissa) (x : ℚ) : Prop :=
  let base : ℚ := extended.mantissa + if extended.roundBit then 1 / 2 else 0
  if extended.stickyBit then base < x ∧ x < base + 1 / 2 else x = base

theorem represents_exact (mantissa : ℕ) :
    Represents (ExtendedMantissa.ofMantissaAndAccuracy mantissa .exact) mantissa := by
  simp [Represents, ExtendedMantissa.ofMantissaAndAccuracy]

namespace Represents

variable {extended : ExtendedMantissa} {x : ℚ}

/-- The mantissa is the whole part. -/
theorem floor (represents : Represents extended x) :
    (extended.mantissa : ℚ) ≤ x ∧ x < extended.mantissa + 1 := by
  obtain ⟨mantissa, roundBit, stickyBit⟩ := extended
  cases roundBit <;> cases stickyBit <;> simp [Represents] at represents ⊢ <;>
    constructor <;> linarith

/-- A mantissa that stands for a natural number is that number. -/
theorem mantissa_eq {number : ℕ} (represents : Represents extended number) :
    extended.mantissa = number := by
  obtain ⟨below, above⟩ := represents.floor
  have first : extended.mantissa ≤ number := Nat.cast_le.mp below
  have second : number < extended.mantissa + 1 := by exact_mod_cast above
  omega

theorem shiftRightOne (represents : Represents extended x) :
    Represents extended.shiftRightOne (x / 2) := by
  obtain ⟨mantissa, roundBit, stickyBit⟩ := extended
  have halves : (mantissa : ℚ) = 2 * ((mantissa / 2 : ℕ) : ℚ) + ((mantissa % 2 : ℕ) : ℚ) := by
    exact_mod_cast (Nat.div_add_mod mantissa 2).symm
  rcases Nat.mod_two_eq_zero_or_one mantissa with parity | parity <;>
    rw [parity] at halves <;> cases roundBit <;> cases stickyBit <;>
    simp [Represents, ExtendedMantissa.shiftRightOne, parity] at represents ⊢ <;>
    (try constructor) <;> push_cast at halves <;> linarith

/-- A shift divides by a power of two. -/
theorem shiftRight (represents : Represents extended x) (places : ℕ) :
    Represents (extended >>> places) (x / 2 ^ places) := by
  show Represents (places.repeat ExtendedMantissa.shiftRightOne extended) _
  induction places with
  | zero => simpa [Nat.repeat] using represents
  | succ places ih =>
    rw [pow_succ, ← div_div]
    exact ih.shiftRightOne

/-- **The nearest natural number**, an even one for a number half-way between two. -/
theorem roundedMantissa_eq (represents : Represents extended x) {nearest : ℕ}
    (lower : (nearest : ℚ) - 1 / 2 ≤ x) (upper : x ≤ nearest + 1 / 2)
    (ends : x = nearest - 1 / 2 ∨ x = nearest + 1 / 2 → nearest % 2 = 0) :
    extended.roundedMantissa = nearest := by
  obtain ⟨mantissa, roundBit, stickyBit⟩ := extended
  have between (below : (mantissa : ℚ) < nearest + 1) (above : (nearest : ℚ) < mantissa + 1) :
      mantissa = nearest := by
    have first : mantissa < nearest + 1 := by exact_mod_cast below
    have second : nearest < mantissa + 1 := by exact_mod_cast above
    omega
  have next (below : (mantissa : ℚ) < nearest) (above : (nearest : ℚ) < mantissa + 2) :
      mantissa + 1 = nearest := by
    have first : mantissa < nearest := by exact_mod_cast below
    have second : nearest < mantissa + 2 := by exact_mod_cast above
    omega
  cases roundBit <;> cases stickyBit <;> simp [Represents] at represents
  · exact between (by linarith) (by linarith)
  · exact between (by linarith) (by linarith)
  · -- half-way: the mantissa is even or the next number is
    show mantissa + mantissa % 2 = nearest
    rcases lt_or_ge (nearest : ℚ) (mantissa + 1 / 2) with below | above
    · have same := between (by linarith) (by linarith)
      subst same
      have even := ends (.inr (by linarith))
      omega
    · have same := next (by linarith) (by linarith)
      have even := ends (.inl (by rw [← same]; push_cast; linarith))
      omega
  · exact next (by linarith) (by linarith)

end Represents

/-! ### The exponent of the format -/

theorem targetExponent_eq (total : ℤ) :
    Format.binary64.targetExponent total = max (total - 53) (-1074) := rfl

/-- A power of two some places above another. -/
theorem zpow_add_places (low : ℤ) (places : ℕ) :
    (2 : ℚ) ^ (low + places) = 2 ^ places * 2 ^ low := by
  rw [zpow_add₀ two_ne_zero, zpow_natCast, mul_comm]

section Shifts

variable {mantissa : ℕ} {exponent : ℤ} {accuracy : Accuracy} {x : ℚ}

/-- A mantissa is fine enough if it has all binary digits of the format or its exponent is at most
the least one. -/
def IsFine (mantissa : ℕ) (exponent : ℤ) : Prop := 2 ^ 52 ≤ mantissa ∨ exponent ≤ -1074

/-- The exponent of a fine mantissa is at most that of the number it stands for. -/
theorem exponent_le {target : ℤ} (fine : IsFine mantissa exponent) (least : -1074 ≤ target)
    (below : mantissa ≤ x / 2 ^ exponent) (bounded : x < 2 ^ 53 * 2 ^ target) :
    exponent ≤ target := by
  rcases fine with full | low
  · have positive : (0 : ℚ) < 2 ^ exponent := zpow_pos two_pos _
    have many : (2 : ℚ) ^ 52 ≤ mantissa := by exact_mod_cast full
    have power : (2 : ℚ) ^ (52 + exponent) < 2 ^ (53 + target) := by
      calc (2 : ℚ) ^ (52 + exponent)
          = 2 ^ 52 * 2 ^ exponent := zpow_add₀ two_ne_zero 52 exponent
        _ ≤ x := (le_div_iff₀ positive).mp (many.trans below)
        _ < 2 ^ 53 * 2 ^ target := bounded
        _ = 2 ^ (53 + target) := (zpow_add₀ two_ne_zero 53 target).symm
    have ordered := (zpow_lt_zpow_iff_right₀ one_lt_two).mp power
    omega
  · omega

/-- The exponent of the format is the one at which a mantissa has 53 binary digits, or fewer if it
is the least one. -/
theorem targetExponent_totalExponent {places : ℕ} (least : -1074 ≤ exponent + places)
    (upper : mantissa < 2 ^ (53 + places))
    (lower : exponent + places = -1074 ∨ 2 ^ (52 + places) ≤ mantissa) :
    Format.binary64.targetExponent (totalExponent mantissa exponent) = exponent + places := by
  rw [targetExponent_eq, totalExponent]
  have most : mantissa.log2 < 53 + places := by
    rcases Nat.eq_zero_or_pos mantissa with rfl | positive
    · simp
    · exact (Nat.log2_lt positive.ne').mpr upper
  rcases lower with atLeast | large
  · omega
  · have nonzero : mantissa ≠ 0 := (lt_of_lt_of_le (Nat.two_pow_pos _) large).ne'
    have many := (Nat.le_log2 nonzero).mpr large
    omega

/-- The shift to the exponent of the format: a number that has 53 binary digits at an exponent, or
fewer at the least exponent, is shifted to that exponent. -/
theorem shift_eq (target : ℤ) (least : -1074 ≤ target)
    (represents : Represents (.ofMantissaAndAccuracy mantissa accuracy) (x / 2 ^ exponent))
    (fine : IsFine mantissa exponent) (bounded : x < 2 ^ 53 * 2 ^ target)
    (normal : target = -1074 ∨ 2 ^ 52 * 2 ^ target ≤ x) :
    ∃ extended, shiftToTargetExponent Format.binary64 mantissa exponent accuracy =
      (extended, target) ∧ Represents extended (x / 2 ^ target) := by
  have floor := represents.floor
  have same : (ExtendedMantissa.ofMantissaAndAccuracy mantissa accuracy).mantissa = mantissa := by
    rcases accuracy with _ | (_ | _ | _) <;> rfl
  rw [same] at floor
  have ordered := exponent_le fine least floor.1 bounded
  have positive : (0 : ℚ) < 2 ^ exponent := zpow_pos two_pos _
  obtain ⟨places, rfl⟩ := Int.le.dest ordered
  rw [zpow_add_places] at bounded normal ⊢
  have upper : mantissa < 2 ^ (53 + places) := by
    have inside : (mantissa : ℚ) < 2 ^ (53 + places) := by
      refine floor.1.trans_lt ((div_lt_iff₀ positive).mpr ?_)
      rw [pow_add, mul_assoc]
      exact bounded
    exact_mod_cast inside
  have lower : exponent + places = -1074 ∨ 2 ^ (52 + places) ≤ mantissa := by
    refine normal.imp_right fun large => ?_
    have inside : (2 : ℚ) ^ (52 + places) < mantissa + 1 := by
      refine lt_of_le_of_lt ((le_div_iff₀ positive).mpr ?_) floor.2
      rw [pow_add, mul_assoc]
      exact large
    have counted : 2 ^ (52 + places) < mantissa + 1 := by exact_mod_cast inside
    omega
  refine ⟨ExtendedMantissa.ofMantissaAndAccuracy mantissa accuracy >>> places, ?_, ?_⟩
  · have shifts : (exponent + places - exponent).toNat = places := by omega
    rw [shiftToTargetExponent, targetExponent_totalExponent least upper lower, shiftToExponent,
      shifts]
  · have shifted := represents.shiftRight places
    rwa [div_div, mul_comm] at shifted

/-! ### Rounding -/

variable {value : Dyadic}

/-- The second shift carries a number that has been rounded to a double to its exponent. -/
theorem carry_eq {rounded : ℕ} (canonical : value.IsCanonical) (fine : IsFine rounded exponent)
    (same : (rounded : ℚ) * 2 ^ exponent = value.number) :
    ∃ extended, shiftToTargetExponent Format.binary64 rounded exponent .exact =
      (extended, value.exponent) ∧ extended.mantissa = value.significand := by
  have positive : (0 : ℚ) < 2 ^ value.exponent := zpow_pos two_pos _
  have exact :
      Represents (.ofMantissaAndAccuracy rounded .exact) (value.number / 2 ^ exponent) := by
    rw [← same, mul_div_cancel_right₀ _ (zpow_ne_zero _ two_ne_zero)]
    exact represents_exact rounded
  have bounded : value.number < 2 ^ 53 * 2 ^ value.exponent :=
    mul_lt_mul_of_pos_right (by exact_mod_cast canonical.bounded) positive
  have normal : value.exponent = -1074 ∨ 2 ^ 52 * 2 ^ value.exponent ≤ value.number :=
    canonical.normal.imp_right fun full =>
      mul_le_mul_of_nonneg_right (by exact_mod_cast full) positive.le
  obtain ⟨extended, shifted, represents⟩ := shift_eq _ canonical.least exact fine bounded normal
  refine ⟨extended, shifted, Represents.mantissa_eq ?_⟩
  rwa [Dyadic.number, mul_div_cancel_right₀ _ positive.ne'] at represents

/-- The first shift and the rounding give a double, with an exponent that may be too small. -/
def RoundsTo (mantissa : ℕ) (exponent : ℤ) (accuracy : Accuracy) (value : Dyadic) : Prop :=
  ∃ extended target, shiftToTargetExponent Format.binary64 mantissa exponent accuracy =
    (extended, target) ∧ IsFine extended.roundedMantissa target ∧
      (extended.roundedMantissa : ℚ) * 2 ^ target = value.number

/-- A number lies just below a power of two, where doubles are denser than above. -/
def IsBelowPower (value : Dyadic) (x : ℚ) : Prop :=
  (value.significand = Dyadic.leastNormal ∧ -1074 < value.exponent) ∧
    x / 2 ^ value.exponent < value.significand

/-- A number just below a power of two is rounded to the power at the next smaller exponent. -/
theorem roundsTo_of_isBelowPower (reads : value.Reads x)
    (represents : Represents (.ofMantissaAndAccuracy mantissa accuracy) (x / 2 ^ exponent))
    (fine : IsFine mantissa exponent) (below : IsBelowPower value x) :
    RoundsTo mantissa exponent accuracy value := by
  obtain ⟨lower, -, -⟩ := reads
  obtain ⟨⟨least, above⟩, below⟩ := below
  have quarter : value.gap = 1 / 4 := if_pos ⟨least, above⟩
  have power : (value.significand : ℚ) = 2 ^ 52 := by rw [least]; norm_num [Dyadic.leastNormal]
  have half : (2 : ℚ) ^ value.exponent = 2 * 2 ^ (value.exponent - 1) := by
    rw [← zpow_one_add₀ two_ne_zero, add_sub_cancel]
  have units : x / 2 ^ (value.exponent - 1) = 2 * (x / 2 ^ value.exponent) := by
    rw [half]
    field_simp
  have small : (0 : ℚ) < 2 ^ (value.exponent - 1) := zpow_pos two_pos _
  rw [quarter, power] at lower
  rw [power] at below
  obtain ⟨extended, shifted, stands⟩ := shift_eq (value.exponent - 1) (by omega)
    represents fine ((div_lt_iff₀ small).mp (by rw [units]; linarith))
    (.inr ((le_div_iff₀ small).mp (by rw [units]; linarith)))
  have nearest : extended.roundedMantissa = 2 ^ 53 := by
    refine stands.roundedMantissa_eq ?_ ?_ fun _ => by norm_num
    · rw [units]
      push_cast
      linarith
    · rw [units]
      push_cast
      linarith
  refine ⟨extended, _, shifted, .inl ?_, ?_⟩
  · rw [nearest]
    norm_num
  · rw [nearest, Dyadic.number, power, half]
    push_cast
    ring

/-- Elsewhere half a place is half-way to the double below, or the number is not below its
double. -/
theorem gap_of_not_isBelowPower (elsewhere : ¬ IsBelowPower value x) : value.gap = 1 / 2 ∨
    value.gap = 1 / 4 ∧ value.significand ≤ x / 2 ^ value.exponent := by
  by_cases edge : value.significand = Dyadic.leastNormal ∧ -1074 < value.exponent
  · exact .inr ⟨if_pos edge, not_lt.mp fun dense => elsewhere ⟨edge, dense⟩⟩
  · exact .inl (if_neg edge)

/-- A number elsewhere has all binary digits of the format at the exponent of its double. -/
theorem normal_of_not_isBelowPower (canonical : value.IsCanonical) (reads : value.Reads x)
    (elsewhere : ¬ IsBelowPower value x) :
    value.exponent = -1074 ∨ 2 ^ 52 * 2 ^ value.exponent ≤ x := by
  have positive : (0 : ℚ) < 2 ^ value.exponent := zpow_pos two_pos _
  obtain ⟨lower, -, -⟩ := reads
  refine or_iff_not_imp_left.mpr fun above => (le_div_iff₀ positive).mp ?_
  have full := canonical.normal.resolve_left above
  have many : (2 : ℚ) ^ 52 ≤ value.significand := by exact_mod_cast full
  by_cases least : value.significand = Dyadic.leastNormal
  · have edge := And.intro least (lt_of_le_of_ne canonical.least (Ne.symm above))
    exact many.trans (not_lt.mp fun dense => elsewhere ⟨edge, dense⟩)
  · have more : (2 : ℚ) ^ 52 + 1 ≤ value.significand := by
      exact_mod_cast lt_of_le_of_ne full (Ne.symm least)
    rcases gap_of_not_isBelowPower elsewhere with half | ⟨quarter, -⟩ <;> linarith

/-- A number elsewhere is rounded to its double at the exponent of the double. -/
theorem roundsTo_of_not_isBelowPower (canonical : value.IsCanonical) (reads : value.Reads x)
    (represents : Represents (.ofMantissaAndAccuracy mantissa accuracy) (x / 2 ^ exponent))
    (fine : IsFine mantissa exponent) (elsewhere : ¬ IsBelowPower value x) :
    RoundsTo mantissa exponent accuracy value := by
  have positive : (0 : ℚ) < 2 ^ value.exponent := zpow_pos two_pos _
  have bounded : (value.significand : ℚ) + 1 ≤ 2 ^ 53 := by exact_mod_cast canonical.bounded
  have normal := normal_of_not_isBelowPower canonical reads elsewhere
  obtain ⟨lower, upper, ends⟩ := reads
  obtain ⟨extended, shifted, stands⟩ := shift_eq _ canonical.least represents fine
    ((div_lt_iff₀ positive).mp (by linarith)) normal
  have nearest : extended.roundedMantissa = value.significand := by
    rcases gap_of_not_isBelowPower elsewhere with half | ⟨-, inside⟩
    · rw [half] at lower ends
      exact stands.roundedMantissa_eq lower upper ends
    · refine stands.roundedMantissa_eq (by linarith) upper ?_
      rintro (low | high)
      · linarith
      · exact ends (.inr high)
  refine ⟨extended, _, shifted, ?_, ?_⟩
  · rw [nearest]
    exact canonical.normal.symm.imp_right le_of_eq
  · rw [nearest, Dyadic.number]

/-- **The first shift and the rounding** of a number that is nearest to a double give the double. -/
theorem roundsTo (canonical : value.IsCanonical) (reads : value.Reads x)
    (represents : Represents (.ofMantissaAndAccuracy mantissa accuracy) (x / 2 ^ exponent))
    (fine : IsFine mantissa exponent) : RoundsTo mantissa exponent accuracy value := by
  by_cases below : IsBelowPower value x
  · exact roundsTo_of_isBelowPower reads represents fine below
  · exact roundsTo_of_not_isBelowPower canonical reads represents fine below

/-- **A number that is nearest to a double is rounded to it.** -/
theorem roundWithAccuracy_eq (canonical : value.IsCanonical) (reads : value.Reads x)
    (represents : Represents (.ofMantissaAndAccuracy mantissa accuracy) (x / 2 ^ exponent))
    (fine : IsFine mantissa exponent) (sign : Sign) :
    roundWithAccuracy Format.binary64 sign mantissa exponent accuracy =
      .finite sign value.significand value.exponent canonical.positive := by
  obtain ⟨extended, target, shifted, stillFine, same⟩ :=
    roundsTo canonical reads represents fine
  obtain ⟨carried, again, kept⟩ := carry_eq canonical stillFine same
  simp only [roundWithAccuracy, shifted, again, kept]
  exact dif_neg canonical.positive.ne'

end Shifts

end Double

end MultipleShooting
