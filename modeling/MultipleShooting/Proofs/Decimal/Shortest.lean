/-
**The shortest decimal of a double is nearest to it.**

The search for the shortest decimal compares multiples of a power of ten with the half-way points
around a double in natural numbers of a common unit.

* `Dyadic.hit?_reads`: a hit is nearest to the double;
* `Dyadic.leading_le`: the power of ten at which the search begins is at most the double;
* `Dyadic.shortest_reads`: **the shortest decimal is nearest to the double**. Where no decimal of
  seventeen digits were a hit, one of eighteen digits would be so dense that rounding down stays
  within the half-way points.
-/
import MultipleShooting.Proofs.Decimal.Nearest

namespace MultipleShooting

namespace Dyadic

variable {value : Dyadic}

/-! ### The common unit -/

/-- The unit in which a double is compared with multiples of a power of ten, times the number of
which it is a part. -/
def unit (value : Dyadic) (grid : ℤ) : ℕ :=
  2 ^ (value.exponent - 2).toNat * 10 ^ (-grid).toNat

/-- How many quarters of the last place the half-way point below a double is away from it. -/
def quarters (value : Dyadic) : ℕ :=
  if value.significand = leastNormal ∧ -1074 < value.exponent then 1 else 2

theorem unit_pos (value : Dyadic) (grid : ℤ) : 0 < value.unit grid :=
  Nat.mul_pos (Nat.two_pow_pos _) (Nat.pow_pos (by decide))

theorem scaled_value (value : Dyadic) (grid : ℤ) :
    (value.scaled grid).value = 4 * value.significand * value.unit grid := rfl

theorem scaled_below (value : Dyadic) (grid : ℤ) :
    (value.scaled grid).below = (4 * value.significand - value.quarters) * value.unit grid := rfl

theorem scaled_above (value : Dyadic) (grid : ℤ) :
    (value.scaled grid).above = (4 * value.significand + 2) * value.unit grid := rfl

theorem spacing_pos (value : Dyadic) (grid : ℤ) : 0 < (value.scaled grid).spacing :=
  Nat.mul_pos (Nat.pow_pos (by decide)) (Nat.two_pow_pos _)

/-- The spacing of the grid in last places of the double. -/
theorem spacing_eq (value : Dyadic) (grid : ℤ) :
    ((value.scaled grid).spacing : ℚ) / value.unit grid = 10 ^ grid / 2 ^ (value.exponent - 2) := by
  have ten : (10 : ℚ) ≠ 0 := by norm_num
  show ((10 ^ grid.toNat * 2 ^ (-(value.exponent - 2)).toNat : ℕ) : ℚ) /
    ((2 ^ (value.exponent - 2).toNat * 10 ^ (-grid).toNat : ℕ) : ℚ) = _
  rw [Double.zpow_eq_div ten grid, Double.zpow_eq_div two_ne_zero (value.exponent - 2)]
  push_cast
  field_simp

/-- A multiple of a power of ten in last places of the double. -/
theorem number_div_eq (value : Dyadic) (grid : ℤ) (multiple : ℕ) :
    (⟨multiple, grid⟩ : Decimal).number / 2 ^ value.exponent =
      (multiple * (value.scaled grid).spacing : ℕ) / (4 * value.unit grid) := by
  have quarter : (2 : ℚ) ^ value.exponent = 4 * 2 ^ (value.exponent - 2) := by
    rw [zpow_sub₀ two_ne_zero]
    norm_num
    ring
  have unitPositive : (value.unit grid : ℚ) ≠ 0 := Nat.cast_ne_zero.mpr (value.unit_pos grid).ne'
  have spacing := value.spacing_eq grid
  have power : (2 : ℚ) ^ (value.exponent - 2) ≠ 0 := zpow_ne_zero _ two_ne_zero
  rw [div_eq_div_iff unitPositive power] at spacing
  rw [Decimal.number, quarter, div_eq_div_iff (by positivity) (by positivity)]
  push_cast
  linear_combination (-4 * (multiple : ℚ)) * spacing

/-! ### Hits -/

theorem quarters_le (value : Dyadic) : 1 ≤ value.quarters ∧ value.quarters ≤ 2 := by
  unfold quarters
  split_ifs <;> decide

theorem gap_eq (value : Dyadic) : value.gap = value.quarters / 4 := by
  unfold gap quarters
  split_ifs <;> norm_num

/-- **A multiple between the half-way points** is nearest to the double; the points themselves are
if the significand is even. -/
theorem reads_of_between {grid : ℤ} {multiple : ℕ} (positive : 0 < value.significand)
    (lower : (value.scaled grid).below < multiple * (value.scaled grid).spacing ∨
      value.significand % 2 = 0 ∧
        (value.scaled grid).below = multiple * (value.scaled grid).spacing)
    (upper : multiple * (value.scaled grid).spacing < (value.scaled grid).above ∨
      value.significand % 2 = 0 ∧
        multiple * (value.scaled grid).spacing = (value.scaled grid).above) :
    value.Reads (⟨multiple, grid⟩ : Decimal).number := by
  have quarters := value.quarters_le
  rw [scaled_below] at lower
  rw [scaled_above] at upper
  have unit : (0 : ℚ) < 4 * value.unit grid :=
    mul_pos (by norm_num) (Nat.cast_pos.mpr (value.unit_pos grid))
  have least : (value.significand : ℚ) - value.gap =
      ((4 * value.significand - value.quarters) * value.unit grid : ℕ) /
        (4 * value.unit grid) := by
    rw [gap_eq, eq_div_iff unit.ne']
    push_cast [show value.quarters ≤ 4 * value.significand by omega]
    ring
  have most : (value.significand : ℚ) + 1 / 2 =
      ((4 * value.significand + 2) * value.unit grid : ℕ) / (4 * value.unit grid) := by
    rw [eq_div_iff unit.ne']
    push_cast
    ring
  refine ⟨?_, ?_, ?_⟩
  · rw [least, number_div_eq, div_le_div_iff_of_pos_right unit, Nat.cast_le]
    rcases lower with inside | ⟨-, edge⟩
    · exact inside.le
    · exact edge.le
  · rw [most, number_div_eq, div_le_div_iff_of_pos_right unit, Nat.cast_le]
    rcases upper with inside | ⟨-, edge⟩
    · exact inside.le
    · exact edge.le
  · rw [least, most, number_div_eq, div_left_inj' unit.ne', div_left_inj' unit.ne', Nat.cast_inj,
      Nat.cast_inj]
    rintro (low | high)
    · rcases lower with inside | ⟨even, -⟩
      · exact absurd low inside.ne'
      · exact even
    · rcases upper with inside | ⟨even, -⟩
      · exact absurd high inside.ne
      · exact even

/-- **A hit is nearest to the double.** -/
theorem hit?_reads {grid : ℤ} {decimal : Decimal} (positive : 0 < value.significand)
    (hit : value.hit? grid = some decimal) : value.Reads decimal.number := by
  have quarters := value.quarters_le
  have unit := value.unit_pos grid
  have spacing := value.spacing_pos grid
  have below : (value.scaled grid).below < (value.scaled grid).value := by
    rw [scaled_below, scaled_value]
    exact Nat.mul_lt_mul_of_pos_right (by omega) unit
  have above : (value.scaled grid).value < (value.scaled grid).above := by
    rw [scaled_above, scaled_value]
    exact Nat.mul_lt_mul_of_pos_right (by omega) unit
  have down := Nat.div_mul_le_self (value.scaled grid).value (value.scaled grid).spacing
  have up : (value.scaled grid).value <
      ((value.scaled grid).value / (value.scaled grid).spacing + 1) * (value.scaled grid).spacing :=
    Nat.lt_mul_of_div_lt (Nat.lt_succ_self _) spacing
  simp only [hit?] at hit
  split_ifs at hit with lowerHit upperHit
  · cases hit
    exact reads_of_between positive lowerHit.1 (.inl (down.trans_lt above))
  · cases hit
    exact reads_of_between positive (.inl (below.trans up)) upperHit

/-! ### The search -/

/-- The leading power of ten of a quotient that is at least one. -/
theorem zpow_length_le {numerator denominator : ℕ} (positive : 0 < denominator)
    (large : denominator ≤ numerator) :
    (10 : ℚ) ^ ((decimalLength (numerator / denominator) : ℤ) - 1) ≤ numerator / denominator := by
  have atLeastOne : 0 < numerator / denominator := Nat.div_pos large positive
  obtain ⟨least, -⟩ := Decimal.decimalLength_bounds atLeastOne
  have length : 0 < decimalLength (numerator / denominator) := Nat.length_toDigits_pos
  have power : (decimalLength (numerator / denominator) : ℤ) - 1 =
      ((decimalLength (numerator / denominator) - 1 : ℕ) : ℤ) := by omega
  rw [power, zpow_natCast]
  calc (10 : ℚ) ^ (decimalLength (numerator / denominator) - 1)
      ≤ (numerator / denominator : ℕ) := by exact_mod_cast least
    _ ≤ numerator / denominator := Nat.cast_div_le

/-- The leading power of ten of a quotient below one, by the number of digits of its reciprocal,
rounded up, less one. -/
theorem zpow_neg_length_le {numerator denominator : ℕ} (positive : 0 < numerator)
    (small : numerator < denominator) :
    (10 : ℚ) ^ (-(decimalLength ((denominator + numerator - 1) / numerator - 1) : ℤ)) ≤
      numerator / denominator := by
  have denominatorPositive : (0 : ℚ) < denominator := Nat.cast_pos.mpr (positive.trans small)
  obtain ⟨ceiling, known⟩ : ∃ ceiling, (denominator + numerator - 1) / numerator = ceiling :=
    ⟨_, rfl⟩
  have covers : denominator ≤ numerator * ceiling := by
    have next := Nat.lt_mul_div_succ (denominator + numerator - 1) positive
    rw [known, Nat.mul_add, Nat.mul_one] at next
    omega
  have several : 2 ≤ ceiling := by
    rw [← known, Nat.le_div_iff_mul_le positive]
    omega
  obtain ⟨-, most⟩ := Decimal.decimalLength_bounds (Nat.sub_pos_of_lt several)
  have power : denominator ≤ numerator * 10 ^ decimalLength (ceiling - 1) :=
    covers.trans (Nat.mul_le_mul_left _ (by omega))
  have covered : (denominator : ℚ) ≤ numerator * 10 ^ decimalLength (ceiling - 1) := by
    exact_mod_cast power
  rw [known, zpow_neg, zpow_natCast, le_div_iff₀ denominatorPositive,
    inv_mul_le_iff₀ (by positivity), mul_comm]
  exact covered

/-- The power of ten at which the search begins is at most the double. -/
theorem leading_le (positive : 0 < value.significand) :
    (10 : ℚ) ^ value.leading ≤ value.number := by
  have quotient : value.number = (value.significand * 2 ^ value.exponent.toNat : ℕ) /
      (2 ^ (-value.exponent).toNat : ℕ) := by
    rw [number, Double.zpow_eq_div two_ne_zero, mul_div_assoc']
    push_cast
    rfl
  have denominatorPositive : 0 < 2 ^ (-value.exponent).toNat := Nat.two_pow_pos _
  have numeratorPositive : 0 < value.significand * 2 ^ value.exponent.toNat :=
    Nat.mul_pos positive (Nat.two_pow_pos _)
  have known : value.leading =
      if 2 ^ (-value.exponent).toNat ≤ value.significand * 2 ^ value.exponent.toNat then
        (decimalLength (value.significand * 2 ^ value.exponent.toNat /
          2 ^ (-value.exponent).toNat) : ℤ) - 1
      else -(decimalLength ((2 ^ (-value.exponent).toNat +
        value.significand * 2 ^ value.exponent.toNat - 1) /
          (value.significand * 2 ^ value.exponent.toNat) - 1) : ℤ) := rfl
  rw [known, quotient]
  split_ifs with large
  · exact zpow_length_le denominatorPositive large
  · exact zpow_neg_length_le numeratorPositive (not_le.mp large)

/-- A grid of eighteen digits is so dense that rounding down stays nearest to the double. -/
theorem spacing_le (canonical : value.IsCanonical) :
    (value.scaled (value.leading - 17)).spacing ≤ value.unit (value.leading - 17) := by
  have unit : (0 : ℚ) < value.unit (value.leading - 17) :=
    Nat.cast_pos.mpr (value.unit_pos _)
  have binary : (0 : ℚ) < 2 ^ (value.exponent - 2) := zpow_pos two_pos _
  have bounded : (value.significand : ℚ) < 2 ^ 53 := by exact_mod_cast canonical.bounded
  have dense : (10 : ℚ) ^ (value.leading - 17) ≤ 2 ^ (value.exponent - 2) := by
    have least := leading_le canonical.positive
    have quarter : (2 : ℚ) ^ value.exponent = 4 * 2 ^ (value.exponent - 2) := by
      rw [zpow_sub₀ two_ne_zero]
      norm_num
      ring
    rw [zpow_sub₀ (by norm_num), div_le_iff₀ (by positivity)]
    calc (10 : ℚ) ^ value.leading
        ≤ value.significand * 2 ^ value.exponent := least
      _ ≤ 2 ^ 53 * (4 * 2 ^ (value.exponent - 2)) := by
          rw [← quarter]
          exact mul_le_mul_of_nonneg_right bounded.le (zpow_pos two_pos _).le
      _ ≤ 2 ^ (value.exponent - 2) * 10 ^ (17 : ℤ) := by
          have digits : (2 : ℚ) ^ 53 * 4 ≤ 10 ^ (17 : ℤ) := by norm_num
          nlinarith
  have ratio := value.spacing_eq (value.leading - 17)
  have atMost : ((value.scaled (value.leading - 17)).spacing : ℚ) /
      value.unit (value.leading - 17) ≤ 1 := by
    rw [ratio]
    exact (div_le_one binary).mpr dense
  exact_mod_cast (div_le_one unit).mp atMost

/-- **Rounding down on eighteen digits** stays nearest to the double. -/
theorem roundedDown_reads (canonical : value.IsCanonical) :
    value.Reads (⟨(value.scaled (value.leading - 17)).value /
      (value.scaled (value.leading - 17)).spacing, value.leading - 17⟩ : Decimal).number := by
  have quarters := value.quarters_le
  have positive := canonical.positive
  have dense := spacing_le canonical
  generalize value.leading - 17 = grid at dense ⊢
  have unit := value.unit_pos grid
  have spacing := value.spacing_pos grid
  have down := Nat.div_mul_le_self (value.scaled grid).value (value.scaled grid).spacing
  have up : (value.scaled grid).value < (value.scaled grid).value / (value.scaled grid).spacing *
      (value.scaled grid).spacing + (value.scaled grid).spacing := Nat.lt_div_mul_add spacing
  refine reads_of_between positive (.inl ?_) (.inl (down.trans_lt ?_))
  · have apart : (value.scaled grid).below + value.unit grid ≤ (value.scaled grid).value := by
      rw [scaled_below, scaled_value, ← Nat.succ_mul]
      exact Nat.mul_le_mul_right _ (by omega)
    omega
  · rw [scaled_above, scaled_value]
    exact Nat.mul_lt_mul_of_pos_right (by omega) unit

/-- The search ends with a decimal that is nearest to the double. -/
theorem shortestFrom_reads (canonical : value.IsCanonical) {remaining places : ℕ}
    (tries : remaining + places = 17) :
    value.Reads (value.shortestFrom value.leading remaining places).number := by
  induction remaining generalizing places with
  | zero =>
    have last : places = 17 := by omega
    subst last
    exact roundedDown_reads canonical
  | succ remaining ih =>
    unfold shortestFrom
    split
    · next decimal hit => exact hit?_reads canonical.positive hit
    · exact ih (by omega)

/-- **The shortest decimal is nearest to the double.** -/
theorem shortest_reads (canonical : value.IsCanonical) : value.Reads value.shortest.number := by
  have found : value.Reads (value.shortestFrom value.leading 17 0).number :=
    shortestFrom_reads canonical rfl
  unfold shortest
  rw [if_neg canonical.positive.ne']
  dsimp only
  split_ifs with ten
  · have same : (⟨1, (value.shortestFrom value.leading 17 0).exponent + 1⟩ : Decimal).number =
        (value.shortestFrom value.leading 17 0).number := by
      rw [Decimal.number, Decimal.number, ten, zpow_add₀ (by norm_num)]
      push_cast
      ring
    rw [same]
    exact found
  · exact found

end Dyadic

end MultipleShooting
