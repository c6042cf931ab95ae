/-
**Bounds of doubles.**

* `Bound.crossed_ofNumber`: bounds given as doubles do not cross exactly when they are numbers in
  their order;
* `Bound.within_clamp`: clamping leads between bounds that do not cross, from every double, be it
  infinite or a NaN.
-/
import MultipleShooting.Bound
import MultipleShooting.Proofs.Number.Order

namespace MultipleShooting

namespace Bound

/-- A double lies between two bounds. -/
def Within (lower upper : Bound Float) (value : Float) : Prop :=
  lower.toNumber ≤ value ∧ value ≤ upper.toNumber

open Double

/-! ### Bounds as numbers -/

theorem isNaN_toNumber (bound : Bound Float) : Number.isNaN bound.toNumber = bound.isNaN := by
  cases bound with
  | minusInfinity => exact isNaN_neg_infinity
  | limit value => rfl
  | plusInfinity => exact isNaN_infinity

/-- Bounds that do not cross are numbers in their order. -/
theorem toNumber_le {lower upper : Bound Float} (apart : lower.crossed upper = false) :
    lower.toNumber ≤ upper.toNumber := by
  unfold crossed at apart
  rw [Bool.or_eq_false_iff, Bool.or_eq_false_iff] at apart
  obtain ⟨⟨lowerNumber, upperNumber⟩, ordered⟩ := apart
  cases lower with
  | minusInfinity => exact neg_infinity_le ((isNaN_toNumber upper).trans upperNumber)
  | plusInfinity =>
    cases upper with
    | minusInfinity => cases ordered
    | limit most =>
      have undefined : (limit most).isNaN = true := Bool.not_eq_false' _ ▸ ordered
      rw [upperNumber] at undefined
      cases undefined
    | plusInfinity => exact le_refl isNaN_infinity
  | limit least =>
    cases upper with
    | minusInfinity =>
      have undefined : (limit least).isNaN = true := Bool.not_eq_false' _ ▸ ordered
      rw [lowerNumber] at undefined
      cases undefined
    | limit most => exact le_of_not_lt lowerNumber upperNumber (of_decide_eq_false ordered)
    | plusInfinity => exact le_infinity lowerNumber

/-! ### Bounds given as doubles -/

theorem toNumber_ofNumber (value : Float) : (ofNumber value).toNumber = value := by
  unfold ofNumber
  split_ifs with plain negative
  · rfl
  · obtain ⟨infinite, number⟩ := Bool.or_eq_false_iff.mp (Bool.not_eq_true _ ▸ plain)
    refine ((eq_infinity_of_not_isFinite infinite number).resolve_left ?_).symm
    rintro rfl
    exact lt_asymm (lt_iff.mp negative).2.2 (lt_iff.mp (lt_infinity isFinite_zero)).2.2
  · obtain ⟨infinite, number⟩ := Bool.or_eq_false_iff.mp (Bool.not_eq_true _ ▸ plain)
    refine ((eq_infinity_of_not_isFinite infinite number).resolve_right ?_).symm
    rintro rfl
    exact negative (neg_infinity_lt isFinite_zero)

theorem isNaN_ofNumber (value : Float) : (ofNumber value).isNaN = Number.isNaN value := by
  rw [← isNaN_toNumber, toNumber_ofNumber]

/-- A limit that is a number is an ordinary one. -/
theorem isFinite_of_ofNumber {value bound : Float} (same : ofNumber value = limit bound)
    (number : Number.isNaN bound = false) : bound = value ∧ Number.isFinite bound = true := by
  have value_eq : value = bound := by rw [← toNumber_ofNumber value, same, toNumber]
  subst value_eq
  unfold ofNumber at same
  split_ifs at same with plain
  rw [number, Bool.or_false] at plain
  exact ⟨rfl, plain⟩

/-- A lower bound exceeds an upper bound only if it is the larger double. -/
theorem lt_of_exceeds {lower upper : Float}
    (beyond : (ofNumber lower).exceeds (ofNumber upper) = true) : upper < lower := by
  rw [← toNumber_ofNumber lower, ← toNumber_ofNumber upper]
  cases below : ofNumber lower with
  | minusInfinity =>
    rw [below] at beyond
    cases beyond
  | limit least =>
    cases above : ofNumber upper with
    | minusInfinity =>
      rw [below, above] at beyond
      exact neg_infinity_lt (isFinite_of_ofNumber below (by simpa [exceeds, isNaN] using beyond)).2
    | limit most =>
      rw [below, above] at beyond
      exact of_decide_eq_true beyond
    | plusInfinity =>
      rw [below, above] at beyond
      cases beyond
  | plusInfinity =>
    cases above : ofNumber upper with
    | minusInfinity => exact neg_infinity_lt_infinity
    | limit most =>
      rw [below, above] at beyond
      exact lt_infinity (isFinite_of_ofNumber above (by simpa [exceeds, isNaN] using beyond)).2
    | plusInfinity =>
      rw [below, above] at beyond
      cases beyond

/-- **Bounds given as doubles do not cross** exactly when they are numbers in their order. -/
theorem crossed_ofNumber {lower upper : Float} :
    (ofNumber lower).crossed (ofNumber upper) = false ↔
      Number.isNaN lower = false ∧ Number.isNaN upper = false ∧ lower ≤ upper := by
  constructor
  · intro apart
    have ordered := toNumber_le apart
    rw [toNumber_ofNumber, toNumber_ofNumber] at ordered
    exact ⟨isNaN_eq_false_iff.mpr (le_iff.mp ordered).1, isNaN_of_le ordered, ordered⟩
  · rintro ⟨lowerNumber, upperNumber, ordered⟩
    have apart : (ofNumber lower).exceeds (ofNumber upper) = false := by
      by_contra exceeds
      have beyond := lt_of_exceeds (Bool.not_eq_false _ ▸ exceeds)
      exact not_lt.mpr (le_iff.mp ordered).2.2 (lt_iff.mp beyond).2.2
    rw [crossed, isNaN_ofNumber, isNaN_ofNumber, lowerNumber, upperNumber, apart]
    rfl

/-! ### Clamping -/

/-- Raising leads to the lower bound or above. -/
theorem le_raise (lower : Bound Float) (value : Float) (number : lower.isNaN = false) :
    lower.toNumber ≤ lower.raise value := by
  cases lower with
  | minusInfinity =>
    unfold raise
    dsimp only
    split_ifs with undefined
    · exact le_refl isNaN_neg_infinity
    · exact neg_infinity_le (by simpa using undefined)
  | limit least => exact le_larger value number
  | plusInfinity => exact le_refl isNaN_infinity

/-- **Clamping leads between the bounds.** -/
theorem within_clamp {lower upper : Bound Float} (apart : lower.crossed upper = false)
    (value : Float) : Within lower upper (clamp lower upper value) := by
  have ordered := toNumber_le apart
  have upperNumber := isNaN_of_le ordered
  have lowerNumber : lower.isNaN = false :=
    (isNaN_toNumber lower).symm.trans (isNaN_eq_false_iff.mpr (le_iff.mp ordered).1)
  have raised := le_raise lower value lowerNumber
  have number := isNaN_of_le raised
  unfold clamp
  generalize lower.raise value = value at raised number ⊢
  cases upper with
  | minusInfinity => exact ⟨ordered, le_refl isNaN_neg_infinity⟩
  | limit most => exact ⟨le_smaller raised ordered, smaller_le value upperNumber⟩
  | plusInfinity =>
    have kept : plusInfinity.lower value = value := by
      show (if Number.isNaN value then Number.infinity else value) = value
      rw [number]
      rfl
    rw [Within, kept]
    exact ⟨raised, le_infinity number⟩

end Bound

end MultipleShooting
