/-
**Real numbers as numbers.**

The exact arithmetic in which models, integrators and solvers are read: the field operations and the
elementary functions of `ℝ`, every value being an ordinary number. There is no value beyond all
others, and bounds keep the infinities apart from the numbers, so `infinity` is never met by a
program whose lower bounds are not `+∞` and whose upper bounds are not `-∞`.

* `Number.larger_real`, `Number.smaller_real`: no operand is dropped from a maximum or minimum.
-/
import MultipleShooting.Number.Basic
import Mathlib.Analysis.SpecialFunctions.Pow.Real
import Mathlib.Analysis.SpecialFunctions.Trigonometric.Arctan
import Mathlib.Analysis.SpecialFunctions.Trigonometric.Inverse

namespace MultipleShooting

open Classical in
/-- The integer that a real number is, if it is one of magnitude at most `2147483647`. -/
noncomputable def realToExponent? (value : ℝ) : Option Int :=
  if (⌊value⌋ : ℝ) = value ∧ |value| ≤ 2147483647 then some ⌊value⌋ else none

-- A quotient of real numbers is that of the field, whichever of the two structures is found first.
noncomputable instance realQuotient : Div ℝ := DivInvMonoid.toDiv

noncomputable instance : Number ℝ where
  beq left right := @decide (left = right) (Classical.propDecidable _)
  leDecidable := Classical.decRel _
  ltDecidable := Classical.decRel _
  abs value := |value|
  isFinite _ := true
  infinity := 0
  pow base exponent := base ^ exponent
  exp := Real.exp
  log := Real.log
  sin := Real.sin
  cos := Real.cos
  tan := Real.tan
  arcsin := Real.arcsin
  arccos := Real.arccos
  arctan := Real.arctan
  toExponent? := realToExponent?

namespace Number

/-- Real numbers are equal exactly when they compare as equal. -/
@[simp] theorem beq_real (left right : ℝ) : (left == right) = true ↔ left = right :=
  @decide_eq_true_iff (left = right) (Classical.propDecidable _)

@[simp] theorem isFinite_real (value : ℝ) : Number.isFinite value = true := rfl

@[simp] theorem abs_real (value : ℝ) : Number.abs value = |value| := rfl

@[simp] theorem isNaN_real (value : ℝ) : Number.isNaN value = false := by
  have same : (value == value) = true := (beq_real value value).mpr rfl
  unfold Number.isNaN
  rw [same]
  rfl

@[simp] theorem larger_real (left right : ℝ) : Number.larger left right = max left right := by
  unfold Number.larger
  rw [isNaN_real, isNaN_real, if_neg Bool.false_ne_true, if_neg Bool.false_ne_true]
  by_cases above : right < left
  · rw [if_pos above]
    exact (max_eq_left above.le).symm
  · rw [if_neg above]
    exact (max_eq_right (not_lt.mp above)).symm

@[simp] theorem smaller_real (left right : ℝ) : Number.smaller left right = min left right := by
  unfold Number.smaller
  rw [isNaN_real, isNaN_real, if_neg Bool.false_ne_true, if_neg Bool.false_ne_true]
  by_cases below : left < right
  · rw [if_pos below]
    exact (min_eq_left below.le).symm
  · rw [if_neg below]
    exact (min_eq_right (not_lt.mp below)).symm

end Number

end MultipleShooting
