/-
**Real numbers that may be undefined.**

The exact arithmetic of functions that are not defined everywhere. A value is a real number, or it
is undefined. An operation is undefined outside of its domain and wherever an operand is, and an
undefined value does not compare with anything, so a check for ordinary numbers finds it.
-/
import MultipleShooting.Proofs.Expr.Value

namespace MultipleShooting

/-- A real number, or the value of an operation that has none. -/
inductive PartialReal where
  | number (value : ℝ)
  | undefined

namespace PartialReal

/-- The number that a value is, and zero where it is undefined. -/
def toReal : PartialReal → ℝ
  | number value => value
  | undefined => 0

open Classical in
/-- A function inside of its domain. -/
noncomputable def lift (domain : ℝ → Prop) (f : ℝ → ℝ) : PartialReal → PartialReal
  | number value => if domain value then number (f value) else undefined
  | undefined => undefined

open Classical in
/-- An operation inside of its domain. -/
noncomputable def lift₂ (domain : ℝ → ℝ → Prop) (f : ℝ → ℝ → ℝ) :
    PartialReal → PartialReal → PartialReal
  | number left, number right => if domain left right then number (f left right) else undefined
  | _, _ => undefined

/-- Whether a relation holds of two values, both of which are numbers. -/
def Related (relation : ℝ → ℝ → Prop) : PartialReal → PartialReal → Prop
  | number left, number right => relation left right
  | _, _ => False

noncomputable instance : Number PartialReal where
  zero := number 0
  one := number 1
  add := lift₂ (fun _ _ => True) (· + ·)
  sub := lift₂ (fun _ _ => True) (· - ·)
  mul := lift₂ (fun _ _ => True) (· * ·)
  div := lift₂ (Expr.OperationIsDefined .div) (· / ·)
  neg := lift (fun _ => True) (-·)
  le := Related (· ≤ ·)
  lt := Related (· < ·)
  beq left right := @decide (Related (· = ·) left right) (Classical.propDecidable _)
  natCast n := number n
  ofScientific mantissa sign exponent :=
    number (Number.toOfScientific.ofScientific mantissa sign exponent)
  leDecidable := Classical.decRel _
  ltDecidable := Classical.decRel _
  abs := lift (fun _ => True) abs
  isFinite
    | number _ => true
    | undefined => false
  infinity := undefined
  pow := lift₂ Expr.PowerIsDefined (· ^ ·)
  exp := lift (fun _ => True) Real.exp
  log := lift (Expr.FunctionIsDefined .ln) Real.log
  sin := lift (fun _ => True) Real.sin
  cos := lift (fun _ => True) Real.cos
  tan := lift (Expr.FunctionIsDefined .tan) Real.tan
  arcsin := lift (Expr.FunctionIsDefined .arcsin) Real.arcsin
  arccos := lift (Expr.FunctionIsDefined .arccos) Real.arccos
  arctan := lift (fun _ => True) Real.arctan
  toExponent?
    | number value => realToExponent? value
    | undefined => none

@[simp] theorem number_zero : number 0 = 0 := rfl

@[simp] theorem number_add (left right : ℝ) : number left + number right = number (left + right) :=
  if_pos trivial

@[simp] theorem number_mul (left right : ℝ) : number left * number right = number (left * right) :=
  if_pos trivial

theorem number_div (left : ℝ) {right : ℝ} (divisor : right ≠ 0) :
    number left / number right = number (left / right) :=
  if_pos divisor

/-- A value is ordinary when it is a number. -/
theorem isFinite_iff {value : PartialReal} :
    Number.isFinite value = true ↔ number value.toReal = value := by
  cases value with
  | number value => exact iff_of_true rfl rfl
  | undefined => exact iff_of_false Bool.false_ne_true (fun same => by cases same)

end PartialReal

end MultipleShooting
