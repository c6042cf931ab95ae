/-
**The value of an expression.**

`Expr.value` gives an expression its value where every variable has one; it is what the compiled
expression computes. Read over the real numbers an expression need not have a value everywhere:

* `Expr.IsDefined`: no denominator is zero, logarithms have positive arguments, arcsine and
  arccosine arguments in `[-1, 1]`, no tangent stands where the cosine is zero, and the base of a
  power is positive, or zero under an exponent that is not negative, or negative under a whole
  exponent;
* `Expr.value_update_of_not_mentions`: a variable that does not occur does not change the value.
-/
import MultipleShooting.Expr.Compile
import MultipleShooting.Proofs.Number.Real

namespace MultipleShooting

namespace Expr

/-- The value of an expression whose variables have the given values. -/
def value {α : Type} [Number α] (values : String → α) : Expr α → α
  | var name => values name
  | const number => number
  | binary op left right => Number.applyBinary op (left.value values) (right.value values)
  | apply function argument => Number.applyElementary function (argument.value values)

/-! ### Variables -/

section Variables

variable {α : Type}

/-- A variable that does not occur does not change the value. -/
theorem value_update_of_not_mentions [Number α] {name : String} {expr : Expr α}
    (absent : expr.mentions name = false) (values : String → α) (number : α) :
    expr.value (Function.update values name number) = expr.value values := by
  induction expr with
  | var other =>
    have different : other ≠ name := by simpa [mentions] using absent
    exact Function.update_of_ne different _ _
  | const _ => rfl
  | binary op left right ihLeft ihRight =>
    rw [mentions, Bool.or_eq_false_iff] at absent
    rw [value, value, ihLeft absent.1, ihRight absent.2]
  | apply function argument ih => rw [value, value, ih absent]

end Variables

/-! ### Real values -/

section Real

variable {values : String → ℝ} {left right argument base exponent : Expr ℝ}

@[simp] theorem value_const (number : ℝ) : (const number).value values = number := rfl

@[simp] theorem value_add :
    (binary .add left right).value values = left.value values + right.value values := rfl

@[simp] theorem value_sub :
    (binary .sub left right).value values = left.value values - right.value values := rfl

@[simp] theorem value_mul :
    (binary .mul left right).value values = left.value values * right.value values := rfl

@[simp] theorem value_div :
    (binary .div left right).value values = left.value values / right.value values := rfl

@[simp] theorem value_pow :
    (binary .pow base exponent).value values = base.value values ^ exponent.value values := rfl

@[simp] theorem value_negated : argument.negated.value values = -argument.value values :=
  neg_one_mul _

/-- Where a real power is defined: the base is positive, or zero under an exponent that is not
negative, or negative under a whole exponent. -/
def PowerIsDefined (base exponent : ℝ) : Prop :=
  0 < base ∨ base = 0 ∧ 0 ≤ exponent ∨ base < 0 ∧ ∃ whole : ℤ, exponent = whole

/-- Where an operation on values is defined. -/
def OperationIsDefined : BinaryOp → ℝ → ℝ → Prop
  | .div, _, divisor => divisor ≠ 0
  | .pow, base, exponent => PowerIsDefined base exponent
  | _, _, _ => True

/-- Where an elementary function is defined. -/
def FunctionIsDefined : Elementary → ℝ → Prop
  | .ln, number => 0 < number
  | .tan, number => Real.cos number ≠ 0
  | .arcsin, number => -1 ≤ number ∧ number ≤ 1
  | .arccos, number => -1 ≤ number ∧ number ≤ 1
  | _, _ => True

/-- Every operation of the expression is defined at the values of its operands. -/
def IsDefined (values : String → ℝ) : Expr ℝ → Prop
  | var _ => True
  | const _ => True
  | binary op left right => left.IsDefined values ∧ right.IsDefined values ∧
      OperationIsDefined op (left.value values) (right.value values)
  | apply function argument => argument.IsDefined values ∧
      FunctionIsDefined function (argument.value values)

end Real

end Expr

end MultipleShooting
