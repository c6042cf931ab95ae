/-
**The symbolic derivative is the derivative.**

Where every operation of an expression is smooth, the value of its symbolic derivative is the
partial derivative of its value (`Expr.hasDerivAt_value`). The proof follows the expression:

* `Expr.hasDerivAt_applyElementary`, `Expr.value_chainRule`: an elementary function at a point, and
  the chain rule that is written for it;
* `Expr.hasDerivAt_power`, `Expr.hasDerivAt_constantPower`: a power with a positive base, and one
  whose exponent does not mention the variable. Only the first needs the logarithm of the base.
-/
import MultipleShooting.Expr.Derivative
import MultipleShooting.Proofs.Expr.Value
import Mathlib

namespace MultipleShooting

namespace Expr

/-! ### Elementary functions -/

/-- Where an elementary function is smooth. -/
def FunctionIsSmooth : Elementary → ℝ → Prop
  | .ln, number => 0 < number
  | .tan, number => Real.cos number ≠ 0
  | .arcsin, number => -1 < number ∧ number < 1
  | .arccos, number => -1 < number ∧ number < 1
  | _, _ => True

/-- The derivative of an elementary function at a point. -/
noncomputable def slopeOf : Elementary → ℝ → ℝ
  | .exp, number => Real.exp number
  | .ln, number => number⁻¹
  | .sin, number => Real.cos number
  | .cos, number => -Real.sin number
  | .tan, number => 1 / Real.cos number ^ 2
  | .arcsin, number => 1 / √(1 - number ^ 2)
  | .arccos, number => -(1 / √(1 - number ^ 2))
  | .arctan, number => 1 / (1 + number ^ 2)

theorem hasDerivAt_applyElementary {function : Elementary} {number : ℝ}
    (smooth : FunctionIsSmooth function number) :
    HasDerivAt (Number.applyElementary function) (slopeOf function number) number := by
  cases function with
  | exp => exact Real.hasDerivAt_exp number
  | ln => exact Real.hasDerivAt_log (ne_of_gt smooth)
  | sin => exact Real.hasDerivAt_sin number
  | cos => exact Real.hasDerivAt_cos number
  | tan => exact Real.hasDerivAt_tan smooth
  | arcsin => exact Real.hasDerivAt_arcsin smooth.1.ne' smooth.2.ne
  | arccos => exact Real.hasDerivAt_arccos smooth.1.ne' smooth.2.ne
  | arctan => exact Real.hasDerivAt_arctan number

/-- The chain rule as it is written multiplies the slope of the function by the inner derivative. -/
theorem value_chainRule (function : Elementary) (argument inner : Expr ℝ) (values : String → ℝ) :
    (chainRule function argument inner).value values =
      slopeOf function (argument.value values) * inner.value values := by
  have two : (2.0 : ℝ) = 2 := by norm_num
  have half : (0.5 : ℝ) = 1 / 2 := by norm_num
  have square (number : ℝ) : number ^ (2.0 : ℝ) = number ^ 2 := by rw [two, Real.rpow_two]
  have root (number : ℝ) : number ^ (0.5 : ℝ) = √number := by rw [half, Real.sqrt_eq_rpow]
  cases function with
  | exp => rfl
  | ln => exact div_eq_inv_mul _ _
  | sin => rfl
  | cos => exact congrArg (· * inner.value values) (@value_negated values (apply .sin argument))
  | tan =>
    show 1 / Real.cos (argument.value values) ^ (2.0 : ℝ) * _ = _
    rw [square]
    rfl
  | arcsin =>
    show inner.value values / (1 - argument.value values ^ (2.0 : ℝ)) ^ (0.5 : ℝ) = _
    rw [square, root]
    exact (one_div_mul_eq_div _ _).symm
  | arccos =>
    show inner.negated.value values / (1 - argument.value values ^ (2.0 : ℝ)) ^ (0.5 : ℝ) = _
    rw [square, root, value_negated, neg_div, slopeOf, neg_mul, one_div_mul_eq_div]
  | arctan =>
    show inner.value values / (1 + argument.value values ^ (2.0 : ℝ)) = _
    rw [square]
    exact (one_div_mul_eq_div _ _).symm

/-! ### Powers -/

/-- The power of two moving numbers, the base being positive. -/
theorem hasDerivAt_power {base exponent : ℝ → ℝ} {base' exponent' place : ℝ}
    (moves : HasDerivAt base base' place) (moves' : HasDerivAt exponent exponent' place)
    (positive : 0 < base place) :
    HasDerivAt (fun t => base t ^ exponent t)
      (exponent place * base place ^ (exponent place - 1) * base' +
        base place ^ exponent place * Real.log (base place) * exponent') place := by
  refine (moves.rpow moves' positive).congr_deriv ?_
  ring

/-- The power of a moving number whose exponent stays a whole number. -/
theorem hasDerivAt_constantPower {base : ℝ → ℝ} {base' place exponent : ℝ} {whole : ℤ}
    (moves : HasDerivAt base base' place) (isWhole : exponent = whole)
    (regular : base place ≠ 0 ∨ 1 ≤ whole) :
    HasDerivAt (fun t => base t ^ exponent) (exponent * base place ^ (exponent - 1) * base')
      place := by
  have inside : base place ≠ 0 ∨ 1 ≤ exponent := by
    refine regular.imp_right fun above => ?_
    rw [isWhole]
    exact_mod_cast above
  refine (moves.rpow_const inside).congr_deriv ?_
  ring

/-! ### Expressions -/

/-- Where an operation is smooth in a variable, which the second operand may mention. -/
def OperationIsSmooth (name : String) (op : BinaryOp) (base : ℝ) (right : Expr ℝ) (number : ℝ) :
    Prop :=
  match op with
  | .div => number ≠ 0
  | .pow => 0 < base ∨
      right.mentions name = false ∧ ∃ whole : ℤ, number = whole ∧ (base ≠ 0 ∨ 1 ≤ whole)
  | _ => True

/-- Every operation of the expression is smooth in a variable at the values of its operands. -/
def IsSmooth (name : String) (values : String → ℝ) : Expr ℝ → Prop
  | var _ => True
  | const _ => True
  | binary op left right => left.IsSmooth name values ∧ right.IsSmooth name values ∧
      OperationIsSmooth name op (left.value values) right (right.value values)
  | apply function argument => argument.IsSmooth name values ∧
      FunctionIsSmooth function (argument.value values)

section Binary

variable {name : String} {values : String → ℝ} {left right : Expr ℝ}

/-- The value of an expression as one of its variables moves. -/
noncomputable def along (name : String) (values : String → ℝ) (expr : Expr ℝ) (t : ℝ) : ℝ :=
  expr.value (Function.update values name t)

theorem along_self (expr : Expr ℝ) (name : String) (values : String → ℝ) :
    expr.along name values (values name) = expr.value values := by
  rw [along, Function.update_eq_self]

/-- A power moves as its symbolic derivative says. -/
theorem hasDerivAt_along_pow
    (moves : HasDerivAt (left.along name values) ((left.derivative name).value values)
      (values name))
    (moves' : HasDerivAt (right.along name values) ((right.derivative name).value values)
      (values name))
    (smooth : OperationIsSmooth name .pow (left.value values) right (right.value values)) :
    HasDerivAt ((binary .pow left right).along name values)
      (((binary .pow left right).derivative name).value values) (values name) := by
  by_cases mentioned : right.mentions name = true
  · have positive : 0 < left.value values := by
      rcases smooth with positive | ⟨absent, -⟩
      · exact positive
      · rw [mentioned] at absent
        cases absent
    rw [← left.along_self name] at positive
    refine (hasDerivAt_power moves moves' positive).congr_deriv ?_
    rw [derivative, if_pos mentioned, along_self, along_self]
    rfl
  · have absent : right.mentions name = false := Bool.eq_false_iff.mpr mentioned
    have still (t : ℝ) : right.along name values t = right.value values :=
      value_update_of_not_mentions absent values t
    have constant : (binary .pow left right).along name values =
        fun t => left.along name values t ^ right.value values :=
      funext fun t => congrArg (left.along name values t ^ ·) (still t)
    have reduced : ((binary .pow left right).derivative name).value values =
        right.value values * left.value values ^ (right.value values - 1) *
          (left.derivative name).value values := by
      rw [derivative, if_neg mentioned]
      rfl
    rw [constant, reduced]
    rcases smooth with positive | ⟨-, whole, isWhole, regular⟩
    · refine (moves.rpow_const (.inl ?_)).congr_deriv ?_
      · rw [along_self]
        exact ne_of_gt positive
      · rw [along_self]
        ring
    · rw [← left.along_self name] at regular ⊢
      exact hasDerivAt_constantPower moves isWhole regular

end Binary

/-- **The symbolic derivative is the derivative**: where an expression is smooth, the value of its
symbolic derivative is the partial derivative of its value. -/
theorem hasDerivAt_value {expr : Expr ℝ} {name : String} {values : String → ℝ}
    (smooth : expr.IsSmooth name values) :
    HasDerivAt (fun t => expr.value (Function.update values name t))
      ((expr.derivative name).value values) (values name) := by
  show HasDerivAt (expr.along name values) _ _
  induction expr with
  | var other =>
    by_cases same : other = name
    · subst same
      have moving : (var other : Expr ℝ).along other values = fun t => t :=
        funext fun t => Function.update_self _ _ _
      rw [moving, derivative, if_pos rfl]
      exact hasDerivAt_id _
    · have still : (var other : Expr ℝ).along name values = fun _ => values other :=
        funext fun t => Function.update_of_ne same _ _
      rw [still, derivative, if_neg same]
      exact hasDerivAt_const _ _
  | const number => exact hasDerivAt_const _ _
  | binary op left right ihLeft ihRight =>
    obtain ⟨smoothLeft, smoothRight, operation⟩ := smooth
    have first := ihLeft smoothLeft
    have second := ihRight smoothRight
    cases op with
    | add => exact first.fun_add second
    | sub => exact first.fun_sub second
    | mul =>
      refine (first.fun_mul second).congr_deriv ?_
      rw [along_self, along_self]
      rfl
    | div =>
      have divisor : right.along name values (values name) ≠ 0 := by
        rw [along_self]
        exact operation
      refine (first.fun_div second divisor).congr_deriv ?_
      rw [along_self, along_self, derivative, value_div, value_sub, value_mul, value_mul, value_mul,
        sq, mul_comm (left.value values)]
    | pow => exact hasDerivAt_along_pow first second operation
  | apply function argument ih =>
    obtain ⟨smoothArgument, applied⟩ := smooth
    rw [← argument.along_self name] at applied
    refine ((hasDerivAt_applyElementary applied).comp _ (ih smoothArgument)).congr_deriv ?_
    rw [along_self, derivative, value_chainRule]

/-- The reciprocal of a variable as a power, and a power with the variable as its exponent. -/
def reciprocalAndPower : Expr ℝ :=
  binary .add (binary .pow (var "x") (const (-1))) (binary .pow (apply .exp (var "x")) (var "x"))

/-- A base below zero under a whole exponent, and a moving exponent over a positive base. -/
theorem hasDerivAt_value_reciprocalAndPower : reciprocalAndPower.IsSmooth "x" (fun _ => -1) ∧
    HasDerivAt (fun t => reciprocalAndPower.value (Function.update (fun _ => -1) "x" t))
      ((reciprocalAndPower.derivative "x").value fun _ => -1) (-1) := by
  have reciprocal : OperationIsSmooth "x" .pow (-1) (const (-1)) (-1) :=
    .inr ⟨rfl, -1, by norm_num, .inl (by norm_num)⟩
  have power : OperationIsSmooth "x" .pow (Real.exp (-1)) (var "x") (-1) := .inl (Real.exp_pos _)
  have smooth : reciprocalAndPower.IsSmooth "x" (fun _ => -1) :=
    ⟨⟨trivial, trivial, reciprocal⟩, ⟨⟨trivial, trivial⟩, trivial, power⟩, trivial⟩
  exact ⟨smooth, hasDerivAt_value smooth⟩

end Expr

end MultipleShooting
