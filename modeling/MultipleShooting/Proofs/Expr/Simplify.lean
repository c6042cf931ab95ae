/-
**Simplification keeps the meaning.**

`Expr.simplify_preserves`: where an expression over the real numbers is defined, its simplification
is defined and has the same value, and no variable occurs that did not occur before.

One pass rebuilds every node from simplified operands:

* `Expr.Rewrites`, `Expr.Folds`: what can become of an operation and of an elementary function on
  simplified operands, one rule a constructor (`Expr.rewrites_simpleBinary`,
  `Expr.folds_simpleApply`);
* every rule keeps the value (`Expr.Rewrites.value_eq`), keeps what is defined
  (`Expr.Rewrites.isDefined`) and brings in no variable (`Expr.Rewrites.mentions`).
-/
import MultipleShooting.Expr.Simplify
import MultipleShooting.Proofs.Expr.Value

namespace MultipleShooting

namespace Expr

/-! ### Rules -/

section Rules

variable {α : Type} [Number α]

/-- What a binary operation on simplified operands may be rewritten to. -/
inductive Rewrites : BinaryOp → Expr α → Expr α → Expr α → Prop
  | addConstants (a b : α) : Rewrites .add (const a) (const b) (const (a + b))
  | zeroAdd {left right : Expr α} (zero : left.isZero = true) : Rewrites .add left right right
  | addZero {left right : Expr α} (zero : right.isZero = true) : Rewrites .add left right left
  | subConstants (a b : α) : Rewrites .sub (const a) (const b) (const (a - b))
  | subZero {left right : Expr α} (zero : right.isZero = true) : Rewrites .sub left right left
  | zeroSub {left right : Expr α} (zero : left.isZero = true) :
      Rewrites .sub left right right.negated
  | subSame {left right : Expr α} (same : left.same right = true) :
      Rewrites .sub left right (const 0)
  | mulConstants (a b : α) : Rewrites .mul (const a) (const b) (const (a * b))
  | zeroMul {left right : Expr α} (zero : left.isZero = true) : Rewrites .mul left right (const 0)
  | mulZero {left right : Expr α} (zero : right.isZero = true) : Rewrites .mul left right (const 0)
  | oneMul {left right : Expr α} (one : left.isOne = true) : Rewrites .mul left right right
  | mulOne {left right : Expr α} (one : right.isOne = true) : Rewrites .mul left right left
  | joinFactors (a b : α) (factor : Expr α) :
      Rewrites .mul (const a) (binary .mul (const b) factor) (binary .mul (const (a * b)) factor)
  | divConstants (a b : α) (divisor : (b == 0) = false) :
      Rewrites .div (const a) (const b) (const (a / b))
  | zeroDiv {left right : Expr α} (zero : left.isZero = true) (divisor : right.isZero = false) :
      Rewrites .div left right (const 0)
  | divOne {left right : Expr α} (one : right.isOne = true) : Rewrites .div left right left
  | powConstants (a b : α) : Rewrites .pow (const a) (const b) (const (Number.pow a b))
  | powZero {left right : Expr α} (zero : right.isZero = true) : Rewrites .pow left right (const 1)
  | powOne {left right : Expr α} (one : right.isOne = true) : Rewrites .pow left right left
  | keep (op : BinaryOp) (left right : Expr α) : Rewrites op left right (binary op left right)

/-- What an elementary function of a simplified argument may be rewritten to. -/
inductive Folds : Elementary → Expr α → Expr α → Prop
  | exp (a : α) : Folds .exp (const a) (const (Number.exp a))
  | ln (a : α) (positive : 0 < a) : Folds .ln (const a) (const (Number.log a))
  | sin (a : α) : Folds .sin (const a) (const (Number.sin a))
  | cos (a : α) : Folds .cos (const a) (const (Number.cos a))
  | keep (function : Elementary) (argument : Expr α) :
      Folds function argument (apply function argument)

theorem rewrites_simpleSum (left right : Expr α) :
    Rewrites .add left right (simpleSum left right) := by
  unfold simpleSum
  split
  · exact .addConstants _ _
  · split_ifs with leftZero rightZero
    · exact .zeroAdd leftZero
    · exact .addZero rightZero
    · exact .keep _ _ _

theorem rewrites_simpleDifference (left right : Expr α) :
    Rewrites .sub left right (simpleDifference left right) := by
  unfold simpleDifference
  split
  · exact .subConstants _ _
  · split_ifs with rightZero leftZero equal
    · exact .subZero rightZero
    · exact .zeroSub leftZero
    · exact .subSame equal
    · exact .keep _ _ _

theorem rewrites_simpleProduct (left right : Expr α) :
    Rewrites .mul left right (simpleProduct left right) := by
  unfold simpleProduct
  split
  · exact .mulConstants _ _
  · split_ifs with zero leftOne rightOne
    · rcases Bool.or_eq_true _ _ ▸ zero with leftZero | rightZero
      · exact .zeroMul leftZero
      · exact .mulZero rightZero
    · exact .oneMul leftOne
    · exact .mulOne rightOne
    · split
      · exact .joinFactors _ _ _
      · exact .keep _ _ _

theorem rewrites_simpleQuotient (left right : Expr α) :
    Rewrites .div left right (simpleQuotient left right) := by
  have unfolded : Rewrites .div left right
      (if left.isZero && !right.isZero then const 0
        else if right.isOne then left else binary .div left right) := by
    split_ifs with zero one
    · rw [Bool.and_eq_true, Bool.not_eq_true'] at zero
      exact .zeroDiv zero.1 zero.2
    · exact .divOne one
    · exact .keep _ _ _
  simp only [simpleQuotient]
  generalize (if left.isZero && !right.isZero then const 0
    else if right.isOne then left else binary .div left right) = rest at unfolded ⊢
  split
  · split_ifs with divisor
    · exact unfolded
    · exact .divConstants _ _ (Bool.eq_false_iff.mpr divisor)
  · exact unfolded

theorem rewrites_simplePower (base exponent : Expr α) :
    Rewrites .pow base exponent (simplePower base exponent) := by
  unfold simplePower
  split
  · exact .powConstants _ _
  · split_ifs with zero one
    · exact .powZero zero
    · exact .powOne one
    · exact .keep _ _ _

/-- An operation on simplified operands is rewritten by one of the rules. -/
theorem rewrites_simpleBinary (op : BinaryOp) (left right : Expr α) :
    Rewrites op left right (simpleBinary op left right) := by
  cases op with
  | add => exact rewrites_simpleSum left right
  | sub => exact rewrites_simpleDifference left right
  | mul => exact rewrites_simpleProduct left right
  | div => exact rewrites_simpleQuotient left right
  | pow => exact rewrites_simplePower left right

/-- A function of a simplified argument is rewritten by one of the rules. -/
theorem folds_simpleApply (function : Elementary) (argument : Expr α) :
    Folds function argument (simpleApply function argument) := by
  unfold simpleApply
  split
  · exact .exp _
  · split_ifs with positive
    · exact .ln _ positive
    · exact .keep _ _
  · exact .sin _
  · exact .cos _
  · exact .keep _ _

/-! ### Variables -/

/-- No rule brings in a variable. -/
theorem Rewrites.mentions {op : BinaryOp} {left right result : Expr α} {name : String}
    (rewritten : Rewrites op left right result) (occurs : result.mentions name = true) :
    left.mentions name = true ∨ right.mentions name = true := by
  rw [← Bool.or_eq_true]
  cases rewritten with
  | zeroAdd _ | oneMul _ => rw [occurs, Bool.or_true]
  | addZero _ | subZero _ | mulOne _ | divOne _ | powOne _ => rw [occurs, Bool.true_or]
  | zeroSub _ =>
    have inside : right.mentions name = true := by simpa [negated, Expr.mentions] using occurs
    rw [inside, Bool.or_true]
  | joinFactors a b factor => exact occurs
  | keep op left right => exact occurs
  | _ => cases occurs

theorem Folds.mentions {function : Elementary} {argument result : Expr α} {name : String}
    (folded : Folds function argument result) (occurs : result.mentions name = true) :
    argument.mentions name = true := by
  cases folded with
  | keep function argument => exact occurs
  | _ => cases occurs

/-- Simplification brings in no variable. -/
theorem mentions_of_mentions_simplify {expr : Expr α} {name : String}
    (occurs : expr.simplify.mentions name = true) : expr.mentions name = true := by
  induction expr with
  | var other => exact occurs
  | const value => exact occurs
  | binary op left right ihLeft ihRight =>
    rw [Expr.mentions, Bool.or_eq_true]
    exact ((rewrites_simpleBinary op _ _).mentions occurs).imp ihLeft ihRight
  | apply function argument ih => exact ih ((folds_simpleApply function _).mentions occurs)

end Rules

/-! ### Real values -/

section Real

variable {values : String → ℝ} {op : BinaryOp} {function : Elementary}
  {left right argument result expr other : Expr ℝ}

/-- An expression is recognised as zero only if it is that constant. -/
theorem isZero_real : expr.isZero = true ↔ expr = const 0 := by
  cases expr <;> simp [isZero]

/-- An expression is recognised as one only if it is that constant. -/
theorem isOne_real : expr.isOne = true ↔ expr = const 1 := by
  cases expr <;> simp [isOne]

/-- Trees that compare as equal are equal. -/
theorem same_real : expr.same other = true ↔ expr = other := by
  induction expr generalizing other with
  | var name => cases other <;> simp [same]
  | const value => cases other <;> simp [same]
  | binary op left right ihLeft ihRight => cases other <;> simp [same, ihLeft, ihRight, and_assoc]
  | apply function argument ih => cases other <;> simp [same, ih]

/-- Every rule keeps the value. -/
theorem Rewrites.value_eq (rewritten : Rewrites op left right result) :
    result.value values = (binary op left right).value values := by
  cases rewritten with
  | addConstants a b | subConstants a b | mulConstants a b | powConstants a b => rfl
  | divConstants a b _ => rfl
  | keep op left right => rfl
  | zeroAdd zero => rw [isZero_real.mp zero, value_add, value_const, zero_add]
  | addZero zero => rw [isZero_real.mp zero, value_add, value_const, add_zero]
  | subZero zero => rw [isZero_real.mp zero, value_sub, value_const, sub_zero]
  | zeroSub zero => rw [isZero_real.mp zero, value_negated, value_sub, value_const, zero_sub]
  | subSame same => rw [same_real.mp same, value_sub, value_const, sub_self]
  | zeroMul zero => rw [isZero_real.mp zero, value_mul, value_const, zero_mul]
  | mulZero zero => rw [isZero_real.mp zero, value_mul, value_const, mul_zero]
  | oneMul one => rw [isOne_real.mp one, value_mul, value_const, one_mul]
  | mulOne one => rw [isOne_real.mp one, value_mul, value_const, mul_one]
  | joinFactors a b factor => exact mul_assoc a b (factor.value values)
  | zeroDiv zero _ => rw [isZero_real.mp zero, value_div, value_const, zero_div]
  | divOne one => rw [isOne_real.mp one, value_div, value_const, div_one]
  | powZero zero => rw [isZero_real.mp zero, value_pow, value_const, value_const, Real.rpow_zero]
  | powOne one => rw [isOne_real.mp one, value_pow, value_const, Real.rpow_one]

theorem Folds.value_eq (folded : Folds function argument result) :
    result.value values = (apply function argument).value values := by
  cases folded <;> rfl

/-- Every rule keeps what is defined. -/
theorem Rewrites.isDefined (rewritten : Rewrites op left right result)
    (defined : (binary op left right).IsDefined values) : result.IsDefined values := by
  obtain ⟨definedLeft, definedRight, operation⟩ := defined
  cases rewritten with
  | zeroAdd _ | oneMul _ => exact definedRight
  | addZero _ | subZero _ | mulOne _ | divOne _ | powOne _ => exact definedLeft
  | zeroSub _ => exact ⟨trivial, definedRight, trivial⟩
  | joinFactors a b factor => exact ⟨trivial, definedRight.2.1, trivial⟩
  | keep op left right => exact ⟨definedLeft, definedRight, operation⟩
  | _ => trivial

theorem Folds.isDefined (folded : Folds function argument result)
    (defined : (apply function argument).IsDefined values) : result.IsDefined values := by
  cases folded with
  | keep function argument => exact defined
  | _ => trivial

/-- Simplification keeps the value. -/
theorem value_simplify (expr : Expr ℝ) : expr.simplify.value values = expr.value values := by
  induction expr with
  | var name => rfl
  | const number => rfl
  | binary op left right ihLeft ihRight =>
    calc (simpleBinary op left.simplify right.simplify).value values
        = (binary op left.simplify right.simplify).value values :=
          (rewrites_simpleBinary op _ _).value_eq
      _ = (binary op left right).value values := by rw [value, ihLeft, ihRight, value]
  | apply function argument ih =>
    calc (simpleApply function argument.simplify).value values
        = (apply function argument.simplify).value values := (folds_simpleApply function _).value_eq
      _ = (apply function argument).value values := by rw [value, ih, value]

/-- Simplification keeps what is defined. -/
theorem isDefined_simplify (defined : expr.IsDefined values) : expr.simplify.IsDefined values := by
  induction expr with
  | var name => trivial
  | const number => trivial
  | binary op left right ihLeft ihRight =>
    obtain ⟨definedLeft, definedRight, operation⟩ := defined
    refine (rewrites_simpleBinary op _ _).isDefined ⟨ihLeft definedLeft, ihRight definedRight, ?_⟩
    rw [value_simplify, value_simplify]
    exact operation
  | apply function argument ih =>
    obtain ⟨definedArgument, applied⟩ := defined
    refine (folds_simpleApply function _).isDefined ⟨ih definedArgument, ?_⟩
    rw [value_simplify]
    exact applied

end Real

/-- **Simplification keeps the meaning**: no variable is brought in, and where the expression is
defined, the simplified one is defined and has its value. -/
theorem simplify_preserves (expr : Expr ℝ) :
    (∀ name, expr.simplify.mentions name = true → expr.mentions name = true) ∧
      ∀ values, expr.IsDefined values →
        expr.simplify.IsDefined values ∧ expr.simplify.value values = expr.value values :=
  ⟨fun _ occurs => mentions_of_mentions_simplify occurs,
    fun _ defined => ⟨isDefined_simplify defined, value_simplify expr⟩⟩

/-- A logarithm with two factors under a minus sign. -/
def negativeLogarithm : Expr ℝ :=
  binary .sub (const 0) (binary .mul (const (-1)) (binary .mul (const (-1)) (apply .ln (var "x"))))

/-- The factors are joined and the difference becomes a product, where the logarithm is defined. -/
theorem simplify_preserves_negativeLogarithm :
    negativeLogarithm.simplify =
      (binary .mul (const (-1 * -1)) (apply .ln (var "x")) : Expr ℝ).negated ∧
    negativeLogarithm.IsDefined (fun _ => 1) ∧ negativeLogarithm.simplify.IsDefined (fun _ => 1) ∧
      negativeLogarithm.simplify.value (fun _ => 1) = negativeLogarithm.value fun _ => 1 := by
  have defined : negativeLogarithm.IsDefined (fun _ => 1) :=
    ⟨trivial, ⟨trivial, ⟨trivial, ⟨trivial, one_pos⟩, trivial⟩, trivial⟩, trivial⟩
  have notOne : (-1 : ℝ) ≠ 1 := by norm_num
  refine ⟨?_, defined, (simplify_preserves negativeLogarithm).2 _ defined⟩
  simp [negativeLogarithm, simplify, simpleBinary, simpleDifference, simpleProduct, simpleApply,
    isZero, isOne, notOne]

end Expr

end MultipleShooting
