/-
**Polynomial models come with their derivatives.**

An expression that is made of variables and constants by sums, differences and products is a
polynomial. Everywhere its gradient consists of the values of its symbolic derivatives:

* `Expr.hasGradient_value`: the gradient of the value of a polynomial, by induction on the
  expression;
* `Dynamics.isDifferentiated_of_isPolynomial`, `InitialCondition.isDifferentiated_of_isPolynomial`:
  **the compiled functions of a polynomial model come with their true derivatives**.
-/
import MultipleShooting.Proofs.Expr.Partials
import MultipleShooting.Proofs.Model.Acceptance
import MultipleShooting.Proofs.Shooting.Derivative

namespace MultipleShooting

namespace Expr

/-- Variables and constants under sums, differences and products. -/
def IsPolynomial {α : Type} : Expr α → Prop
  | var _ => True
  | const _ => True
  | binary op left right =>
    (op = .add ∨ op = .sub ∨ op = .mul) ∧ left.IsPolynomial ∧ right.IsPolynomial
  | apply _ _ => False

variable {n : Nat} {arguments : Vector String n} {expr : Expr ℝ}

/-- The values of arguments are assigned to their names. -/
theorem assigns_argumentOf (arguments : Vector String n) (values : Vector ℝ n) :
    Assigns arguments values (argumentOf arguments values) := by
  intro position first
  unfold argumentOf
  rw [Vector.finIdxOf?_eq_some_iff.mpr ⟨rfl, first⟩]

/-- The values of the symbolic derivatives by the arguments. -/
noncomputable def slopes (arguments : Vector String n) (expr : Expr ℝ) (point : Vector ℝ n) :
    Vector ℝ n :=
  Vector.ofFn fun j => (expr.derivative (arguments.get j)).value (argumentOf arguments point)

/-- The gradient of a variable: one by its own place, if it is an argument at all. -/
theorem hasGradient_var (distinct : arguments.toList.Nodup) (name : String) (point : Vector ℝ n) :
    HasGradient (fun vector => argumentOf arguments vector name)
      ((var name).slopes arguments point) point := by
  rw [toList_eq_ofFn, List.nodup_ofFn] at distinct
  unfold argumentOf
  cases found : arguments.finIdxOf? name with
  | none =>
    have absent := Vector.finIdxOf?_eq_none_iff.mp found
    have flat : (var name).slopes arguments point = Column.zero n :=
      ext_get fun j => by
        have other : name ≠ arguments.get j := fun same => absent (same ▸ Vector.getElem_mem j.isLt)
        rw [slopes, Vector.get_ofFn, derivative, if_neg other, value_const, Column.get_zero]
    rw [flat]
    exact hasGradient_const 0 point
  | some position =>
    obtain ⟨rfl, -⟩ := Vector.finIdxOf?_eq_some_iff.mp found
    have unit : (var (arguments.get position)).slopes arguments point = Column.unit position :=
      ext_get fun j => by
        rw [slopes, Vector.get_ofFn, derivative, Column.get_unit]
        by_cases same : position = j
        · rw [if_pos same, same]
          exact congrArg (fun expr : Expr ℝ => expr.value _) (if_pos rfl)
        · rw [if_neg same, if_neg fun equal => same (distinct equal), value_const]
    rw [unit]
    exact hasGradient_get position point

/-- **The gradient of a polynomial** consists of its symbolic derivatives. -/
theorem hasGradient_value (distinct : arguments.toList.Nodup) (polynomial : expr.IsPolynomial)
    (point : Vector ℝ n) :
    HasGradient (fun vector => expr.value (argumentOf arguments vector))
      (expr.slopes arguments point) point := by
  induction expr with
  | var name => exact hasGradient_var distinct name point
  | const value =>
    have flat : (const value).slopes arguments point = Column.zero n :=
      ext_get fun j => by rw [slopes, Vector.get_ofFn, derivative, value_const, Column.get_zero]
    rw [flat]
    exact hasGradient_const value point
  | binary op left right ihLeft ihRight =>
    obtain ⟨rfl | rfl | rfl, first, second⟩ := polynomial
    · have sum : (binary .add left right).slopes arguments point =
          Column.add (left.slopes arguments point) (right.slopes arguments point) :=
        ext_get fun j => by simp [slopes, derivative]
      rw [sum]
      exact (ihLeft first).add (ihRight second)
    · have difference : (binary .sub left right).slopes arguments point =
          Column.sub (left.slopes arguments point) (right.slopes arguments point) :=
        ext_get fun j => by simp [slopes, derivative]
      rw [difference]
      exact (ihLeft first).sub (ihRight second)
    · have product : (binary .mul left right).slopes arguments point =
          Column.add
            (Column.scale (left.value (argumentOf arguments point)) (right.slopes arguments point))
            (Column.scale (right.value (argumentOf arguments point))
              (left.slopes arguments point)) :=
        ext_get fun j => by
          simp only [slopes, derivative, Vector.get_ofFn, value_add, value_mul, Column.get_add,
            Column.get_scale]
          ring
      rw [product]
      exact (ihLeft first).mul (ihRight second)
  | apply function argument => exact polynomial.elim

end Expr

/-- A function among compiled ones gives the value of its expression. -/
theorem get_valuesAt_compileAll {n m : Nat} {arguments : Vector String n} {exprs : List (Expr ℝ)}
    {functions : List (Compiled ℝ n)}
    (compiled : Expr.compileAll arguments exprs = .ok functions) {i : Fin m} {expr : Expr ℝ}
    (listed : exprs[i.val]? = some expr) (point : Vector ℝ n) :
    (valuesAt functions m point).get i = expr.value (Expr.argumentOf arguments point) := by
  have related := Expr.compileAll_eq_ok.mp compiled
  obtain ⟨inside, rfl⟩ := List.getElem?_eq_some_iff.mp listed
  have insideFunctions : i.val < functions.length := related.length_eq ▸ inside
  unfold valuesAt
  rw [Vector.get_ofFn, List.getElem?_eq_getElem insideFunctions]
  exact Expr.compile_value (related.get inside insideFunctions) point

/-! ### The functions of a model -/

/-- Rates, cost and initial condition are polynomials. -/
structure Model.IsPolynomial (model : Model ℝ) : Prop where
  dynamics : ∀ rate ∈ model.dynamics, rate.IsPolynomial
  cost : model.cost.IsPolynomial
  initial : ∀ residual ∈ model.initial, residual.IsPolynomial

variable {model : Model ℝ}

namespace Dynamics

variable {dynamics : Dynamics ℝ model.stateCount model.controlCount}

/-- **The compiled rates and cost** are the values of the expressions. -/
theorem values_of_ofModel (compiled : Dynamics.ofModel model = .ok dynamics)
    (point : Vector ℝ (model.stateCount + model.controlCount)) :
    (∀ (i : Fin model.stateCount) rate, model.dynamics[i.val]? = some rate →
      (dynamics.rate point).get i = rate.value (Expr.argumentOf model.argumentVector point)) ∧
    dynamics.cost point = model.cost.value (Expr.argumentOf model.argumentVector point) := by
  obtain ⟨functions, succeeded, rfl⟩ := map_eq_ok.mp compiled
  obtain ⟨rates, -, cost, -⟩ := CompiledDynamics.ofModel_eq_ok.mp succeeded
  exact ⟨fun i rate listed => get_valuesAt_compileAll rates listed point,
    Expr.compile_value cost point⟩

/-- **The compiled functions of a polynomial model** come with their true derivatives. -/
theorem isDifferentiated_of_isPolynomial (consistent : model.IsConsistent)
    (plain : ∀ name ∈ model.arguments, IsPlain name) (polynomial : model.IsPolynomial)
    (compiled : Dynamics.ofModel model = .ok dynamics) : dynamics.IsDifferentiated := by
  have values := values_of_ofModel compiled
  obtain ⟨functions, succeeded, rfl⟩ := map_eq_ok.mp compiled
  obtain ⟨jacobian, -⟩ := CompiledDynamics.columns_of_ofModel succeeded
  obtain ⟨-, -, -, gradient⟩ := CompiledDynamics.ofModel_eq_ok.mp succeeded
  rw [(Model.derivativeNames_eq_iff consistent.named).mpr plain] at jacobian gradient
  have distinct : model.argumentVector.toList.Nodup := consistent.distinct
  constructor
  · intro point i
    obtain ⟨rate, listed⟩ : ∃ rate, model.dynamics[i.val]? = some rate :=
      ⟨_, List.getElem?_eq_getElem (consistent.dynamics_length ▸ i.isLt)⟩
    have row : (functions.toDynamics.rateJacobian point).get i =
        rate.slopes model.argumentVector point :=
      ext_get fun j => by
        rw [Expr.slopes, Vector.get_ofFn]
        exact jacobian.get_dense (Expr.assigns_argumentOf _ point) listed
          (Model.getElem?_arguments j)
    simp only [(values _).1 i rate listed]
    rw [row]
    exact Expr.hasGradient_value distinct
      (polynomial.dynamics rate (List.mem_of_getElem? listed)) point
  · intro point
    have slope : functions.toDynamics.costGradient point =
        model.cost.slopes model.argumentVector point :=
      ext_get fun j => by
        have listed : (Expr.jacobianRow model.arguments model.cost)[j.val]? =
            some (model.cost.cell (model.argumentVector.get j)) := by
          rw [Expr.jacobianRow, List.getElem?_map, Model.getElem?_arguments]
          rfl
        rw [Expr.slopes, Vector.get_ofFn, ← Expr.value_cell]
        exact get_valuesAt_compileAll gradient listed point
    have cost : functions.toDynamics.cost =
        fun point => model.cost.value (Expr.argumentOf model.argumentVector point) :=
      funext fun point => (values point).2
    rw [slope, cost]
    exact Expr.hasGradient_value distinct polynomial.cost point

end Dynamics

namespace InitialCondition

variable {initial : InitialCondition ℝ model.stateCount}

/-- **The compiled initial condition of a polynomial model** comes with its true derivatives. -/
theorem isDifferentiated_of_isPolynomial (consistent : model.IsConsistent)
    (polynomial : model.IsPolynomial) (compiled : InitialCondition.ofModel model = .ok initial) :
    initial.IsDifferentiated := by
  have rowMajor := isRowMajor_pattern compiled
  obtain ⟨residual, matrix, compiledResidual, compiledMatrix, rfl⟩ := ofModel_eq_ok.mp compiled
  have jacobian := SparseFunction.isJacobian_of_ofFunctions compiledMatrix
  have distinct : model.stateVector.toList.Nodup := (List.nodup_append.mp consistent.distinct).1
  refine ⟨fun state i => ?_, fun state i j nonzero => ?_, rowMajor⟩
  · have listed : model.initial[i.val]? = some (model.initial.get i) :=
      List.getElem?_eq_getElem i.isLt
    have row : (matrix.dense model.initial.length model.stateCount state).get i =
        (model.initial.get i).slopes model.stateVector state :=
      ext_get fun j => by
        rw [Expr.slopes, Vector.get_ofFn]
        exact jacobian.get_dense (Expr.assigns_argumentOf _ state) listed
          (List.getElem?_eq_getElem j.isLt)
    simp only [get_valuesAt_compileAll compiledResidual listed]
    rw [row]
    exact Expr.hasGradient_value distinct
      (polynomial.initial _ (List.get_mem model.initial i)) state
  · by_contra absent
    exact nonzero (SparseFunction.get_dense_of_notMem absent)

end InitialCondition

end MultipleShooting
