/-
**The Hessian of quadratic functions.**

Read over the real numbers, for a program whose objective and constraints are polynomials and that
gives their exact first derivatives wherever it can be evaluated:

* `get_gradientAt`: the gradient of the Lagrangian consists of the partial derivatives of one
  polynomial, the objective with the constraints weighted by the multipliers;
* `hasAffineGradient_polynomial`: with polynomials of degree two at most that gradient is affine;
* `hessian_exact`: **the Hessian that the solver forms is then the one of the Lagrangian**, however
  forward and backward differences are mixed, and for every program it is symmetric.
-/
import MultipleShooting.Proofs.Linear.Polynomial
import MultipleShooting.Proofs.Sqp.Hessian

namespace MultipleShooting

open Matrix MvPolynomial

variable {n m : Nat}

/-! ### Polynomial programs -/

/-- Polynomials as objective and constraints. -/
structure PolynomialProgram (n m : Nat) where
  objective : MvPolynomial (Fin n) ℝ
  rows : Fin m → MvPolynomial (Fin n) ℝ

namespace PolynomialProgram

/-- No polynomial has a higher degree than the given one. -/
structure HasDegree (program : PolynomialProgram n m) (degree : Nat) : Prop where
  objective : program.objective.totalDegree ≤ degree
  rows : ∀ r, (program.rows r).totalDegree ≤ degree

/-- The objective with the constraints weighted by their multipliers. -/
noncomputable def lagrangian (program : PolynomialProgram n m) (multipliers : Vector ℝ m) :
    MvPolynomial (Fin n) ℝ :=
  program.objective + ∑ r, C (multipliers.get r) * program.rows r

theorem HasDegree.lagrangian {program : PolynomialProgram n m} {degree : Nat}
    (small : program.HasDegree degree) (multipliers : Vector ℝ m) :
    (program.lagrangian multipliers).totalDegree ≤ degree := by
  refine (totalDegree_add _ _).trans (max_le small.objective ?_)
  refine totalDegree_finsetSum_le ?_
  intro r _
  calc (C (multipliers.get r) * program.rows r).totalDegree
      ≤ (C (multipliers.get r)).totalDegree + (program.rows r).totalDegree := totalDegree_mul _ _
    _ = (program.rows r).totalDegree := by rw [totalDegree_C, zero_add]
    _ ≤ degree := small.rows r

end PolynomialProgram

/-- An evaluation with the values of polynomials at a point and their exact first derivatives. -/
structure Evaluation.Fits (evaluation : Evaluation ℝ n m) (program : PolynomialProgram n m)
    (point : Vector ℝ n) : Prop where
  objective : evaluation.objective = eval point.get program.objective
  gradient : HasGradient (fun vector => eval vector.get program.objective) evaluation.gradient point
  constraints : ∀ r, evaluation.constraints.get r = eval point.get (program.rows r)
  jacobian : ∀ r, HasGradient (fun vector => eval vector.get (program.rows r))
    (evaluation.jacobian.dense.get r) point

/-- A program of polynomials, wherever it can be evaluated. -/
def Nlp.IsPolynomial (problem : Nlp ℝ n m) (program : PolynomialProgram n m) : Prop :=
  ∀ point evaluation, problem.functions.evaluate point = .ok evaluation →
    evaluation.Fits program point

namespace Sqp

variable {problem : Nlp ℝ n m} {program : PolynomialProgram n m} {multipliers : Vector ℝ m}

/-! ### The gradient of the Lagrangian -/

/-- **The gradient of the Lagrangian** consists of the partial derivatives of one polynomial. -/
theorem get_gradientAt (polynomial : problem.IsPolynomial program) {point gradient : Vector ℝ n}
    (here : gradientAt problem multipliers point = .ok gradient) (i : Fin n) :
    gradient.get i = eval point.get (pderiv i (program.lagrangian multipliers)) := by
  obtain ⟨evaluation, evaluated, rfl⟩ := gradientAt_eq_ok.mp here
  have fits := polynomial point evaluation evaluated
  have slope : evaluation.gradient.get i = eval point.get (pderiv i program.objective) :=
    hasGradient_eval_iff.mp fits.gradient i
  have entry (r : Fin m) : (evaluation.jacobian.dense.get r).get i =
      eval point.get (pderiv i (program.rows r)) := hasGradient_eval_iff.mp (fits.jacobian r) i
  unfold lagrangianGradient PolynomialProgram.lagrangian
  rw [Column.get_add, Dense.get_applyTransposed_real, slope]
  simp only [map_add, map_sum, pderiv_C_mul, map_mul, eval_C, mulVec, dotProduct]
  refine congrArg _ (Finset.sum_congr rfl ?_)
  intro r _
  rw [transpose_apply, Dense.toMatrix_apply, entry, mul_comm]

/-- **With polynomials of degree two** at most the gradient of the Lagrangian is affine. -/
theorem hasAffineGradient_polynomial (polynomial : problem.IsPolynomial program)
    (quadratic : program.HasDegree 2) (multipliers : Vector ℝ m) :
    HasAffineGradient problem multipliers
      (Matrix.of fun i j => eval 0 (pderiv j (pderiv i (program.lagrangian multipliers))))
      (fun i => eval 0 (pderiv i (program.lagrangian multipliers))) := by
  intro point gradient here
  funext i
  have straight : (pderiv i (program.lagrangian multipliers)).totalDegree ≤ 1 := by
    have lowered := totalDegree_pderiv_le (program.lagrangian multipliers) i
    have small := quadratic.lagrangian multipliers
    omega
  rw [get_gradientAt polynomial here, eval_of_totalDegree_le_one straight]
  rfl

/-! ### The Hessian of the Lagrangian -/

/-- The second partial derivatives of a polynomial are its Hessian. -/
theorem hasHessian_eval {p : MvPolynomial (Fin n) ℝ} {curvature : Dense ℝ n n} {point : Vector ℝ n}
    (second : ∀ i j, (curvature.get i).get j = eval point.get (pderiv j (pderiv i p))) :
    HasHessian (fun vector => eval vector.get p) curvature point := by
  refine ⟨fun vector => Vector.ofFn fun i => eval vector.get (pderiv i p), hasGradient_eval p, ?_⟩
  intro i
  simp only [Vector.get_ofFn]
  exact hasGradient_eval_iff.mpr (second i)

/-- **The Hessian of quadratic functions is exact.** For every program the Hessian that is formed is
symmetric. For an objective and constraints of degree two at most with exact first derivatives, at
every point that has been evaluated, under all multipliers and with every positive step, it can be
formed as soon as each variable has a forward or a backward difference, and it is the Hessian of the
Lagrangian. -/
theorem hessian_exact (settings : SqpSettings ℝ) (problem : Nlp ℝ n m) :
    (∀ point multipliers gradient curvature,
      hessian settings problem point multipliers gradient = .ok curvature →
        curvature.toMatrix.IsSymm) ∧
    ∀ program : PolynomialProgram n m, problem.IsPolynomial program → program.HasDegree 2 →
      0 < settings.hessianStep → ∀ point evaluation multipliers,
        problem.functions.evaluate point = .ok evaluation →
        (∀ i, HasDifference settings problem point i) →
        ∃ curvature, hessian settings problem point multipliers
            (lagrangianGradient evaluation.gradient evaluation.jacobian.dense multipliers) =
              .ok curvature ∧
          HasHessian (fun vector => eval vector.get (program.lagrangian multipliers)) curvature
            point := by
  refine ⟨fun _ _ _ _ => isSymm_of_hessian, ?_⟩
  intro program polynomial quadratic positive point evaluation multipliers evaluated evaluable
  have affine := hasAffineGradient_polynomial polynomial quadratic multipliers
  have here : gradientAt problem multipliers point = .ok _ :=
    gradientAt_eq_ok.mpr ⟨evaluation, evaluated, rfl⟩
  have symmetric : (Matrix.of fun i j =>
      eval 0 (pderiv j (pderiv i (program.lagrangian multipliers)))).IsSymm := by
    ext i j
    show eval 0 (pderiv i (pderiv j _)) = eval 0 (pderiv j (pderiv i _))
    rw [pderiv_comm]
  obtain ⟨curvature, formed, exact⟩ := hessian_affine_of_isSymm affine symmetric
    (affine point _ here) positive evaluable
  refine ⟨curvature, formed, hasHessian_eval ?_⟩
  intro i j
  -- the second derivatives at the point are those at zero, being of degree zero
  have constant : (pderiv j (pderiv i (program.lagrangian multipliers))).totalDegree = 0 := by
    have once := totalDegree_pderiv_le (program.lagrangian multipliers) i
    have twice := totalDegree_pderiv_le (pderiv i (program.lagrangian multipliers)) j
    have small := quadratic.lagrangian multipliers
    omega
  rw [← Dense.toMatrix_apply, exact, eval_of_totalDegree_eq_zero constant point.get 0]
  rfl

/-! ### A program that can be evaluated on one side only -/

namespace cliff

/-- The product of two variables, under the sum of their squares. -/
noncomputable def polynomials : PolynomialProgram 2 1 := ⟨∏ i, X i, fun _ => ∑ i, X i ^ 2⟩

/-- Their values and derivatives. -/
noncomputable def evaluation (point : Vector ℝ 2) : Evaluation ℝ 2 1 where
  objective := ∏ i, point.get i
  gradient := Vector.ofFn fun i => point.get i.rev
  constraints := Vector.ofFn fun _ => ∑ i, point.get i ^ 2
  jacobian := ⟨⟨[0, 2], [0, 1]⟩, List.ofFn fun i => point.get i + point.get i⟩

/-- The program that cannot be evaluated where the last variable is positive. -/
noncomputable def nlp : Nlp ℝ 2 1 where
  functions :=
    let evaluate (point : Vector ℝ 2) : Outcome ℝ (Evaluation ℝ 2 1) :=
      if 0 < point.get (Fin.last 1) then
        .error (.evaluation .cost ⟨none, none, none⟩ point.toList [])
      else .ok (evaluation point)
    { objective point := (evaluate point).map Evaluation.objective
      gradient point := (evaluate point).map Evaluation.gradient
      constraints point := (evaluate point).map Evaluation.constraints
      jacobian point := (evaluate point).map Evaluation.jacobian
      evaluate := evaluate
      pattern := [(0, 0), (0, 1)] }
  lower := Vector.replicate 2 .minusInfinity
  upper := Vector.replicate 2 .plusInfinity
  start := Column.zero 2
  rowLower := Column.zero 1
  rowUpper := Column.zero 1

theorem evaluate_eq {point : Vector ℝ 2} (below : point.get 1 ≤ 0) :
    nlp.functions.evaluate point = .ok (evaluation point) :=
  if_neg (not_lt.mpr below)

theorem isPolynomial : nlp.IsPolynomial polynomials := by
  intro point reached evaluated
  have here : evaluation point = reached := by
    simp only [nlp] at evaluated
    split_ifs at evaluated
    exact Except.ok.inj evaluated
  subst here
  constructor
  case objective => simp [polynomials, evaluation]
  case gradient =>
    refine hasGradient_eval_iff.mpr ?_
    intro i
    fin_cases i <;> simp [polynomials, evaluation, Fin.prod_univ_two, pderiv_X]
  case constraints =>
    intro r
    simp [polynomials, evaluation]
  case jacobian =>
    intro r
    refine hasGradient_eval_iff.mpr ?_
    intro i
    rw [Fin.fin_one_eq_zero r]
    fin_cases i <;> simp [polynomials, Fin.sum_univ_two, pderiv_X, two_mul] <;> rfl

theorem hasDegree : polynomials.HasDegree 2 where
  objective := by
    refine (totalDegree_finsetProd _ _).trans ?_
    simp only [totalDegree_X, Fin.sum_univ_two]
    norm_num
  rows r := by
    refine totalDegree_finsetSum_le ?_
    intro i _
    rw [totalDegree_X_pow]

theorem positive : (0 : ℝ) < SqpSettings.standard.hessianStep := by
  simp only [SqpSettings.standard]
  norm_num

/-- At zero there is a forward difference along the first variable and a backward one along the
second. -/
theorem hasDifference (i : Fin 2) : HasDifference .standard nlp (Column.zero 2) i := by
  fin_cases i
  · refine .inl ⟨_, evaluate_eq ?_⟩
    rw [ahead, get_moved]
    simp
  · refine .inr ⟨_, evaluate_eq ?_⟩
    rw [behind_eq_moved, get_moved]
    have step : (0 : ℝ) < differenceStep .standard (Column.zero 2) 1 :=
      differenceStep_pos positive 1
    simpa using step.le

end cliff

/-- The Hessian at zero, where the program cannot be evaluated ahead along the second variable. -/
theorem hessian_exact_cliff : cliff.nlp.IsPolynomial cliff.polynomials ∧
    cliff.polynomials.HasDegree 2 ∧ (0 : ℝ) < SqpSettings.standard.hessianStep ∧
    (∀ i, HasDifference .standard cliff.nlp (Column.zero 2) i) ∧ ∃ curvature,
      hessian .standard cliff.nlp (Column.zero 2) #v[3]
        (lagrangianGradient (cliff.evaluation (Column.zero 2)).gradient
          (cliff.evaluation (Column.zero 2)).jacobian.dense #v[3]) = .ok curvature ∧
      curvature.toMatrix.IsSymm ∧
      HasHessian (fun vector => vector.get 0 * vector.get 1 +
        3 * (vector.get 0 ^ 2 + vector.get 1 ^ 2)) curvature (Column.zero 2) := by
  have exact := hessian_exact .standard cliff.nlp
  obtain ⟨curvature, formed, second⟩ := exact.2 cliff.polynomials cliff.isPolynomial
    cliff.hasDegree cliff.positive (Column.zero 2) _ #v[3]
    (cliff.evaluate_eq (Column.get_zero 1).le) cliff.hasDifference
  have weighted (vector : Vector ℝ 2) :
      eval vector.get (cliff.polynomials.lagrangian #v[3]) =
        vector.get 0 * vector.get 1 + 3 * (vector.get 0 ^ 2 + vector.get 1 ^ 2) := by
    simp [PolynomialProgram.lagrangian, cliff.polynomials]
  simp only [weighted] at second
  exact ⟨cliff.isPolynomial, cliff.hasDegree, cliff.positive, cliff.hasDifference, curvature,
    formed, exact.1 _ _ _ _ formed, second⟩

end Sqp

end MultipleShooting
