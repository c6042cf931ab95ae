/-
**Convex quadratic programs are solved in one step.**

Read over the real numbers, for a program with a quadratic objective and affine equations, and for
any method that solves nonsingular linear systems:

* `QuadraticProgram.IsRegular`: the equations are independent, and the objective is convex, strictly
  so along the steps that keep them;
* `QuadraticProgram.isMinimiser_of_stationary`: a feasible stationary point is the only minimiser;
* `fullStep_accepted`: the Newton step leads to a feasible point with a merit low enough to be taken
  at full length;
* `advance_quadratic`: **an iteration in which no variable is frozen reaches the minimiser**, if the
  bounds leave room for it;
* `solveWith_regular`: a run converges after no iteration, where the start passes the test, or after
  one, at the minimiser and by the full step;
* `solveWith_quadratic`: **so does every run without bounds on a strictly convex objective**.
-/
import MultipleShooting.Proofs.Nlp
import MultipleShooting.Proofs.Sqp.Hessian
import MultipleShooting.Proofs.Sqp.Kkt
import MultipleShooting.Proofs.Sqp.Settings

namespace MultipleShooting

open Matrix

variable {n m : Nat}

/-! ### Quadratic programs -/

/-- A quadratic objective with affine constraints. -/
structure QuadraticProgram (n m : Nat) where
  curvature : Matrix (Fin n) (Fin n) ℝ
  linear : Fin n → ℝ
  constant : ℝ
  rows : Matrix (Fin m) (Fin n) ℝ
  offset : Fin m → ℝ

namespace QuadraticProgram

variable (program : QuadraticProgram n m)

/-- Half the quadratic form, the linear form and the constant. -/
noncomputable def objective (point : Fin n → ℝ) : ℝ :=
  1 / 2 * (point ⬝ᵥ program.curvature *ᵥ point) + program.linear ⬝ᵥ point + program.constant

/-- The gradient of the objective. -/
def gradient (point : Fin n → ℝ) : Fin n → ℝ := program.curvature *ᵥ point + program.linear

/-- The constraints. -/
def constraints (point : Fin n → ℝ) : Fin m → ℝ := program.rows *ᵥ point + program.offset

/-- A feasible point with a lower objective than every other feasible one. -/
def IsMinimiser (target : Fin m → ℝ) (point : Fin n → ℝ) : Prop :=
  program.constraints point = target ∧ ∀ other, program.constraints other = target →
    other ≠ point → program.objective point < program.objective other

variable {program}

/-- The objective after a step. -/
theorem objective_add (symmetric : program.curvature.IsSymm) (point step : Fin n → ℝ) :
    program.objective (point + step) = program.objective point + program.gradient point ⬝ᵥ step +
      1 / 2 * (step ⬝ᵥ program.curvature *ᵥ step) := by
  have swap : point ⬝ᵥ program.curvature *ᵥ step = program.curvature *ᵥ point ⬝ᵥ step := by
    rw [dotProduct_mulVec, ← mulVec_transpose, symmetric.eq]
  have swapped : step ⬝ᵥ program.curvature *ᵥ point = program.curvature *ᵥ point ⬝ᵥ step :=
    dotProduct_comm _ _
  simp only [objective, gradient, mulVec_add, add_dotProduct, dotProduct_add, swap, swapped]
  ring

/-- The constraints after a step. -/
theorem constraints_add (point step : Fin n → ℝ) :
    program.constraints (point + step) = program.constraints point + program.rows *ᵥ step := by
  unfold constraints
  rw [mulVec_add, add_right_comm]

/-- The equations are independent, and the objective is convex, strictly so along the steps that
keep the equations. -/
structure IsRegular (program : QuadraticProgram n m) : Prop where
  convex : program.curvature.PosSemidef
  curves : Sqp.CurvesAlong program.curvature program.rows
  independent : LinearIndependent ℝ program.rows.row

/-- A strictly convex objective is regular under independent equations. -/
theorem isRegular_of_posDef (definite : program.curvature.PosDef)
    (independent : LinearIndependent ℝ program.rows.row) : program.IsRegular :=
  ⟨definite.posSemidef, Sqp.curvesAlong_of_posDef definite _, independent⟩

theorem IsRegular.isSymm (regular : program.IsRegular) : program.curvature.IsSymm :=
  isHermitian_iff_isSymm.mp regular.convex.isHermitian

/-- **A feasible stationary point is the only minimiser.** -/
theorem isMinimiser_of_stationary (regular : program.IsRegular) {target : Fin m → ℝ}
    {point : Fin n → ℝ} {multipliers : Fin m → ℝ} (feasible : program.constraints point = target)
    (stationary : program.gradient point + program.rowsᵀ *ᵥ multipliers = 0) :
    program.IsMinimiser target point := by
  refine ⟨feasible, ?_⟩
  intro other feasibleOther different
  obtain ⟨step, rfl⟩ : ∃ step, other = point + step := ⟨other - point, by abel⟩
  have moves : step ≠ 0 := fun still => different (by rw [still, add_zero])
  have along : program.rows *ᵥ step = 0 := by
    rw [constraints_add, feasible] at feasibleOther
    exact add_eq_left.mp feasibleOther
  have level : program.gradient point ⬝ᵥ step = 0 := by
    rw [eq_neg_of_add_eq_zero_left stationary, neg_dotProduct, dotProduct_comm, dotProduct_mulVec,
      vecMul_transpose, along, zero_dotProduct, neg_zero]
  have curves : 0 < step ⬝ᵥ program.curvature *ᵥ step := regular.curves step along moves
  rw [objective_add regular.isSymm, level]
  linarith

/-- There is at most one minimiser. -/
theorem IsMinimiser.unique {target : Fin m → ℝ} {point other : Fin n → ℝ}
    (minimal : program.IsMinimiser target point) (alike : program.IsMinimiser target other) :
    point = other := by
  by_contra different
  exact lt_asymm (minimal.2 other alike.1 (Ne.symm different)) (alike.2 point minimal.1 different)

end QuadraticProgram

/-- A program without bounds on its variables whose functions are those of a quadratic program and
never fail. -/
structure Nlp.IsQuadratic (problem : Nlp ℝ n m) (program : QuadraticProgram n m) : Prop where
  evaluate : ∀ point, ∃ evaluation, problem.functions.evaluate point = .ok evaluation ∧
    evaluation.objective = program.objective point.get ∧
    evaluation.gradient.get = program.gradient point.get ∧
    evaluation.constraints.get = program.constraints point.get ∧
    evaluation.jacobian.dense.toMatrix = program.rows
  lower : ∀ i, problem.lower.get i = .minusInfinity
  upper : ∀ i, problem.upper.get i = .plusInfinity
  rows : problem.rowLower = problem.rowUpper

namespace Sqp

variable {problem : Nlp ℝ n m} {program : QuadraticProgram n m}

/-! ### Programs without bounds -/

/-- Without bounds a point is not clamped. -/
theorem clamp_unbounded (lower : ∀ i, problem.lower.get i = .minusInfinity)
    (upper : ∀ i, problem.upper.get i = .plusInfinity) (point : Vector ℝ n) :
    clamp problem point = point :=
  ext_get fun i => by
    unfold clamp
    rw [Vector.get_ofFn, lower, upper]
    simp [Bound.clamp, Bound.raise, Bound.lower]

/-- Without bounds no variable is frozen. -/
theorem get_frozen_unbounded (lower : ∀ i, problem.lower.get i = .minusInfinity)
    (upper : ∀ i, problem.upper.get i = .plusInfinity) (point gradient : Vector ℝ n)
    (i : Fin n) : (frozen problem point gradient).get i = false := by
  unfold frozen
  rw [Vector.get_ofFn, lower, upper]
  simp [Bound.reachedFromAbove, Bound.reachedFromBelow]

/-! ### Iterates of a quadratic program -/

/-- An iterate with the values of a quadratic program at its point. -/
structure Iterate.Fits (problem : Nlp ℝ n m) (program : QuadraticProgram n m)
    (iterate : Iterate ℝ n m) : Prop where
  objective : iterate.evaluation.objective = program.objective iterate.point.get
  gradient : iterate.evaluation.gradient.get = program.gradient iterate.point.get
  jacobian : iterate.jacobian.toMatrix = program.rows
  residual : iterate.residual.get = program.constraints iterate.point.get - problem.rowLower.get

/-- A program that can be evaluated everywhere, with the values of a quadratic program. -/
def EvaluatesTo (problem : Nlp ℝ n m) (program : QuadraticProgram n m) : Prop :=
  ∀ point, ∃ evaluation, problem.functions.evaluate point = .ok evaluation ∧
    (Iterate.of problem point evaluation).Fits problem program

theorem evaluatesTo_of_isQuadratic (quadratic : problem.IsQuadratic program) :
    EvaluatesTo problem program := by
  intro point
  obtain ⟨evaluation, evaluated, objective, gradient, constraints, jacobian⟩ :=
    quadratic.evaluate point
  refine ⟨evaluation, evaluated, objective, gradient, jacobian, ?_⟩
  funext r
  refine (Column.get_sub _ _ r).trans ?_
  rw [constraints]
  rfl

/-- The bounds of a program leave room for the minimiser. -/
def LeavesRoom (problem : Nlp ℝ n m) (program : QuadraticProgram n m) : Prop :=
  ∀ point : Vector ℝ n, program.IsMinimiser problem.rowLower.get point.get →
    clamp problem point = point

/-- The gradient of the Lagrangian at an iterate. -/
theorem get_lagrangianGradient (gradient : Vector ℝ n) (jacobian : Dense ℝ m n)
    (multipliers : Vector ℝ m) :
    (lagrangianGradient gradient jacobian multipliers).get =
      gradient.get + jacobian.toMatrixᵀ *ᵥ multipliers.get := by
  funext i
  unfold lagrangianGradient
  rw [Column.get_add, Dense.get_applyTransposed_real]
  rfl

/-- The Lagrangian gradient of a quadratic program is affine. -/
theorem hasAffineGradient_quadratic (evaluates : EvaluatesTo problem program)
    (multipliers : Vector ℝ m) :
    HasAffineGradient problem multipliers program.curvature
      (program.linear + program.rowsᵀ *ᵥ multipliers.get) := by
  intro point gradient here
  obtain ⟨evaluation, evaluated, fits⟩ := evaluates point
  unfold gradientAt at here
  rw [evaluated] at here
  cases here
  refine (get_lagrangianGradient _ _ _).trans ?_
  refine (congrArg₂ (fun slope rows => slope + rowsᵀ *ᵥ multipliers.get) fits.gradient
    fits.jacobian).trans ?_
  exact add_assoc _ _ _

/-- The Hessian of a quadratic program is formed exactly. -/
theorem hessian_quadratic {settings : SqpSettings ℝ} (evaluates : EvaluatesTo problem program)
    (symmetric : program.curvature.IsSymm) (positive : 0 < settings.hessianStep)
    {progress : Progress ℝ n m} (fits : progress.iterate.Fits problem program) :
    ∃ curvature, hessian settings problem progress.iterate.point progress.multipliers
      progress.gradient = .ok curvature ∧ curvature.toMatrix = program.curvature := by
  refine hessian_affine_of_isSymm (hasAffineGradient_quadratic evaluates progress.multipliers)
    symmetric ?_ positive fun i => .inl ?_
  · unfold Progress.gradient
    rw [get_lagrangianGradient, fits.gradient, fits.jacobian]
    exact add_assoc _ _ _
  · obtain ⟨evaluation, evaluated, _⟩ := evaluates (ahead settings progress.iterate.point i)
    exact ⟨evaluation, evaluated⟩

/-! ### The full step -/

/-- The trial point of a full step that no bound cuts short. -/
theorem trial_quadratic (evaluates : EvaluatesTo problem program) (iterate : Iterate ℝ n m)
    (direction : Direction ℝ n m) {target : Vector ℝ n}
    (reaches : target.get = iterate.point.get + direction.step.get)
    (inside : clamp problem target = target) :
    ∃ candidate, trial? problem iterate direction 1 = some candidate ∧
      candidate.Fits problem program ∧ candidate.point = target := by
  have same : Column.add iterate.point (Column.scale 1 direction.step) = target :=
    ext_get fun i => by rw [Column.get_add, Column.get_scale, one_mul, reaches, Pi.add_apply]
  obtain ⟨evaluation, evaluated, fits⟩ := evaluates target
  refine ⟨_, ?_, fits, rfl⟩
  simp only [trial?, same, inside, evaluated]

section FullStep

variable {iterate candidate : Iterate ℝ n m} {curvature : Dense ℝ n n} {fixed : Vector Bool n}
  {step : Vector ℝ n} {multipliers : Vector ℝ m}

/-- After the full step the constraints are met. -/
theorem constraints_fullStep (fits : iterate.Fits problem program)
    (stationary : Stationary curvature iterate.jacobian iterate.evaluation.gradient
      iterate.residual fixed 0 0 step multipliers) :
    program.constraints (iterate.point.get + step.get) = problem.rowLower.get := by
  have along := stationary.rows_unshifted
  rw [fits.jacobian, fits.residual] at along
  rw [QuadraticProgram.constraints_add, along, neg_sub, add_sub_cancel]

/-- After the full step the gradient of the Lagrangian vanishes. -/
theorem gradient_fullStep (fits : iterate.Fits problem program)
    (exact : curvature.toMatrix = program.curvature)
    (stationary : Stationary curvature iterate.jacobian iterate.evaluation.gradient
      iterate.residual fixed 0 0 step multipliers) (free : ∀ i, fixed.get i = false) :
    program.gradient (iterate.point.get + step.get) + program.rowsᵀ *ᵥ multipliers.get = 0 := by
  have balance := stationary.balances_free free
  rw [exact, fits.jacobian, fits.gradient] at balance
  rw [← balance, QuadraticProgram.gradient, QuadraticProgram.gradient, mulVec_add]
  abel

/-- The constraints weigh more than every multiplier. -/
theorem maxNorm_lt_penalty {penalty : ℝ} (weighs : 0 < penalty) :
    Column.maxNorm multipliers < (Direction.of iterate penalty step multipliers).penalty := by
  show Column.maxNorm multipliers < Number.larger penalty (1.1 * Column.maxNorm multipliers)
  rw [Number.larger_real, lt_max_iff]
  obtain zero | positive := (Column.maxNorm_nonneg multipliers).eq_or_lt
  · exact .inl (zero ▸ weighs)
  · right
    norm_num
    linarith

/-- The slope of the merit along a direction. -/
theorem slope_of (penalty : ℝ) : (Direction.of iterate penalty step multipliers).slope =
    Column.dot iterate.evaluation.gradient step -
      (Direction.of iterate penalty step multipliers).penalty *
        Column.sumNorm iterate.residual := rfl

/-- The slope of the merit is at most the negative curvature along the step. -/
theorem slope_le_quadratic (exact : curvature.toMatrix = program.curvature)
    (stationary : Stationary curvature iterate.jacobian iterate.evaluation.gradient
      iterate.residual fixed 0 0 step multipliers) (free : ∀ i, fixed.get i = false)
    {penalty : ℝ} (weighs : 0 < penalty) :
    (Direction.of iterate penalty step multipliers).slope ≤
      -(step.get ⬝ᵥ program.curvature *ᵥ step.get) := by
  have covers : Column.maxNorm multipliers ≤
      (Direction.of iterate penalty step multipliers).penalty := (maxNorm_lt_penalty weighs).le
  rw [← exact]
  exact stationary.slope_le free covers

/-- **The step descends on the merit**, or it is none. Where it keeps the constraints the objective
curves along it; elsewhere it takes the violation away, which weighs more than the multipliers. -/
theorem usable_quadratic (regular : program.IsRegular) (fits : iterate.Fits problem program)
    (exact : curvature.toMatrix = program.curvature)
    (stationary : Stationary curvature iterate.jacobian iterate.evaluation.gradient
      iterate.residual fixed 0 0 step multipliers) (free : ∀ i, fixed.get i = false)
    {penalty : ℝ} (weighs : 0 < penalty) :
    (Direction.of iterate penalty step multipliers).slope < 0 ∨
      Column.maxNorm step ≤ negligible iterate.point := by
  by_cases still : step.get = 0
  · right
    have nonneg : 0 ≤ negligible iterate.point :=
      mul_nonneg (by norm_num) (add_nonneg zero_le_one (Column.maxNorm_nonneg _))
    refine (Column.maxNorm_le_iff _ _).mpr ⟨nonneg, ?_⟩
    intro i
    rw [still, Pi.zero_apply, abs_zero]
    exact nonneg
  · left
    by_cases feasible : iterate.residual.get = 0
    · have unseen : program.rows *ᵥ step.get = 0 := by
        rw [← fits.jacobian, stationary.rows_unshifted, feasible, neg_zero]
      exact (slope_le_quadratic exact stationary free weighs).trans_lt
        (neg_neg_of_pos (regular.curves step.get unseen still))
    · have descent := stationary.slope_le free (le_refl (Column.maxNorm multipliers))
      have curves : 0 ≤ step.get ⬝ᵥ program.curvature *ᵥ step.get :=
        regular.convex.dotProduct_mulVec_nonneg step.get
      have heavier : Column.maxNorm multipliers * Column.sumNorm iterate.residual <
          (Direction.of iterate penalty step multipliers).penalty *
            Column.sumNorm iterate.residual :=
        mul_lt_mul_of_pos_right (maxNorm_lt_penalty weighs) (Column.sumNorm_pos feasible)
      rw [exact] at descent
      rw [slope_of]
      linarith

/-- **The full step is accepted**: the merit loses all of the violation and half of the curvature
along the step, more than the line search asks for. -/
theorem fullStep_accepted (regular : program.IsRegular) (fits : iterate.Fits problem program)
    (fitsNext : candidate.Fits problem program) (exact : curvature.toMatrix = program.curvature)
    (stationary : Stationary curvature iterate.jacobian iterate.evaluation.gradient
      iterate.residual fixed 0 0 step multipliers) (free : ∀ i, fixed.get i = false)
    (reached : candidate.point.get = iterate.point.get + step.get) {penalty : ℝ}
    (weighs : 0 < penalty) :
    accepts iterate (Direction.of iterate penalty step multipliers) 1 candidate = true := by
  have descent := slope_le_quadratic exact stationary free weighs
  have curves : 0 ≤ step.get ⬝ᵥ program.curvature *ᵥ step.get :=
    regular.convex.dotProduct_mulVec_nonneg step.get
  have gained : candidate.evaluation.objective = iterate.evaluation.objective +
      Column.dot iterate.evaluation.gradient step +
        1 / 2 * (step.get ⬝ᵥ program.curvature *ᵥ step.get) := by
    rw [fitsNext.objective, reached, QuadraticProgram.objective_add regular.isSymm,
      ← fits.objective, ← fits.gradient, Column.dot_real]
  have violated : Column.sumNorm candidate.residual = 0 := by
    rw [Column.sumNorm_real, fitsNext.residual, reached, constraints_fullStep fits stationary]
    simp
  unfold accepts
  rw [Bool.and_eq_true, Bool.or_eq_true, decide_eq_true_eq]
  refine ⟨rfl, .inl ?_⟩
  have part : (1e-4 : ℝ) = 1 / 10000 := by norm_num
  rw [slope_of] at descent ⊢
  unfold Iterate.merit
  rw [gained, violated, part]
  linarith

end FullStep

/-- Where a run has converged, no residual is beyond the tolerance. -/
theorem abs_residual_le_of_hasConverged {settings : SqpSettings ℝ} {progress : Progress ℝ n m}
    (passes : progress.hasConverged settings problem = true) (row : Fin m) :
    |progress.iterate.residual.get row| ≤ settings.tolerance := by
  unfold Progress.hasConverged at passes
  rw [Bool.and_eq_true, decide_eq_true_eq] at passes
  exact ((Column.maxNorm_le_iff _ _).mp passes.1).2 row

/-- Where the residual and the gradient of the Lagrangian vanish between the bounds, the test of
convergence holds. -/
theorem hasConverged_of_stationary {settings : SqpSettings ℝ} (tolerance : 0 < settings.tolerance)
    {progress : Progress ℝ n m} (inside : clamp problem progress.iterate.point =
      progress.iterate.point)
    (feasible : progress.iterate.residual.get = 0) (balanced : progress.gradient.get = 0) :
    progress.hasConverged settings problem = true := by
  have scaled : 0 ≤ settings.tolerance *
      Number.larger (Column.maxNorm progress.iterate.evaluation.gradient) 1 := by
    rw [Number.larger_real]
    exact mul_nonneg tolerance.le (le_max_of_le_right zero_le_one)
  have unmoved : Column.sub progress.iterate.point progress.gradient = progress.iterate.point :=
    ext_get fun i => by rw [Column.get_sub, balanced, Pi.zero_apply, sub_zero]
  unfold Progress.hasConverged stationarity
  rw [Bool.and_eq_true, decide_eq_true_eq, decide_eq_true_eq, unmoved, inside,
    Column.maxNorm_le_iff, Column.maxNorm_le_iff, feasible]
  simp only [Column.get_sub, sub_self, Pi.zero_apply, abs_zero]
  exact ⟨⟨tolerance.le, fun _ => tolerance.le⟩, scaled, fun _ => scaled⟩

/-- An iteration that takes the full step along its direction. -/
structure TakesFullStep {α : Type} [Number α] (linear : LinearSolver α) (settings : SqpSettings α)
    (problem : Nlp α n m) (progress next : Progress α n m) : Prop where
  advances : advance linear settings problem progress = .ok (.next next)
  accepted : ∃ curvature direction,
    hessian settings problem progress.iterate.point progress.multipliers progress.gradient =
      .ok curvature ∧
    findDirection linear settings curvature progress.iterate
      (frozen problem progress.iterate.point progress.gradient) progress.penalty maxTries
      settings.regularization 0 = some direction ∧
    trial? problem progress.iterate direction 1 = some next.iterate ∧
    accepts progress.iterate direction 1 next.iterate = true

/-- An iteration whose full step is accepted leads on to it. -/
theorem takesFullStep_of_accepts {α : Type} [Number α] {linear : LinearSolver α}
    {settings : SqpSettings α} {problem : Nlp α n m} {progress : Progress α n m}
    {curvature : Dense α n n} {direction : Direction α n m} {candidate : Iterate α n m}
    (formed : hessian settings problem progress.iterate.point progress.multipliers
      progress.gradient = .ok curvature)
    (found : findDirection linear settings curvature progress.iterate
      (frozen problem progress.iterate.point progress.gradient) progress.penalty maxTries
      settings.regularization 0 = some direction)
    (tried : trial? problem progress.iterate direction 1 = some candidate)
    (accepted : accepts progress.iterate direction 1 candidate = true) :
    TakesFullStep linear settings problem progress
      ⟨candidate, direction.multipliers, direction.penalty⟩ := by
  refine ⟨?_, curvature, direction, formed, found, tried, accepted⟩
  unfold advance
  simp only [bind, Except.bind, formed, found, lineSearch_of_accepts maxHalvings tried accepted]
  rfl

/-- **One iteration reaches the minimiser**, by the full step, and passes the test there. -/
theorem advance_quadratic {linear : LinearSolver ℝ} (solves : SolvesNonsingular linear)
    {settings : SqpSettings ℝ} (valid : settings.validate = .ok ())
    (unregularised : settings.regularization = 0) (evaluates : EvaluatesTo problem program)
    (regular : program.IsRegular) (room : LeavesRoom problem program) (progress : Progress ℝ n m)
    (weighs : 0 < progress.penalty) (fits : progress.iterate.Fits problem program)
    (free : ∀ i, (frozen problem progress.iterate.point progress.gradient).get i = false) :
    ∃ next, TakesFullStep linear settings problem progress next ∧
      next.hasConverged settings problem = true ∧
      program.IsMinimiser problem.rowLower.get next.iterate.point.get := by
  obtain ⟨tolerance, difference, _, _⟩ := SqpSettings.validate_real.mp valid
  obtain ⟨curvature, formed, exact⟩ := hessian_quadratic evaluates regular.isSymm difference fits
  obtain ⟨step, multipliers, solved, stationary⟩ := solveKkt_nonsingular solves
    (exact ▸ fits.jacobian ▸ regular.curves) (fits.jacobian ▸ regular.independent) free
  let direction := Direction.of progress.iterate progress.penalty step multipliers
  have found : findDirection linear settings curvature progress.iterate
      (frozen problem progress.iterate.point progress.gradient) progress.penalty maxTries
      settings.regularization 0 = some direction := by
    rw [unregularised]
    exact findDirection_of_solveKkt 11 solved
      (usable_quadratic regular fits exact stationary free weighs)
  have feasible := constraints_fullStep fits stationary
  have balanced := gradient_fullStep fits exact stationary free
  have reaches : (Vector.ofFn (progress.iterate.point.get + step.get)).get =
      progress.iterate.point.get + step.get := get_ofFn_eq _
  have minimal : program.IsMinimiser problem.rowLower.get
      (Vector.ofFn (progress.iterate.point.get + step.get)).get := by
    rw [reaches]
    exact QuadraticProgram.isMinimiser_of_stationary regular feasible balanced
  obtain ⟨candidate, tried, fitsNext, reached⟩ := trial_quadratic evaluates progress.iterate
    direction reaches (room _ minimal)
  have arrives := (congrArg Vector.get reached).trans reaches
  have accepted := fullStep_accepted regular fits fitsNext exact stationary free arrives weighs
  refine ⟨⟨candidate, direction.multipliers, direction.penalty⟩,
    takesFullStep_of_accepts formed found tried accepted, ?_, reached ▸ minimal⟩
  refine hasConverged_of_stationary tolerance (reached ▸ room _ minimal) ?_ ?_
  · rw [fitsNext.residual, arrives, feasible, sub_self]
  · unfold Progress.gradient
    rw [get_lagrangianGradient, fitsNext.gradient, fitsNext.jacobian, arrives]
    exact balanced

/-- **A regular quadratic program is solved in one step**, unless the start passes the test of
convergence, if no variable is frozen there and the bounds leave room for the minimiser. -/
theorem solveWith_regular {linear : LinearSolver ℝ} (solves : SolvesNonsingular linear)
    {settings : SqpSettings ℝ} (valid : settings.validate = .ok ())
    (unregularised : settings.regularization = 0) (allowed : 1 ≤ settings.maxIterations)
    (equations : problem.rowLower = problem.rowUpper) (evaluates : EvaluatesTo problem program)
    (regular : program.IsRegular) (room : LeavesRoom problem program)
    (free : ∀ evaluation,
      problem.functions.evaluate (clamp problem problem.start) = .ok evaluation →
        ∀ i, (frozen problem (clamp problem problem.start)
          (startOf settings problem evaluation).gradient).get i = false) :
    ∃ evaluation result,
      problem.functions.evaluate (clamp problem problem.start) = .ok evaluation ∧
      solveWith linear settings problem = .ok result ∧
      result.solution.status = .converged ∧
      (((startOf settings problem evaluation).hasConverged settings problem = true ∧
          result.solution.iterations = 0 ∧
          result.solution.point = (clamp problem problem.start).toList) ∨
        ∃ next, TakesFullStep linear settings problem (startOf settings problem evaluation) next ∧
          result.solution.iterations = 1 ∧
          result.solution.point = next.iterate.point.toList ∧
          program.IsMinimiser problem.rowLower.get next.iterate.point.get) := by
  obtain ⟨evaluation, evaluated, fits⟩ := evaluates (clamp problem problem.start)
  have ran : solveWith linear settings problem = _ :=
    solveWith_of_evaluated valid (Nlp.isEqualityConstrained_real.mpr equations) evaluated
  by_cases passes : (startOf settings problem evaluation).hasConverged settings problem = true
  · exact ⟨evaluation, _, evaluated, ran.trans (run_of_hasConverged passes), rfl,
      .inl ⟨passes, rfl, rfl⟩⟩
  · obtain ⟨_, _, weighs, _⟩ := SqpSettings.validate_real.mp valid
    obtain ⟨next, full, passesNext, minimal⟩ := advance_quadratic solves valid unregularised
      evaluates regular room (startOf settings problem evaluation) weighs fits
      (free evaluation evaluated)
    obtain ⟨remaining, counted⟩ := Nat.exists_eq_add_of_le' allowed
    have once : run linear settings problem settings.maxIterations 0
        (startOf settings problem evaluation) =
          .ok ⟨solutionAt problem next.iterate 1 .converged, none⟩ := by
      rw [counted, run, if_neg passes, full.advances]
      exact run_of_hasConverged passesNext
    exact ⟨evaluation, _, evaluated, ran.trans once, rfl, .inr ⟨next, full, rfl, rfl, minimal⟩⟩

/-- **Strictly convex quadratic programs with independent equations are solved in one step**, unless
the start passes the test of convergence. -/
theorem solveWith_quadratic {linear : LinearSolver ℝ} (solves : SolvesNonsingular linear)
    {settings : SqpSettings ℝ} (valid : settings.validate = .ok ())
    (unregularised : settings.regularization = 0) (allowed : 1 ≤ settings.maxIterations)
    (quadratic : problem.IsQuadratic program) (definite : program.curvature.PosDef)
    (independent : LinearIndependent ℝ program.rows.row) :
    ∃ evaluation result, problem.functions.evaluate problem.start = .ok evaluation ∧
      solveWith linear settings problem = .ok result ∧
      result.solution.status = .converged ∧
      (((startOf settings problem evaluation).hasConverged settings problem = true ∧
          result.solution.iterations = 0 ∧ result.solution.point = problem.start.toList) ∨
        ∃ next, TakesFullStep linear settings problem (startOf settings problem evaluation) next ∧
          result.solution.iterations = 1 ∧
          result.solution.point = next.iterate.point.toList ∧
          program.IsMinimiser problem.rowLower.get next.iterate.point.get) := by
  have unclamped := clamp_unbounded quadratic.lower quadratic.upper
  have solved := solveWith_regular solves valid unregularised allowed quadratic.rows
    (evaluatesTo_of_isQuadratic quadratic)
    (QuadraticProgram.isRegular_of_posDef definite independent)
    (fun point _ => unclamped point)
    (fun _ _ => get_frozen_unbounded quadratic.lower quadratic.upper _ _)
  rwa [unclamped] at solved

/-! ### The point of a line that is nearest to zero -/

namespace nearest

/-- Half the squared distance from zero, on the line where the coordinates sum up to a target. -/
noncomputable def squares : QuadraticProgram 2 1 := ⟨1, 0, 0, !![1, 1], 0⟩

/-- The program for the target one, from zero. -/
noncomputable def nlp : Nlp ℝ 2 1 where
  functions :=
    let objective (point : Vector ℝ 2) : ℝ := squares.objective point.get
    let sum (point : Vector ℝ 2) : Vector ℝ 1 := Vector.ofFn fun _ => ∑ i, point.get i
    let ones : Compressed ℝ 1 2 := ⟨⟨[0, 2], [0, 1]⟩, [1, 1]⟩
    { objective point := .ok (objective point)
      gradient point := .ok point
      constraints point := .ok (sum point)
      jacobian _ := .ok ones
      evaluate point := .ok ⟨objective point, point, sum point, ones⟩
      pattern := [(0, 0), (0, 1)] }
  lower := Vector.replicate 2 .minusInfinity
  upper := Vector.replicate 2 .plusInfinity
  start := Column.zero 2
  rowLower := ⟨#[1], rfl⟩
  rowUpper := ⟨#[1], rfl⟩

/-- The standard settings without regularization. -/
noncomputable def settings : SqpSettings ℝ := { SqpSettings.standard with regularization := 0 }

theorem isQuadratic : nlp.IsQuadratic squares where
  evaluate point := by
    refine ⟨_, rfl, rfl, ?_, ?_, ?_⟩
    · simp [squares, QuadraticProgram.gradient]
    · funext row
      have sum : squares.constraints point.get 0 = ∑ i, point.get i := by
        simp [squares, QuadraticProgram.constraints, dotProduct]
      rw [Fin.fin_one_eq_zero row, sum]
      exact Vector.get_ofFn _ 0
    · ext row column
      fin_cases row; fin_cases column
      · rfl
      · rfl
  lower i := Vector.get_replicate 2 _ i
  upper i := Vector.get_replicate 2 _ i
  rows := rfl

theorem valid : settings.validate = .ok () := by
  refine SqpSettings.validate_real.mpr ?_
  simp only [settings, SqpSettings.standard]
  norm_num

theorem independent : LinearIndependent ℝ squares.rows.row := by
  refine linearIndependent_unique_iff.mpr ?_
  intro vanishes
  exact one_ne_zero (congrFun vanishes 0)

/-- At zero the sum of the coordinates is not one. -/
theorem violated {evaluation : Evaluation ℝ 2 1}
    (evaluated : nlp.functions.evaluate nlp.start = .ok evaluation) :
    (startOf settings nlp evaluation).hasConverged settings nlp = false := by
  have target : nlp.rowLower.get 0 = 1 := rfl
  have sum : evaluation.constraints.get 0 = 0 := by
    cases evaluated
    refine (Vector.get_ofFn _ 0).trans (Finset.sum_eq_zero ?_)
    intro i _
    exact Column.get_zero i
  rw [← Bool.not_eq_true]
  intro passes
  have gap : |(Column.sub evaluation.constraints nlp.rowLower).get 0| ≤ settings.tolerance :=
    abs_residual_le_of_hasConverged passes 0
  rw [Column.get_sub, sum, target] at gap
  simp only [settings, SqpSettings.standard] at gap
  norm_num at gap

/-- The run takes the full step to the nearest point and ends there. -/
theorem solved : ∃ evaluation next,
    nlp.functions.evaluate (clamp nlp nlp.start) = .ok evaluation ∧
      TakesFullStep (fun _ => Elimination.solve) settings nlp (startOf settings nlp evaluation)
        next ∧
      squares.IsMinimiser nlp.rowLower.get next.iterate.point.get ∧
      solve settings nlp = .ok ⟨solutionAt nlp next.iterate 1 .converged, none⟩ := by
  have unclamped := clamp_unbounded isQuadratic.lower isQuadratic.upper
  have evaluates := evaluatesTo_of_isQuadratic isQuadratic
  obtain ⟨evaluation, evaluated, fits⟩ := evaluates (clamp nlp nlp.start)
  obtain ⟨_, _, weighs, _⟩ := SqpSettings.validate_real.mp valid
  obtain ⟨next, full, passes, minimal⟩ := advance_quadratic solvesNonsingular_elimination valid rfl
    evaluates (QuadraticProgram.isRegular_of_posDef PosDef.one independent)
    (fun point _ => unclamped point) (startOf settings nlp evaluation) weighs fits
    (get_frozen_unbounded isQuadratic.lower isQuadratic.upper _ _)
  refine ⟨evaluation, next, evaluated, full, minimal, ?_⟩
  refine (solveWith_of_evaluated valid (Nlp.isEqualityConstrained_real.mpr rfl) evaluated).trans ?_
  rw [unclamped] at evaluated
  have once : settings.maxIterations = 99 + 1 := rfl
  rw [once, run_of_advance (violated evaluated) full.advances]
  exact run_of_hasConverged passes

end nearest

/-- The point of a line that is nearest to zero is found in one step. -/
theorem solveWith_quadratic_nearest : ∃ (result : Run ℝ) (next : Progress ℝ 2 1),
    solve nearest.settings nearest.nlp = .ok result ∧ result.solution.status = .converged ∧
      result.solution.iterations = 1 ∧ result.solution.point = next.iterate.point.toList ∧
      nearest.squares.IsMinimiser nearest.nlp.rowLower.get next.iterate.point.get := by
  obtain ⟨evaluation, result, evaluated, ran, converged, ending⟩ :=
    solveWith_quadratic solvesNonsingular_elimination nearest.valid rfl (by decide)
      nearest.isQuadratic PosDef.one nearest.independent
  obtain ⟨passes, _⟩ | ⟨next, _, once, point, minimal⟩ := ending
  · rw [nearest.violated evaluated] at passes
    cases passes
  · exact ⟨result, next, ran, converged, once, point, minimal⟩

end Sqp

end MultipleShooting
