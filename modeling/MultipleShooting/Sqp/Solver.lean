/-
**Sequential quadratic programming.**

The solver is for programs whose constraints are equations and whose variables have bounds. In each
iteration:

1. the Hessian of the Lagrangian is formed from differences of its exact gradient and made
   symmetric;
2. a variable at a bound is frozen if the Lagrangian gradient pushes it outwards;
3. the stationarity conditions of the quadratic model, a linear system, give a step and multipliers;
   the diagonal is shifted further until the step descends on the merit `J + μ |c|₁`;
4. the step is halved until the merit of the clamped point has decreased enough; a point where the
   program cannot be evaluated is passed over.

It has converged when the constraints and the projected Lagrangian gradient are within the
tolerance.

* `Sqp.solveWith`: the run over any method for linear systems, `Sqp.solve`: with elimination.
-/
import MultipleShooting.Linear.Elimination
import MultipleShooting.Nlp
import MultipleShooting.Sqp.Settings

namespace MultipleShooting

/-- A method for square linear systems. -/
abbrev LinearSolver (α : Type) :=
  (size : Nat) → Dense α size size → Vector α size → Option (Vector α size)

namespace Sqp

variable {α : Type} [Number α] {n m : Nat}

/-! ### Points -/

/-- A point with everything the solver knows about it. -/
structure Iterate (α : Type) (n m : Nat) where
  point : Vector α n
  evaluation : Evaluation α n m
  jacobian : Dense α m n
  /-- The constraints less their bounds. -/
  residual : Vector α m

/-- A point that has been evaluated. -/
def Iterate.of (problem : Nlp α n m) (point : Vector α n) (evaluation : Evaluation α n m) :
    Iterate α n m where
  point := point
  evaluation := evaluation
  jacobian := evaluation.jacobian.dense
  residual := Column.sub evaluation.constraints problem.rowLower

/-- The objective and the weighted sum of violations. -/
def Iterate.merit (iterate : Iterate α n m) (penalty : α) : α :=
  iterate.evaluation.objective + penalty * Column.sumNorm iterate.residual

/-- The gradient of the Lagrangian. -/
def lagrangianGradient (gradient : Vector α n) (jacobian : Dense α m n)
    (multipliers : Vector α m) : Vector α n :=
  Column.add gradient (jacobian.applyTransposed multipliers)

/-- The nearest point within the bounds. -/
def clamp (problem : Nlp α n m) (point : Vector α n) : Vector α n :=
  Vector.ofFn fun i => Bound.clamp (problem.lower.get i) (problem.upper.get i) (point.get i)

/-- The length of the step against a gradient that the bounds allow. -/
def stationarity (problem : Nlp α n m) (point gradient : Vector α n) : α :=
  Column.maxNorm (Column.sub point (clamp problem (Column.sub point gradient)))

/-! ### The Hessian -/

/-- The Lagrangian gradient at a point. -/
def gradientAt (problem : Nlp α n m) (multipliers : Vector α m) (point : Vector α n) :
    Outcome α (Vector α n) :=
  (problem.functions.evaluate point).map fun evaluation =>
    lagrangianGradient evaluation.gradient evaluation.jacobian.dense multipliers

/-- The difference quotient of two gradients. -/
def quotient (upper lower : Vector α n) (step : α) : Vector α n :=
  (Column.sub upper lower).map (· / step)

/-- The change of the Lagrangian gradient along a variable: forward, or backward where the program
cannot be evaluated forward. -/
def hessianColumn (settings : SqpSettings α) (problem : Nlp α n m) (point : Vector α n)
    (multipliers : Vector α m) (gradient : Vector α n) (index : Nat) (inside : index < n) :
    Outcome α (Vector α n) :=
  let step := settings.hessianStep * Number.larger (Number.abs point[index]) 1
  match gradientAt problem multipliers (point.set index (point[index] + step)) with
  | .ok forward => .ok (quotient forward gradient step)
  | .error _ =>
    (gradientAt problem multipliers (point.set index (point[index] - step))).map fun backward =>
      quotient gradient backward step

/-- Half the sum of a matrix and its transpose. -/
def symmetrised (matrix : Dense α n n) : Dense α n n :=
  Vector.ofFn fun i => Vector.ofFn fun j => ((matrix.get i).get j + (matrix.get j).get i) * 0.5

/-- The Hessian of the Lagrangian, made symmetric. -/
def hessian (settings : SqpSettings α) (problem : Nlp α n m) (point : Vector α n)
    (multipliers : Vector α m) (gradient : Vector α n) : Outcome α (Dense α n n) :=
  (collect n (hessianColumn settings problem point multipliers gradient)).map fun columns =>
    symmetrised (Dense.transpose columns)

/-! ### The direction -/

/-- Which variables are at a bound with the Lagrangian gradient pushing them outwards. -/
def frozen (problem : Nlp α n m) (point gradient : Vector α n) : Vector Bool n :=
  Vector.ofFn fun i =>
    (problem.lower.get i).reachedFromAbove (point.get i) && 0 < gradient.get i ||
      (problem.upper.get i).reachedFromBelow (point.get i) && gradient.get i < 0

/-- A matrix with a number added to its diagonal. -/
def shifted (matrix : Dense α n n) (shift : α) : Dense α n n :=
  Vector.ofFn fun i => Vector.ofFn fun j =>
    if i = j then (matrix.get i).get j + shift else (matrix.get i).get j

/-- The matrix of the stationarity conditions; the row of a frozen variable only keeps it in
place. -/
def kktMatrix (hessian : Dense α n n) (jacobian : Dense α m n) (fixed : Vector Bool n)
    (shift rowShift : α) : Dense α (n + m) (n + m) :=
  let curvature := shifted hessian shift
  let transposed := jacobian.transpose
  let variableRows : Dense α n (n + m) := Vector.ofFn fun i =>
    if fixed.get i then Vector.ofFn fun j => if i.val = j.val then 1 else 0
    else curvature.get i ++ transposed.get i
  let constraintRows : Dense α m (n + m) := Vector.ofFn fun r =>
    jacobian.get r ++ (Vector.ofFn fun s => if r = s then -rowShift else 0)
  variableRows ++ constraintRows

/-- The right-hand side of the stationarity conditions. -/
def kktRight (gradient : Vector α n) (residual : Vector α m) (fixed : Vector Bool n) :
    Vector α (n + m) :=
  (Vector.ofFn fun i => if fixed.get i then 0 else -gradient.get i) ++ residual.map (-·)

/-- Step and multipliers from the stationarity conditions, if they are ordinary numbers. -/
def solveKkt (linear : LinearSolver α) (hessian : Dense α n n) (iterate : Iterate α n m)
    (fixed : Vector Bool n) (shift rowShift : α) : Option (Vector α n × Vector α m) :=
  match linear (n + m) (kktMatrix hessian iterate.jacobian fixed shift rowShift)
      (kktRight iterate.evaluation.gradient iterate.residual fixed) with
  | none => none
  | some solution =>
    if Column.isFinite solution then some (Column.first solution, Column.last solution) else none

/-- A step with its multipliers, the weight of the constraints and the slope of the merit. -/
structure Direction (α : Type) (n m : Nat) where
  step : Vector α n
  multipliers : Vector α m
  penalty : α
  slope : α

/-- The length below which a step counts as none. -/
def negligible (point : Vector α n) : α := 1e-15 * (1 + Column.maxNorm point)

/-- A step along which the merit descends, or one that is negligible, after at most `tries` shifts
of the diagonal; the constraints are shifted too once the conditions have had no solution. -/
def findDirection (linear : LinearSolver α) (settings : SqpSettings α) (hessian : Dense α n n)
    (iterate : Iterate α n m) (fixed : Vector Bool n) (penalty : α) :
    (tries : Nat) → (shift rowShift : α) → Option (Direction α n m)
  | 0, _, _ => none
  | tries + 1, shift, rowShift =>
    let nextShift := Number.larger (shift * 100.0) 1e-8
    match solveKkt linear hessian iterate fixed shift rowShift with
    | some (step, multipliers) =>
      let weight := Number.larger penalty (1.1 * Column.maxNorm multipliers)
      let slope := Column.dot iterate.evaluation.gradient step -
        weight * Column.sumNorm iterate.residual
      if slope < 0 ∨ Column.maxNorm step ≤ negligible iterate.point then
        some ⟨step, multipliers, weight, slope⟩
      else findDirection linear settings hessian iterate fixed penalty tries nextShift rowShift
    | none =>
      findDirection linear settings hessian iterate fixed penalty tries nextShift
        (Number.larger (Number.larger rowShift settings.regularization) 1e-12)

/-! ### The line search -/

/-- Whether a point is taken: its merit is an ordinary number and has decreased by a part of what
the slope promises, or the step is negligible. -/
def accepts (iterate : Iterate α n m) (direction : Direction α n m) (length : α)
    (candidate : Iterate α n m) : Bool :=
  let merit := candidate.merit direction.penalty
  Number.isFinite merit &&
    (merit ≤ iterate.merit direction.penalty + 1e-4 * length * direction.slope ||
      Column.maxNorm direction.step ≤ negligible iterate.point)

/-- The clamped point at a fraction of a step, if the program can be evaluated there. -/
def trial? (problem : Nlp α n m) (iterate : Iterate α n m) (direction : Direction α n m)
    (length : α) : Option (Iterate α n m) :=
  let point := clamp problem (Column.add iterate.point (Column.scale length direction.step))
  match problem.functions.evaluate point with
  | .ok evaluation => some (Iterate.of problem point evaluation)
  | .error _ => none

/-- The first point that is taken when the step is halved up to `halvings` times. -/
def lineSearch (problem : Nlp α n m) (iterate : Iterate α n m) (direction : Direction α n m) :
    (halvings : Nat) → (length : α) → Option (Iterate α n m)
  | 0, length =>
    (trial? problem iterate direction length).filter (accepts iterate direction length)
  | halvings + 1, length =>
    match (trial? problem iterate direction length).filter (accepts iterate direction length) with
    | some candidate => some candidate
    | none => lineSearch problem iterate direction halvings (length * 0.5)

/-- The number of halvings after which a full step is still at least `1e-12`. -/
def maxHalvings : Nat := 39

/-- The number of shifts that are tried. -/
def maxTries : Nat := 12

/-! ### The run -/

/-- Why a run was given up. -/
inductive Obstacle where
  | noDirection
  | lineSearchFailed
deriving Repr, DecidableEq

/-- The end of a run: the solution, and the obstacle at which it was given up. -/
structure Run (α : Type) where
  solution : NlpSolution α
  obstacle : Option Obstacle

/-- The warning about a run that was given up. -/
def Run.warning? (run : Run α) : Option String :=
  run.obstacle.map fun
    | .noDirection =>
      "SQP: no usable search direction at iteration " ++ toString run.solution.iterations
    | .lineSearchFailed => "SQP: line search failed at iteration " ++
      toString run.solution.iterations

/-- The solution at an iterate. -/
def solutionAt (problem : Nlp α n m) (iterate : Iterate α n m) (iterations : Nat)
    (status : SolverStatus) : NlpSolution α where
  point := iterate.point.toList
  objective := iterate.evaluation.objective
  violation := problem.violation iterate.evaluation.constraints
  iterations := iterations
  status := status

/-- What a run carries from one iteration to the next. -/
structure Progress (α : Type) (n m : Nat) where
  iterate : Iterate α n m
  multipliers : Vector α m
  penalty : α

/-- The Lagrangian gradient of a run. -/
def Progress.gradient (progress : Progress α n m) : Vector α n :=
  lagrangianGradient progress.iterate.evaluation.gradient progress.iterate.jacobian
    progress.multipliers

/-- Whether constraints and Lagrangian gradient are within the tolerance. -/
def Progress.hasConverged (settings : SqpSettings α) (problem : Nlp α n m)
    (progress : Progress α n m) : Bool :=
  let scale := Number.larger (Column.maxNorm progress.iterate.evaluation.gradient) 1
  Column.maxNorm progress.iterate.residual ≤ settings.tolerance &&
    stationarity problem progress.iterate.point progress.gradient ≤ settings.tolerance * scale

/-- What an iteration comes to: the next iterate, or an obstacle. -/
inductive Advance (α : Type) (n m : Nat) where
  | next (progress : Progress α n m)
  | obstructed (obstacle : Obstacle)

/-- One iteration. -/
def advance (linear : LinearSolver α) (settings : SqpSettings α) (problem : Nlp α n m)
    (progress : Progress α n m) : Outcome α (Advance α n m) := do
  let iterate := progress.iterate
  let gradient := progress.gradient
  let curvature ← hessian settings problem iterate.point progress.multipliers gradient
  let fixed := frozen problem iterate.point gradient
  match findDirection linear settings curvature iterate fixed progress.penalty maxTries
      settings.regularization 0 with
  | none => return .obstructed .noDirection
  | some direction =>
    match lineSearch problem iterate direction maxHalvings 1 with
    | none => return .obstructed .lineSearchFailed
    | some candidate => return .next ⟨candidate, direction.multipliers, direction.penalty⟩

/-- The status of a run that was given up at an iterate. -/
def obstructedStatus (settings : SqpSettings α) (iterate : Iterate α n m) : SolverStatus :=
  if settings.tolerance < Column.maxNorm iterate.residual then .infeasible else .numericalFailure

/-- The run from an iterate with at most `remaining` iterations, `iterations` having been made. -/
def run (linear : LinearSolver α) (settings : SqpSettings α) (problem : Nlp α n m) :
    (remaining iterations : Nat) → Progress α n m → Outcome α (Run α)
  | 0, iterations, progress =>
    let status := if progress.hasConverged settings problem then .converged else .iterationLimit
    .ok ⟨solutionAt problem progress.iterate iterations status, none⟩
  | remaining + 1, iterations, progress =>
    if progress.hasConverged settings problem then
      .ok ⟨solutionAt problem progress.iterate iterations .converged, none⟩
    else
      match advance linear settings problem progress with
      | .error failure => .error failure
      | .ok (.next progress) => run linear settings problem remaining (iterations + 1) progress
      | .ok (.obstructed obstacle) =>
        .ok ⟨solutionAt problem progress.iterate (iterations + 1)
          (obstructedStatus settings progress.iterate), some obstacle⟩

/-- The run from a point that has been evaluated. -/
def runFrom (linear : LinearSolver α) (settings : SqpSettings α) (problem : Nlp α n m)
    (point : Vector α n) (evaluation : Evaluation α n m) : Outcome α (Run α) :=
  run linear settings problem settings.maxIterations 0
    ⟨Iterate.of problem point evaluation, Column.zero m, settings.meritPenalty⟩

/-- The run from the start of a program, over a method for linear systems. -/
def solveWith (linear : LinearSolver α) (settings : SqpSettings α) (problem : Nlp α n m) :
    Outcome α (Run α) := do
  settings.validate
  if !problem.isEqualityConstrained then .error (.configuration .needsEqualities)
  else
    let point := clamp problem problem.start
    let evaluation ← problem.functions.evaluate point
    runFrom linear settings problem point evaluation

/-- The run from the start of a program, with elimination for linear systems. -/
def solve (settings : SqpSettings α) (problem : Nlp α n m) : Outcome α (Run α) :=
  solveWith (fun _ => Elimination.solve) settings problem

end Sqp

end MultipleShooting
