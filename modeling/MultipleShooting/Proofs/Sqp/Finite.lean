/-
**Convergence over doubles.**

The test of convergence takes largest magnitudes, which drop NaNs, and scales its tolerance by the
gradient. What it lets through:

* `Progress.rows_within`: every row of a converged run is within the tolerance or a NaN;
* `advance_merit`: a point that a run has moved to has an ordinary merit, hence an ordinary
  objective and no row that is a NaN;
* `solveWith_isMetBy_iff`: **a converged run is to be trusted exactly when** its gradient is made of
  ordinary numbers and, if it has stopped where it began, its objective is one and no row is a NaN;
* `capped.nlp`: a program whose run ends at a bound after two iterations;
* `steep.converges_with_nan`: a model whose run converges at once on a row that is a NaN.
-/
import MultipleShooting.Proofs.Linear.Double
import MultipleShooting.Proofs.Sqp.Run
import MultipleShooting.Proofs.Sqp.Settings
import MultipleShooting.Shooting

namespace MultipleShooting

/-- An evaluation meets the constraints of a program within a tolerance, and nothing in it is
infinite or a NaN. -/
structure Nlp.IsMetBy {n m : Nat} (problem : Nlp Float n m) (tolerance : Float)
    (evaluation : Evaluation Float n m) : Prop where
  objective : Number.isFinite evaluation.objective = true
  gradient : Column.isFinite evaluation.gradient = true
  constraints : Column.isFinite evaluation.constraints = true
  rows : ∀ i, Number.abs (evaluation.constraints.get i - problem.rowLower.get i) ≤ tolerance

namespace Sqp

/-! ### Points that a run has moved to -/

/-- **The merit of a point that was moved to is an ordinary number.** -/
theorem advance_merit {α : Type} [Number α] {n m : Nat} {linear : LinearSolver α}
    {settings : SqpSettings α} {problem : Nlp α n m} {progress next : Progress α n m}
    (advanced : advance linear settings problem progress = .ok (.next next)) :
    Number.isFinite (next.iterate.merit next.penalty) = true := by
  obtain ⟨curvature, direction, _, _, taken, _, penalty⟩ := advance_eq_next advanced
  obtain ⟨halved, _, _, accepted⟩ := lineSearch_eq_some taken
  rw [penalty]
  exact (Bool.and_eq_true _ _ ▸ accepted).1

variable {n m : Nat} {settings : SqpSettings Float} {problem : Nlp Float n m}

/-- An ordinary merit is made of an ordinary objective and of ordinary residuals. -/
theorem Iterate.isFinite_of_merit {iterate : Iterate Float n m} {penalty : Float}
    (finite : Number.isFinite (iterate.merit penalty) = true) :
    Number.isFinite iterate.evaluation.objective = true ∧
      ∀ i, Number.isFinite (iterate.residual.get i) = true := by
  obtain ⟨objective, weighted⟩ := Double.isFinite_of_add finite
  exact ⟨objective, Column.isFinite_of_sumNorm (Double.isFinite_of_mul weighted).2⟩

/-! ### Rows of a converged run -/

/-- **A row of a converged run** is within the tolerance, if it is a number at all. -/
theorem Progress.rows_within {progress : Progress Float n m}
    (converged : progress.hasConverged settings problem = true) (i : Fin m)
    (number : Number.isNaN (progress.iterate.residual.get i) = false) :
    Number.abs (progress.iterate.residual.get i) ≤ settings.tolerance := by
  unfold Progress.hasConverged at converged
  rw [Bool.and_eq_true, decide_eq_true_eq] at converged
  exact Column.abs_le_of_maxNorm_le converged.1 i number

/-- **When a converged run is to be trusted.** The evaluation where a run has converged meets the
constraints, with nothing infinite or undefined in it, exactly when its gradient is made of ordinary
numbers and, if the run has stopped where it began, the objective is one and no row is a NaN. -/
theorem solveWith_isMetBy_iff {linear : LinearSolver Float} {result : Run Float}
    (solved : solveWith linear settings problem = .ok result)
    (converged : result.solution.status = .converged) :
    ∃ point evaluation, result.solution.point = point.toList ∧
      problem.functions.evaluate point = .ok evaluation ∧
      (problem.IsMetBy settings.tolerance evaluation ↔
        Column.isFinite evaluation.gradient = true ∧
        (result.solution.iterations = 0 → Number.isFinite evaluation.objective = true ∧
          ∀ i, Number.isNaN (evaluation.constraints.get i - problem.rowLower.get i) = false)) := by
  have ordinary := (SqpSettings.validate_eq_ok.mp (solveWith_eq_ok solved).1).1.1
  obtain ⟨_, count, last, _, steps, isEvaluated, passes, same⟩ :=
    solveWith_converged solved converged
  have residual (i : Fin m) : last.iterate.evaluation.constraints.get i - problem.rowLower.get i =
      last.iterate.residual.get i := by
    rw [isEvaluated.residual, Column.get_sub]
  rw [same]
  refine ⟨last.iterate.point, last.iterate.evaluation, rfl, isEvaluated.evaluated, ?_⟩
  simp only [residual]
  constructor
  · intro met
    refine ⟨met.gradient, fun _ => ⟨met.objective, ?_⟩⟩
    intro i
    have within := met.rows i
    rw [residual] at within
    exact Double.isNaN_of_isFinite (Double.isFinite_of_abs_le within ordinary)
  · rintro ⟨gradient, began⟩
    have sound : Number.isFinite last.iterate.evaluation.objective = true ∧
        ∀ i, Number.isNaN (last.iterate.residual.get i) = false := by
      by_cases unmoved : count = 0
      · exact began unmoved
      · -- The last point was moved to, so its merit has been checked.
        have merit := steps.establishes
          (P := fun progress => Number.isFinite (progress.iterate.merit progress.penalty) = true)
          (fun _ _ advanced => advance_merit advanced) unmoved
        obtain ⟨objective, finite⟩ := Iterate.isFinite_of_merit merit
        exact ⟨objective, fun i => Double.isNaN_of_isFinite (finite i)⟩
    have within (i : Fin m) := last.rows_within passes i (sound.2 i)
    refine ⟨sound.1, gradient, (Column.isFinite_iff _).mpr ?_, ?_⟩
    · intro i
      have finite := Double.isFinite_of_abs_le (within i) ordinary
      rw [← residual] at finite
      exact (Double.isFinite_of_sub finite).1
    · intro i
      rw [residual]
      exact within i

/-! ### A run into a bound -/

namespace capped

/-- The objective `x² / 2 - 3 x` and the row `y - x`, with their derivatives. -/
def evaluation (point : Vector Float 2) : Evaluation Float 2 1 :=
  let x := point.get ⟨0, Nat.two_pos⟩
  let y := point.get ⟨1, Nat.one_lt_two⟩
  ⟨0.5 * (x * x) - 3 * x, #v[x - 3, 0], #v[y - x], ⟨⟨[0, 2], [0, 1]⟩, [-1, 1]⟩⟩

/-- The program of these functions with `0 ≤ x ≤ 2` and `y = x`, to be started at `x = 0`, `y = 1`.
Its objective falls up to `x = 3`. -/
def nlp : Nlp Float 2 1 where
  functions :=
    { objective := fun point => .ok (evaluation point).objective
      gradient := fun point => .ok (evaluation point).gradient
      constraints := fun point => .ok (evaluation point).constraints
      jacobian := fun point => .ok (evaluation point).jacobian
      evaluate := fun point => .ok (evaluation point)
      pattern := [(0, 0), (0, 1)] }
  lower := #v[.limit 0, .minusInfinity]
  upper := #v[.limit 2, .plusInfinity]
  start := #v[0, 1]
  rowLower := #v[0]
  rowUpper := #v[0]

/-- How the run on the program ends: its status, its iterations and its point. -/
def verdict : Option (SolverStatus × Nat × List Float) :=
  match solve .standard nlp with
  | .error _ => none
  | .ok run => some (run.solution.status, run.solution.iterations, run.solution.point)

/-- The run converges after two iterations, with `x` at its upper bound. -/
theorem solved : ∃ run, solve .standard nlp = .ok run ∧ run.solution.status = .converged ∧
    run.solution.iterations = 2 ∧ run.solution.point = [2, 2] := by
  have computed : verdict = some (.converged, 2, [2, 2]) := by decide +kernel
  rw [verdict] at computed
  split at computed
  · cases computed
  · next run ran =>
    simp only [Option.some.injEq, Prod.mk.injEq] at computed
    exact ⟨run, ran, computed⟩

/-- There is one point with the components of the end. -/
theorem eq_of_toList {point : Vector Float 2} (same : [2, 2] = point.toList) : point = #v[2, 2] :=
  Vector.toList_inj.mp same.symm

end capped

/-- The run into the bound has moved, so its convergence is to be trusted. -/
theorem solveWith_isMetBy_capped : ∃ run, solve .standard capped.nlp = .ok run ∧
    run.solution.status = .converged ∧ run.solution.iterations = 2 ∧
    run.solution.point = [2, 2] ∧ ∃ evaluation,
      capped.nlp.functions.evaluate #v[2, 2] = .ok evaluation ∧
      capped.nlp.IsMetBy SqpSettings.standard.tolerance evaluation := by
  obtain ⟨run, solved, converged, moved, reached⟩ := capped.solved
  obtain ⟨point, evaluation, same, evaluated, trusted⟩ := solveWith_isMetBy_iff solved converged
  obtain rfl := capped.eq_of_toList (reached.symm.trans same)
  have gradient : Column.isFinite (capped.evaluation #v[2, 2]).gradient = true := by
    decide +kernel
  cases evaluated
  refine ⟨run, solved, converged, moved, reached, _, rfl, trusted.mpr ⟨gradient, ?_⟩⟩
  intro unmoved
  cases moved.symm.trans unmoved

/-! ### A steep model -/

namespace steep

/-- A state `x` with `dx/dt = 5e307 / (1 - 2.4e-308 x)` that begins at zero. -/
def model : Model Float :=
  Model.unbounded ["x"] []
    [.binary .div (.const 5e307)
      (.binary .sub (.const 1) (.binary .mul (.const 2.4e-308) (.var "x")))]
    (.const 0) [.var "x"]

/-- One linked interval of one sub-step. -/
def horizon : Horizon Float := ⟨1, 1, 1, true, false⟩

/-- How the run on the model ends: its status, whether it has stopped where it began, and whether
the constraints are made of ordinary numbers there. -/
def verdict : Option (SolverStatus × Bool × Bool) :=
  match transcribe horizon model with
  | .error _ => none
  | .ok transcription =>
    match Sqp.solve .standard transcription.nlp,
      transcription.nlp.functions.evaluate transcription.nlp.start with
    | .ok run, .ok evaluation =>
      some (run.solution.status, decide (run.solution.point = transcription.nlp.start.toList),
        Column.isFinite evaluation.constraints)
    | _, _ => none

/-- **A run that converges on a NaN.** The slopes of the four stages are ordinary numbers, but their
weighted sum is the difference of two infinities. The gap of the interval is then a NaN, which the
largest magnitude drops. -/
theorem converges_with_nan : ∃ transcription run evaluation,
    transcribe horizon model = .ok transcription ∧
    Sqp.solve .standard transcription.nlp = .ok run ∧ run.solution.status = .converged ∧
    run.solution.point = transcription.nlp.start.toList ∧
    transcription.nlp.functions.evaluate transcription.nlp.start = .ok evaluation ∧
    ¬ transcription.nlp.IsMetBy SqpSettings.standard.tolerance evaluation := by
  have computed : verdict = some (.converged, true, false) := by decide +kernel
  rw [verdict] at computed
  split at computed
  · cases computed
  · next transcription transcribed =>
    split at computed
    · next run evaluation solved evaluated =>
      simp only [Option.some.injEq, Prod.mk.injEq, decide_eq_true_eq] at computed
      obtain ⟨converged, stopped, undefined⟩ := computed
      refine ⟨transcription, run, evaluation, transcribed, solved, converged, stopped, evaluated,
        fun met => ?_⟩
      rw [met.constraints] at undefined
      cases undefined
    · cases computed

end steep

end Sqp

end MultipleShooting
