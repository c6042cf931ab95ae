/-
**What every result of the solver guarantees.**

Over doubles and any method for linear systems, whatever the status of the result:

* `Steps.admits`: every iterate lies between the bounds, since the first point and every trial point
  are clamped;
* `Describes`: the solution has objective and violation of the evaluation at its point;
* `StatusHolds`: the status says the truth about the violation and the number of iterations. The
  violation that is reported and the one that decides the status are the same double
  (`Nlp.violation_eq_maxNorm`);
* `solveWith_guarantees`: **all of this holds of every result**.
-/
import MultipleShooting.Proofs.Bound.Double
import MultipleShooting.Proofs.Nlp
import MultipleShooting.Proofs.Nlp.Violation
import MultipleShooting.Proofs.Sqp.Finite

namespace MultipleShooting

/-- A point lies between the bounds of a program, component by component. -/
def Nlp.Admits {n m : Nat} (problem : Nlp Float n m) (point : Vector Float n) : Prop :=
  ∀ i, Bound.Within (problem.lower.get i) (problem.upper.get i) (point.get i)

namespace Sqp

variable {n m : Nat} {linear : LinearSolver Float} {settings : SqpSettings Float}
  {problem : Nlp Float n m}

/-- A solution is that of a point: what it reports is the evaluation there. -/
structure Describes (problem : Nlp Float n m) (solution : NlpSolution Float)
    (point : Vector Float n) (evaluation : Evaluation Float n m) : Prop where
  coordinates : solution.point = point.toList
  evaluated : problem.functions.evaluate point = .ok evaluation
  objective : solution.objective = evaluation.objective
  violation : solution.violation = problem.violation evaluation.constraints

/-- What the status of a solution says about its violation and its iterations. -/
def StatusHolds (settings : SqpSettings Float) (solution : NlpSolution Float) : Prop :=
  match solution.status with
  | .converged => solution.violation ≤ settings.tolerance
  | .iterationLimit => solution.iterations = settings.maxIterations
  | .infeasible => settings.tolerance < solution.violation ∧ 1 ≤ solution.iterations
  | .numericalFailure => solution.violation ≤ settings.tolerance ∧ 1 ≤ solution.iterations

/-! ### Iterates -/

/-- A clamped point lies between the bounds. -/
theorem clamp_within
    (apart : ∀ i, (problem.lower.get i).crossed (problem.upper.get i) = false)
    (point : Vector Float n) : problem.Admits (clamp problem point) := by
  intro i
  rw [clamp, Vector.get_ofFn]
  exact Bound.within_clamp (apart i) _

/-- **Every iterate is evaluated and lies between the bounds.** -/
theorem Steps.admits {evaluation : Evaluation Float n m} {count : Nat}
    {last : Progress Float n m}
    (apart : ∀ i, (problem.lower.get i).crossed (problem.upper.get i) = false)
    (evaluated : problem.functions.evaluate (clamp problem problem.start) = .ok evaluation)
    (steps : Steps linear settings problem count (startOf settings problem evaluation) last) :
    last.iterate.IsEvaluated problem ∧ problem.Admits last.iterate.point := by
  have isEvaluated := steps.isEvaluated evaluated
  obtain ⟨point, same⟩ := isEvaluated.clamped
  rw [same]
  exact ⟨isEvaluated, clamp_within apart point⟩

/-! ### Statuses -/

/-- The violation at an evaluated iterate is the magnitude that the solver measures. -/
theorem Iterate.IsEvaluated.violation_eq {iterate : Iterate Float n m}
    (isEvaluated : iterate.IsEvaluated problem)
    (equations : problem.isEqualityConstrained = true) :
    problem.violation iterate.evaluation.constraints = Column.maxNorm iterate.residual := by
  rw [isEvaluated.residual]
  exact Nlp.violation_eq_maxNorm equations _

/-- **The status of a run holds**, however the run ends. -/
theorem EndsAt.statusHolds {count : Nat} {last : Progress Float n m} {result : Run Float}
    (ends : EndsAt linear settings problem settings.maxIterations count last result)
    (ordinary : Number.isFinite settings.tolerance = true)
    (measured : problem.violation last.iterate.evaluation.constraints =
      Column.maxNorm last.iterate.residual) :
    StatusHolds settings result.solution := by
  cases ends with
  | converged passes =>
    unfold Progress.hasConverged at passes
    rw [Bool.and_eq_true, decide_eq_true_eq] at passes
    exact le_of_eq_of_le measured passes.1
  | exhausted _ spent => exact spent
  | obstructed _ _ _ =>
    unfold solutionAt obstructedStatus
    rw [measured]
    split_ifs with beyond
    · exact ⟨beyond, Nat.succ_pos _⟩
    · -- neither the measure nor the tolerance is a NaN
      have within := Double.le_of_not_lt (Double.isNaN_maxNorm last.iterate.residual)
        (Double.isNaN_of_isFinite ordinary) beyond
      exact ⟨within, Nat.succ_pos _⟩

/-- The solution of a run is that of the iterate where it ends. -/
theorem EndsAt.describes {limit count : Nat} {last : Progress Float n m} {result : Run Float}
    (ends : EndsAt linear settings problem limit count last result)
    (isEvaluated : last.iterate.IsEvaluated problem) :
    Describes problem result.solution last.iterate.point last.iterate.evaluation := by
  cases ends <;> exact ⟨rfl, isEvaluated.evaluated, rfl, rfl⟩

/-! ### Results -/

/-- **What every result guarantees.** A result takes valid settings and equations. Every iterate of
its run lies between the bounds; the solution is that of the iterate where the run has ended, and
its status says the truth about violation and iterations. -/
theorem solveWith_guarantees {functions : NlpFunctions Float n m}
    {lower upper : List (Bound Float)} {start rowLower rowUpper : List Float} {result : Run Float}
    (made : Nlp.make functions lower upper start rowLower rowUpper = .ok problem)
    (solved : solveWith linear settings problem = .ok result) :
    result.solution.iterations ≤ settings.maxIterations ∧
      StatusHolds settings result.solution ∧ ∃ first,
      problem.functions.evaluate (clamp problem problem.start) = .ok first ∧
      (∀ count progress,
        Steps linear settings problem count (startOf settings problem first) progress →
          problem.Admits progress.iterate.point) ∧
      ∃ count last,
        Steps linear settings problem count (startOf settings problem first) last ∧
          problem.Admits last.iterate.point ∧
          Describes problem result.solution last.iterate.point last.iterate.evaluation := by
  obtain ⟨-, -, -, -, -, -, crossNowhere⟩ := Nlp.make_eq_ok.mp made
  have apart := Nlp.not_crossed_of_boundsCross crossNowhere
  obtain ⟨valid, equations, first, evaluated, ended⟩ := solveWith_eq_ok solved
  obtain ⟨count, last, within, steps, ends⟩ := run_endsAt ended
  rw [Nat.zero_add, Nat.zero_add] at ends
  obtain ⟨isEvaluated, admitted⟩ := steps.admits apart evaluated
  have ordinary := (SqpSettings.validate_eq_ok.mp valid).1.1
  refine ⟨ends.iterations_le within,
    ends.statusHolds ordinary (isEvaluated.violation_eq equations), first, evaluated, ?_, count,
    last, steps, admitted, ends.describes isEvaluated⟩
  intro _ _ reached
  exact (reached.admits apart evaluated).2

/-- What the result of the run into a bound guarantees: the run has moved twice, and ends with `x`
at its upper bound. -/
theorem solveWith_guarantees_capped : ∃ run, solve .standard capped.nlp = .ok run ∧
    run.solution.iterations = 2 ∧ StatusHolds .standard run.solution ∧
    capped.nlp.upper.get 0 = .limit 2 ∧ capped.nlp.Admits #v[2, 2] ∧
    ∃ evaluation, Describes capped.nlp run.solution #v[2, 2] evaluation := by
  have made : Nlp.make capped.nlp.functions capped.nlp.lower.toList capped.nlp.upper.toList
      capped.nlp.start.toList capped.nlp.rowLower.toList capped.nlp.rowUpper.toList =
        .ok capped.nlp :=
    Nlp.make_eq_ok.mpr ⟨rfl, rfl, rfl, rfl, rfl, rfl, by decide +kernel⟩
  obtain ⟨run, solved, _, moved, reached⟩ := capped.solved
  obtain ⟨_, holds, _, _, _, _, last, _, admitted, describes⟩ := solveWith_guarantees made solved
  have ended := capped.eq_of_toList (reached.symm.trans describes.coordinates)
  rw [ended] at admitted describes
  exact ⟨run, solved, moved, holds, rfl, admitted, _, describes⟩

end Sqp

end MultipleShooting
