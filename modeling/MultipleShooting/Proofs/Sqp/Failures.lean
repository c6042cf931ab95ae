/-
**Why the solver fails.**

In any arithmetic and over any method for linear systems, a run that meets points where the program
cannot be evaluated goes around them wherever it can:

* `advance_eq_error`: an iteration fails only where its Hessian cannot be formed, whatever happens
  at the trial points;
* `HasCause`: the four causes of a failure. The settings are not valid, a row is no equation, the
  start cannot be evaluated, or there is no difference along a variable at an iterate from which the
  run has to go on;
* `solveWith_fails_iff`: **a run fails exactly when it has one of these causes**, and with the
  failure that is found there. A result is that of a point where the program can be evaluated.
-/
import MultipleShooting.Number.Double
import MultipleShooting.Proofs.Nlp
import MultipleShooting.Proofs.Sqp.Hessian
import MultipleShooting.Proofs.Sqp.Settings

namespace MultipleShooting

namespace Sqp

variable {α : Type} [Number α] {n m : Nat} {linear : LinearSolver α} {settings : SqpSettings α}
  {problem : Nlp α n m} {progress : Progress α n m} {failure : Failure α}

/-! ### Iterations -/

/-- **An iteration fails** along the first variable without a difference. Its searches cannot
fail. -/
theorem advance_eq_error :
    advance linear settings problem progress = .error failure ↔
      ∃ i, LacksDifference settings problem progress.iterate.point i failure ∧
        ∀ j < i, HasDifference settings problem progress.iterate.point j := by
  unfold advance
  rw [← hessian_eq_error, bind_eq_error]
  refine or_iff_left ?_
  rintro ⟨curvature, -, searched⟩
  dsimp only at searched
  split at searched
  · cases searched
  · split at searched
    · cases searched
    · cases searched

/-- Where there is no variable without a difference, an iteration leads on or meets an obstacle. -/
theorem advance_of_hasDifference
    (differences : ∀ i, HasDifference settings problem progress.iterate.point i) :
    ∃ outcome, advance linear settings problem progress = .ok outcome := by
  cases advanced : advance linear settings problem progress with
  | ok outcome => exact ⟨outcome, rfl⟩
  | error failure =>
    obtain ⟨i, lacks, _⟩ := advance_eq_error.mp advanced
    obtain ⟨_, failsAhead⟩ := lacks.ahead
    obtain ⟨_, evaluated⟩ | ⟨_, evaluated⟩ := differences i
    · rw [failsAhead] at evaluated
      cases evaluated
    · rw [lacks.behind] at evaluated
      cases evaluated

/-! ### Causes -/

/-- **Why a run fails** with a failure. -/
inductive HasCause (linear : LinearSolver α) (settings : SqpSettings α) (problem : Nlp α n m) :
    Failure α → Prop
  | settings {failure : Failure α} (invalid : settings.validate = .error failure) :
      HasCause linear settings problem failure
  | row (valid : settings.validate = .ok ()) (row : Fin m)
      (unequal : (problem.rowLower.get row == problem.rowUpper.get row) = false) :
      HasCause linear settings problem (.configuration .needsEqualities)
  | start {failure : Failure α} (valid : settings.validate = .ok ())
      (equations : ∀ row, (problem.rowLower.get row == problem.rowUpper.get row) = true)
      (fails : problem.functions.evaluate (clamp problem problem.start) = .error failure) :
      HasCause linear settings problem failure
  | difference {failure : Failure α} (valid : settings.validate = .ok ())
      (equations : ∀ row, (problem.rowLower.get row == problem.rowUpper.get row) = true)
      {first : Evaluation α n m}
      (evaluated : problem.functions.evaluate (clamp problem problem.start) = .ok first)
      {count : Nat} {last : Progress α n m}
      (steps : Steps linear settings problem count (startOf settings problem first) last)
      (unconverged : last.hasConverged settings problem = false)
      (left : count < settings.maxIterations) {i : Fin n}
      (lacks : LacksDifference settings problem last.iterate.point i failure)
      (before : ∀ j < i, HasDifference settings problem last.iterate.point j) :
      HasCause linear settings problem failure

/-- Every failure of a run has a cause. -/
theorem hasCause_of_solveWith (failed : solveWith linear settings problem = .error failure) :
    HasCause linear settings problem failure := by
  cases valid : settings.validate with
  | error cause =>
    unfold solveWith at failed
    rw [valid] at failed
    cases failed
    exact .settings valid
  | ok _ =>
    by_cases equations : problem.isEqualityConstrained = true
    · have equal := Nlp.isEqualityConstrained_iff.mp equations
      cases evaluated : problem.functions.evaluate (clamp problem problem.start) with
      | error cause =>
        unfold solveWith at failed
        simp only [valid, equations, evaluated, bind, Except.bind, Bool.not_true,
          Bool.false_eq_true, if_false] at failed
        cases failed
        exact .start valid equal evaluated
      | ok first =>
        rw [solveWith_of_evaluated valid equations evaluated, run_eq_error] at failed
        obtain ⟨count, last, left, steps, unconverged, stuck⟩ := failed
        obtain ⟨i, lacks, before⟩ := advance_eq_error.mp stuck
        exact .difference valid equal evaluated steps unconverged left lacks before
    · have mixed := Bool.eq_false_iff.mpr equations
      obtain ⟨row, unequal⟩ := Nlp.isEqualityConstrained_eq_false_iff.mp mixed
      unfold solveWith at failed
      simp only [valid, mixed, bind, Except.bind, Bool.not_false, if_true] at failed
      cases failed
      exact .row valid row unequal

/-- Every cause makes a run fail. -/
theorem HasCause.solveWith (cause : HasCause linear settings problem failure) :
    Sqp.solveWith linear settings problem = .error failure := by
  cases cause with
  | settings invalid =>
    unfold Sqp.solveWith
    rw [invalid]
    rfl
  | row valid row unequal =>
    unfold Sqp.solveWith
    rw [valid, Nlp.isEqualityConstrained_eq_false_iff.mpr ⟨row, unequal⟩]
    rfl
  | start valid equations fails =>
    unfold Sqp.solveWith
    rw [valid, Nlp.isEqualityConstrained_iff.mpr equations]
    simp only [bind, Except.bind, fails]
    rfl
  | difference valid equations evaluated steps unconverged left lacks before =>
    rw [solveWith_of_evaluated valid (Nlp.isEqualityConstrained_iff.mpr equations) evaluated,
      run_eq_error]
    exact ⟨_, _, left, steps, unconverged, advance_eq_error.mpr ⟨_, lacks, before⟩⟩

/-- The point of a result is one where the program can be evaluated. -/
theorem solveWith_evaluates {result : Run α}
    (solved : solveWith linear settings problem = .ok result) :
    ∃ point evaluation, result.solution.point = point.toList ∧
      problem.functions.evaluate point = .ok evaluation := by
  obtain ⟨_, _, first, evaluated, ended⟩ := solveWith_eq_ok solved
  obtain ⟨_, last, _, steps, ends⟩ := run_endsAt ended
  refine ⟨last.iterate.point, last.iterate.evaluation, ?_, (steps.isEvaluated evaluated).evaluated⟩
  cases ends <;> rfl

/-- **A run fails only for the stated causes** and absorbs every other failure of the program: an
iteration leads on or meets an obstacle wherever each variable has a difference, and no point where
the program fails is ever a result. -/
theorem solveWith_fails_iff :
    (∀ failure, solveWith linear settings problem = .error failure ↔
      HasCause linear settings problem failure) ∧
    (∀ progress : Progress α n m,
      (∀ i, HasDifference settings problem progress.iterate.point i) →
        ∃ outcome, advance linear settings problem progress = .ok outcome) ∧
    ∀ result, solveWith linear settings problem = .ok result →
      ∃ point evaluation, result.solution.point = point.toList ∧
        problem.functions.evaluate point = .ok evaluation :=
  ⟨fun _ => ⟨hasCause_of_solveWith, HasCause.solveWith⟩, fun _ => advance_of_hasDifference,
    fun _ => solveWith_evaluates⟩

/-- A program without rows that can be evaluated at zero only, where it has the slope one. -/
def pinned : Nlp Float 1 0 where
  functions :=
    let slope : Vector Float 1 := Vector.replicate 1 1
    let evaluate (point : Vector Float 1) : Outcome Float (Evaluation Float 1 0) :=
      if point.get 0 == 0 then .ok ⟨0, slope, #v[], ⟨⟨[0], []⟩, []⟩⟩
      else .error (.evaluation .cost ⟨none, none, none⟩ point.toList [])
    { objective point := (evaluate point).map Evaluation.objective
      gradient point := (evaluate point).map Evaluation.gradient
      constraints point := (evaluate point).map Evaluation.constraints
      jacobian point := (evaluate point).map Evaluation.jacobian
      evaluate := evaluate
      pattern := [] }
  lower := Vector.replicate 1 .minusInfinity
  upper := Vector.replicate 1 .plusInfinity
  start := Column.zero 1
  rowLower := #v[]
  rowUpper := #v[]

/-- The standard settings are valid. -/
theorem valid_standard : (SqpSettings.standard : SqpSettings Float).validate = .ok () :=
  SqpSettings.validate_eq_ok.mpr (by decide +kernel)

/-- The run on the program that can be evaluated at zero only fails behind zero. -/
theorem solveWith_fails_pinned : solve .standard pinned =
    .error (.evaluation .cost ⟨none, none, none⟩ [-1e-6] []) := by
  refine (solveWith_fails_iff.1 _).mpr (.difference valid_standard (fun row => row.elim0) rfl
    (.none _) (by decide +kernel) (by decide) (i := 0) ⟨⟨_, rfl⟩, ?_⟩ fun j below => ?_)
  · rfl
  · exact absurd below (Nat.not_lt_zero j)

end Sqp

end MultipleShooting
