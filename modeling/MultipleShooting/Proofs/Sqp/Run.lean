/-
**What a run of the solver goes through.**

In any arithmetic and over any method for linear systems:

* `findDirection_eq_some`, `lineSearch_eq_some`, `advance_eq_next`: what it takes for a direction to
  be found, for a point to be taken and for an iteration to lead on. A found direction solves the
  stationarity conditions for some shifts, and a taken point is the trial point of a halved step and
  has been accepted.
* `Steps`: iterations that lead from one state of a run to another. A property that every iteration
  keeps is kept by all of them (`Steps.preserves`), and one that every iteration establishes holds
  as soon as there has been one (`Steps.establishes`).
* `EndsAt`: the ways in which a run ends, of which `run_endsAt` finds one for every run that has a
  result; `run_eq_error` tells when it has none, and `solveWith_ends` counts the iterations of both.
* `solveWith_converged`: **a run that has converged** stopped at a state that iterations lead to
  from the start, where the test of convergence holds; the point there is clamped and its evaluation
  is that of the program.
-/
import MultipleShooting.Proofs.Linear.Entries
import MultipleShooting.Proofs.Sqp.Search

namespace MultipleShooting

namespace Sqp

variable {α : Type} [Number α] {n m : Nat}

/-! ### Evaluated points -/

/-- An iterate that consists of a clamped point and of what the program's functions are there. -/
structure Iterate.IsEvaluated (problem : Nlp α n m) (iterate : Iterate α n m) : Prop where
  clamped : ∃ point, iterate.point = clamp problem point
  evaluated : problem.functions.evaluate iterate.point = .ok iterate.evaluation
  jacobian : iterate.jacobian = iterate.evaluation.jacobian.dense
  residual : iterate.residual = Column.sub iterate.evaluation.constraints problem.rowLower

/-- A clamped point that can be evaluated gives an evaluated iterate. -/
theorem Iterate.isEvaluated_of {problem : Nlp α n m} {point : Vector α n}
    {evaluation : Evaluation α n m}
    (evaluated : problem.functions.evaluate (clamp problem point) = .ok evaluation) :
    (Iterate.of problem (clamp problem point) evaluation).IsEvaluated problem :=
  ⟨⟨point, rfl⟩, evaluated, rfl, rfl⟩

/-! ### Directions -/

/-- A found direction is a solution of the stationarity conditions for some shifts, with a weight
that covers its multipliers, and descends or is negligible. -/
theorem findDirection_eq_some {linear : LinearSolver α} {settings : SqpSettings α}
    {curvature : Dense α n n} {iterate : Iterate α n m} {fixed : Vector Bool n} {penalty : α}
    {tries : Nat} {shift rowShift : α} {direction : Direction α n m}
    (found : findDirection linear settings curvature iterate fixed penalty tries shift rowShift =
      some direction) :
    ∃ shift rowShift,
      solveKkt linear curvature iterate fixed shift rowShift =
        some (direction.step, direction.multipliers) ∧
      direction.penalty =
        Number.larger penalty (1.1 * Column.maxNorm direction.multipliers) ∧
      direction.slope = Column.dot iterate.evaluation.gradient direction.step -
        direction.penalty * Column.sumNorm iterate.residual ∧
      (direction.slope < 0 ∨ Column.maxNorm direction.step ≤ negligible iterate.point) := by
  rw [findDirection_eq_findSome?] at found
  obtain ⟨attempt, -, here⟩ := List.exists_of_findSome?_eq_some found
  obtain ⟨step, multipliers, solved, rfl, usable⟩ := directionAt_eq_some.mp here
  exact ⟨_, _, solved, rfl, rfl, usable⟩

/-- A first solution of the stationarity conditions that descends or is negligible gives the
direction. -/
theorem findDirection_of_solveKkt {linear : LinearSolver α} {settings : SqpSettings α}
    {curvature : Dense α n n} {iterate : Iterate α n m} {fixed : Vector Bool n}
    {penalty shift rowShift : α} {step : Vector α n} {multipliers : Vector α m} (tries : Nat)
    (solved : solveKkt linear curvature iterate fixed shift rowShift = some (step, multipliers))
    (usable : (Direction.of iterate penalty step multipliers).slope < 0 ∨
      Column.maxNorm step ≤ negligible iterate.point) :
    findDirection linear settings curvature iterate fixed penalty (tries + 1) shift rowShift =
      some (Direction.of iterate penalty step multipliers) := by
  unfold findDirection
  rw [solved]
  exact if_pos usable

/-! ### Trial points -/

/-- A trial point is the clamped point at a fraction of the step, evaluated. -/
theorem trial_eq_some {problem : Nlp α n m} {iterate candidate : Iterate α n m}
    {direction : Direction α n m} {length : α}
    (tried : trial? problem iterate direction length = some candidate) :
    ∃ evaluation,
      problem.functions.evaluate (clamp problem
        (Column.add iterate.point (Column.scale length direction.step))) = .ok evaluation ∧
      candidate = Iterate.of problem (clamp problem
        (Column.add iterate.point (Column.scale length direction.step))) evaluation := by
  rw [trial?] at tried
  split at tried
  · next evaluation evaluated =>
    cases tried
    exact ⟨evaluation, evaluated, rfl⟩
  · cases tried

/-- A taken point is the trial point of the step halved a number of times, and it is accepted. -/
theorem lineSearch_eq_some {problem : Nlp α n m} {iterate candidate : Iterate α n m}
    {direction : Direction α n m} {halvings : Nat} {length : α}
    (taken : lineSearch problem iterate direction halvings length = some candidate) :
    ∃ halved ≤ halvings,
      trial? problem iterate direction ((· * 0.5)^[halved] length) = some candidate ∧
      accepts iterate direction ((· * 0.5)^[halved] length) candidate = true := by
  rw [lineSearch_eq_findSome?] at taken
  obtain ⟨halved, within, here⟩ := List.exists_of_findSome?_eq_some taken
  exact ⟨halved, Nat.lt_succ_iff.mp (List.mem_range.mp within), Option.filter_eq_some_iff.mp here⟩

/-- The full step is taken as soon as its trial point is accepted. -/
theorem lineSearch_of_accepts {problem : Nlp α n m} {iterate candidate : Iterate α n m}
    {direction : Direction α n m} {length : α} (halvings : Nat)
    (tried : trial? problem iterate direction length = some candidate)
    (accepted : accepts iterate direction length candidate = true) :
    lineSearch problem iterate direction halvings length = some candidate := by
  have kept : (trial? problem iterate direction length).filter
      (accepts iterate direction length) = some candidate :=
    Option.filter_eq_some_iff.mpr ⟨tried, accepted⟩
  cases halvings with
  | zero => exact kept
  | succ halvings => rw [lineSearch, kept]

/-! ### Iterations -/

/-- **What an iteration that leads on has done**: it has formed the Hessian, found a direction and
taken a point along it, and it carries the direction's multipliers and weight on. -/
theorem advance_eq_next {linear : LinearSolver α} {settings : SqpSettings α}
    {problem : Nlp α n m} {progress next : Progress α n m}
    (advanced : advance linear settings problem progress = .ok (.next next)) :
    ∃ curvature direction,
      hessian settings problem progress.iterate.point progress.multipliers progress.gradient =
        .ok curvature ∧
      findDirection linear settings curvature progress.iterate
        (frozen problem progress.iterate.point progress.gradient) progress.penalty maxTries
        settings.regularization 0 = some direction ∧
      lineSearch problem progress.iterate direction maxHalvings 1 = some next.iterate ∧
      next.multipliers = direction.multipliers ∧ next.penalty = direction.penalty := by
  rw [advance] at advanced
  cases formed : hessian settings problem progress.iterate.point progress.multipliers
      progress.gradient with
  | error failure =>
    rw [formed] at advanced
    cases advanced
  | ok curvature =>
    rw [formed] at advanced
    simp only [bind, Except.bind] at advanced
    split at advanced
    · cases advanced
    · next direction found =>
      split at advanced
      · cases advanced
      · next candidate taken =>
        cases advanced
        exact ⟨curvature, direction, rfl, found, taken, rfl, rfl⟩

/-- The next iterate is an evaluated one. -/
theorem advance_isEvaluated {linear : LinearSolver α} {settings : SqpSettings α}
    {problem : Nlp α n m} {progress next : Progress α n m}
    (advanced : advance linear settings problem progress = .ok (.next next)) :
    next.iterate.IsEvaluated problem := by
  obtain ⟨curvature, direction, _, _, taken, _, _⟩ := advance_eq_next advanced
  obtain ⟨halved, _, tried, _⟩ := lineSearch_eq_some taken
  obtain ⟨evaluation, evaluated, same⟩ := trial_eq_some tried
  rw [same]
  exact Iterate.isEvaluated_of evaluated

/-- Iterations that lead from one state of a run to another, none of the states before the last
having converged. -/
inductive Steps (linear : LinearSolver α) (settings : SqpSettings α) (problem : Nlp α n m) :
    (count : Nat) → (first last : Progress α n m) → Prop
  | none (progress : Progress α n m) : Steps linear settings problem 0 progress progress
  | more {count : Nat} {first second last : Progress α n m} :
      first.hasConverged settings problem = false →
      advance linear settings problem first = .ok (.next second) →
      Steps linear settings problem count second last →
      Steps linear settings problem (count + 1) first last

namespace Steps

variable {linear : LinearSolver α} {settings : SqpSettings α} {problem : Nlp α n m} {count : Nat}
  {first last : Progress α n m}

/-- A property that every iteration keeps is kept by any number of them. -/
theorem preserves {P : Progress α n m → Prop}
    (kept : ∀ progress next, P progress →
      advance linear settings problem progress = .ok (.next next) → P next)
    (steps : Steps linear settings problem count first last) (holds : P first) : P last := by
  induction steps with
  | none _ => exact holds
  | more _ advanced _ ih => exact ih (kept _ _ holds advanced)

/-- A property that every iteration establishes holds as soon as there has been one. -/
theorem establishes {P : Progress α n m → Prop}
    (made : ∀ progress next,
      advance linear settings problem progress = .ok (.next next) → P next)
    (steps : Steps linear settings problem count first last) (moved : count ≠ 0) : P last := by
  cases steps with
  | none _ => exact absurd rfl moved
  | more _ advanced rest =>
    exact rest.preserves (fun progress next _ => made progress next) (made _ _ advanced)

end Steps

/-! ### Runs -/

/-- The ways in which a run ends at a state that `count` iterations of at most `limit` have led to:
the test of convergence holds, the iterations are used up, or the next one meets an obstacle. -/
inductive EndsAt (linear : LinearSolver α) (settings : SqpSettings α) (problem : Nlp α n m)
    (limit count : Nat) (last : Progress α n m) : Run α → Prop
  | converged (passes : last.hasConverged settings problem = true) :
      EndsAt linear settings problem limit count last
        ⟨solutionAt problem last.iterate count .converged, none⟩
  | exhausted (fails : last.hasConverged settings problem = false) (spent : count = limit) :
      EndsAt linear settings problem limit count last
        ⟨solutionAt problem last.iterate count .iterationLimit, none⟩
  | obstructed (fails : last.hasConverged settings problem = false) (left : count < limit)
      {obstacle : Obstacle}
      (stuck : advance linear settings problem last = .ok (.obstructed obstacle)) :
      EndsAt linear settings problem limit count last
        ⟨solutionAt problem last.iterate (count + 1) (obstructedStatus settings last.iterate),
          some obstacle⟩

/-- No run makes more iterations than it may. -/
theorem EndsAt.iterations_le {linear : LinearSolver α} {settings : SqpSettings α}
    {problem : Nlp α n m} {limit count : Nat} {last : Progress α n m} {result : Run α}
    (ends : EndsAt linear settings problem limit count last result) (within : count ≤ limit) :
    result.solution.iterations ≤ limit := by
  cases ends with
  | converged _ => exact within
  | exhausted _ _ => exact within
  | obstructed _ left _ => exact left

/-- **A run from a state** ends where iterations have led to. -/
theorem run_endsAt {linear : LinearSolver α} {settings : SqpSettings α} {problem : Nlp α n m}
    {remaining iterations : Nat} {progress : Progress α n m} {result : Run α}
    (ended : run linear settings problem remaining iterations progress = .ok result) :
    ∃ count last, count ≤ remaining ∧ Steps linear settings problem count progress last ∧
      EndsAt linear settings problem (iterations + remaining) (iterations + count) last result := by
  induction remaining generalizing iterations progress with
  | zero =>
    unfold run at ended
    cases ended
    refine ⟨0, progress, le_rfl, .none progress, ?_⟩
    by_cases passes : progress.hasConverged settings problem = true
    · rw [if_pos passes]
      exact .converged passes
    · rw [if_neg passes]
      exact .exhausted (Bool.not_eq_true _ ▸ passes) rfl
  | succ remaining ih =>
    unfold run at ended
    split_ifs at ended with passes
    · cases ended
      exact ⟨0, progress, Nat.zero_le _, .none progress, .converged passes⟩
    · split at ended
      · cases ended
      · next next advanced =>
        obtain ⟨count, last, within, steps, ends⟩ := ih ended
        rw [Nat.add_right_comm, Nat.add_assoc, Nat.add_right_comm, Nat.add_assoc] at ends
        exact ⟨count + 1, last, Nat.succ_le_succ within,
          .more (Bool.not_eq_true _ ▸ passes) advanced steps, ends⟩
      · next obstacle stuck =>
        cases ended
        exact ⟨0, progress, Nat.zero_le _, .none progress,
          .obstructed (Bool.not_eq_true _ ▸ passes) (Nat.lt_add_of_pos_right (Nat.succ_pos _))
            stuck⟩

/-- **A run from a state fails** exactly when an iteration fails that it comes to before the limit,
at a state that has not converged. -/
theorem run_eq_error {linear : LinearSolver α} {settings : SqpSettings α} {problem : Nlp α n m}
    {remaining iterations : Nat} {progress : Progress α n m} {failure : Failure α} :
    run linear settings problem remaining iterations progress = .error failure ↔
      ∃ count last, count < remaining ∧ Steps linear settings problem count progress last ∧
        last.hasConverged settings problem = false ∧
        advance linear settings problem last = .error failure := by
  induction remaining generalizing iterations progress with
  | zero =>
    refine iff_of_false (fun failed => by cases failed) ?_
    rintro ⟨count, _, within, _⟩
    exact Nat.not_lt_zero count within
  | succ remaining ih =>
    unfold run
    constructor
    · intro failed
      split_ifs at failed with passes
      have notYet := Bool.not_eq_true _ ▸ passes
      split at failed
      · next cause stuck =>
        cases failed
        exact ⟨0, progress, Nat.succ_pos _, .none progress, notYet, stuck⟩
      · next next advanced =>
        obtain ⟨count, last, within, steps, stuck⟩ := ih.mp failed
        exact ⟨count + 1, last, Nat.succ_lt_succ within, .more notYet advanced steps, stuck⟩
      · cases failed
    · rintro ⟨count, last, within, steps, notYet, stuck⟩
      cases steps with
      | none _ => simp only [notYet, stuck, Bool.false_eq_true, if_false]
      | more notYetFirst advanced rest =>
        simp only [notYetFirst, advanced, Bool.false_eq_true, if_false]
        exact ih.mpr ⟨_, last, Nat.succ_lt_succ_iff.mp within, rest, notYet, stuck⟩

/-- A run from a state that ends as converged stops where iterations have led to and the test of
convergence holds. -/
theorem run_converged {linear : LinearSolver α} {settings : SqpSettings α} {problem : Nlp α n m}
    {remaining iterations : Nat} {progress : Progress α n m} {result : Run α}
    (ended : run linear settings problem remaining iterations progress = .ok result)
    (converged : result.solution.status = .converged) :
    ∃ count last, count ≤ remaining ∧ Steps linear settings problem count progress last ∧
      last.hasConverged settings problem = true ∧
      result.solution = solutionAt problem last.iterate (iterations + count) .converged := by
  obtain ⟨count, last, within, steps, ends⟩ := run_endsAt ended
  refine ⟨count, last, within, steps, ?_⟩
  cases ends with
  | converged passes => exact ⟨passes, rfl⟩
  | exhausted _ _ => cases converged
  | obstructed _ _ _ =>
    -- an obstructed run has one of the other two statuses
    unfold solutionAt obstructedStatus at converged
    split_ifs at converged

/-- The state in which the iterations begin. -/
def startOf (settings : SqpSettings α) (problem : Nlp α n m) (evaluation : Evaluation α n m) :
    Progress α n m :=
  ⟨Iterate.of problem (clamp problem problem.start) evaluation, Column.zero m,
    settings.meritPenalty⟩

/-- Every iterate that iterations have led to from the start is an evaluated one. -/
theorem Steps.isEvaluated {linear : LinearSolver α} {settings : SqpSettings α}
    {problem : Nlp α n m} {evaluation : Evaluation α n m} {count : Nat} {last : Progress α n m}
    (steps : Steps linear settings problem count (startOf settings problem evaluation) last)
    (evaluated : problem.functions.evaluate (clamp problem problem.start) = .ok evaluation) :
    last.iterate.IsEvaluated problem :=
  steps.preserves (P := fun progress => progress.iterate.IsEvaluated problem)
    (fun _ _ _ advanced => advance_isEvaluated advanced) (Iterate.isEvaluated_of evaluated)

/-- What it takes for a run to have a result: valid settings, equations, and a start that can be
evaluated. -/
theorem solveWith_eq_ok {linear : LinearSolver α} {settings : SqpSettings α}
    {problem : Nlp α n m} {result : Run α}
    (solved : solveWith linear settings problem = .ok result) :
    settings.validate = .ok () ∧ problem.isEqualityConstrained = true ∧
      ∃ evaluation, problem.functions.evaluate (clamp problem problem.start) = .ok evaluation ∧
        run linear settings problem settings.maxIterations 0 (startOf settings problem evaluation) =
          .ok result := by
  unfold solveWith at solved
  cases valid : settings.validate with
  | error failure =>
    rw [valid] at solved
    cases solved
  | ok _ =>
    rw [valid] at solved
    simp only [bind, Except.bind] at solved
    split_ifs at solved with equations
    · cases evaluated : problem.functions.evaluate (clamp problem problem.start) with
      | error failure =>
        rw [evaluated] at solved
        cases solved
      | ok evaluation =>
        rw [evaluated] at solved
        refine ⟨rfl, ?_, evaluation, rfl, solved⟩
        simpa using equations

/-- With valid settings, equations and a start that can be evaluated, the run is the one from the
start. -/
theorem solveWith_of_evaluated {linear : LinearSolver α} {settings : SqpSettings α}
    {problem : Nlp α n m} {evaluation : Evaluation α n m} (valid : settings.validate = .ok ())
    (equations : problem.isEqualityConstrained = true)
    (evaluated : problem.functions.evaluate (clamp problem problem.start) = .ok evaluation) :
    solveWith linear settings problem =
      run linear settings problem settings.maxIterations 0
        (startOf settings problem evaluation) := by
  unfold solveWith
  rw [valid, equations]
  simp only [bind, Except.bind, evaluated]
  rfl

/-- A run from a state that passes the test of convergence ends there. -/
theorem run_of_hasConverged {linear : LinearSolver α} {settings : SqpSettings α}
    {problem : Nlp α n m} {remaining iterations : Nat} {progress : Progress α n m}
    (passes : progress.hasConverged settings problem = true) :
    run linear settings problem remaining iterations progress =
      .ok ⟨solutionAt problem progress.iterate iterations .converged, none⟩ := by
  cases remaining with
  | zero =>
    unfold run
    simp only [passes, if_true]
  | succ remaining => rw [run, if_pos passes]

/-- A run from a state that has not converged goes on with the next one. -/
theorem run_of_advance {linear : LinearSolver α} {settings : SqpSettings α} {problem : Nlp α n m}
    {remaining iterations : Nat} {progress next : Progress α n m}
    (unconverged : progress.hasConverged settings problem = false)
    (advanced : advance linear settings problem progress = .ok (.next next)) :
    run linear settings problem (remaining + 1) iterations progress =
      run linear settings problem remaining (iterations + 1) next := by
  rw [run, unconverged, advanced]
  rfl

/-- **A run from a start that can be evaluated ends** after at most as many iterations as it may
make, with a result or as the last of them fails. -/
theorem solveWith_ends {linear : LinearSolver α} {settings : SqpSettings α} {problem : Nlp α n m}
    {evaluation : Evaluation α n m} (valid : settings.validate = .ok ())
    (equations : problem.isEqualityConstrained = true)
    (evaluated : problem.functions.evaluate (clamp problem problem.start) = .ok evaluation) :
    ∃ count last, Steps linear settings problem count (startOf settings problem evaluation) last ∧
      ((∃ result, solveWith linear settings problem = .ok result ∧
          result.solution.iterations ≤ settings.maxIterations ∧
          EndsAt linear settings problem settings.maxIterations count last result) ∨
        ∃ failure, solveWith linear settings problem = .error failure ∧
          count < settings.maxIterations ∧
          advance linear settings problem last = .error failure) := by
  rw [solveWith_of_evaluated valid equations evaluated]
  cases ended : run linear settings problem settings.maxIterations 0
      (startOf settings problem evaluation) with
  | ok result =>
    obtain ⟨count, last, within, steps, ends⟩ := run_endsAt ended
    rw [Nat.zero_add, Nat.zero_add] at ends
    exact ⟨count, last, steps, .inl ⟨result, rfl, ends.iterations_le within, ends⟩⟩
  | error failure =>
    obtain ⟨count, last, left, steps, -, stuck⟩ := run_eq_error.mp ended
    exact ⟨count, last, steps, .inr ⟨failure, rfl, left, stuck⟩⟩

/-- **A run that has converged** stopped at an evaluated iterate that passes the test of
convergence, and it has made as many iterations as led there. -/
theorem solveWith_converged {linear : LinearSolver α} {settings : SqpSettings α}
    {problem : Nlp α n m} {result : Run α}
    (solved : solveWith linear settings problem = .ok result)
    (converged : result.solution.status = .converged) :
    ∃ evaluation count last,
      problem.functions.evaluate (clamp problem problem.start) = .ok evaluation ∧
      Steps linear settings problem count (startOf settings problem evaluation) last ∧
      last.iterate.IsEvaluated problem ∧ last.hasConverged settings problem = true ∧
      result.solution = solutionAt problem last.iterate count .converged := by
  obtain ⟨_, _, evaluation, evaluated, ended⟩ := solveWith_eq_ok solved
  obtain ⟨count, last, _, steps, passed, same⟩ := run_converged ended converged
  rw [Nat.zero_add] at same
  exact ⟨evaluation, count, last, evaluated, steps, steps.isEvaluated evaluated, passed, same⟩

end Sqp

end MultipleShooting
