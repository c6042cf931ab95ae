/-
**Every accepted step descends.**

Read over the real numbers, for any method for linear systems, where the merit is the objective with
the weighted distances of the rows from their equations (`Nlp.merit`):

* `TakesStep`: what an iteration that leads on has done. It goes along the direction that it has
  found, by the first halving of it at which the trial point is accepted
  (`exists_takesStep_of_advance`);
* `TakesStep.descends`: **the merit descends along a step that is not negligible**, with a weight
  that is no smaller than before and covers the multipliers;
* `nodup_of_moves`: while the weight stays the same, such steps come to no point twice;
* `solveWith_descends`: all of this holds of every iteration of a run. The run ends after as many
  iterations as it may make, and an iteration searches through a bounded number of systems and of
  trial points.
-/
import Mathlib
import MultipleShooting.Proofs.Sqp.Quadratic

namespace MultipleShooting

open Matrix

variable {n m : Nat}

/-- The merit of an evaluation: the objective and the weighted distances of the rows from their
equations. -/
noncomputable def Nlp.merit (problem : Nlp ℝ n m) (penalty : ℝ) (evaluation : Evaluation ℝ n m) :
    ℝ :=
  evaluation.objective +
    penalty * ∑ row, |evaluation.constraints.get row - problem.rowLower.get row|

/-- The slope of the merit along a step. -/
noncomputable def Nlp.meritSlope (problem : Nlp ℝ n m) (penalty : ℝ) (evaluation : Evaluation ℝ n m)
    (step : Vector ℝ n) : ℝ :=
  evaluation.gradient.get ⬝ᵥ step.get -
    penalty * ∑ row, |evaluation.constraints.get row - problem.rowLower.get row|

namespace Sqp

variable {linear : LinearSolver ℝ} {settings : SqpSettings ℝ} {problem : Nlp ℝ n m}

/-- A step that is longer than a negligible one at a point. -/
def Exceeds (step point : Vector ℝ n) : Prop := 1e-15 * (1 + ‖point.get‖) < ‖step.get‖

theorem exceeds_iff {step point : Vector ℝ n} :
    Exceeds step point ↔ ¬ Column.maxNorm step ≤ negligible point := by
  unfold Exceeds negligible
  rw [Column.maxNorm_real, Column.maxNorm_real, not_le]

/-- The length of a step that has been halved. -/
theorem iterate_half (halved : Nat) (length : ℝ) :
    (· * 0.5)^[halved] length = length * (1 / 2) ^ halved := by
  have half : (0.5 : ℝ) = 1 / 2 := by norm_num
  rw [mul_right_iterate, half]

/-! ### The merit at an iterate -/

/-- The sum of the residuals at an evaluated iterate. -/
theorem Iterate.IsEvaluated.sumNorm_residual {iterate : Iterate ℝ n m}
    (isEvaluated : iterate.IsEvaluated problem) :
    Column.sumNorm iterate.residual =
      ∑ row, |iterate.evaluation.constraints.get row - problem.rowLower.get row| := by
  rw [Column.sumNorm_real, isEvaluated.residual]
  simp only [Column.get_sub]

theorem Iterate.IsEvaluated.merit_eq {iterate : Iterate ℝ n m}
    (isEvaluated : iterate.IsEvaluated problem) (penalty : ℝ) :
    iterate.merit penalty = problem.merit penalty iterate.evaluation := by
  rw [Iterate.merit, Nlp.merit, isEvaluated.sumNorm_residual]

/-- Iterates at the same point have the same merit. -/
theorem Iterate.IsEvaluated.merit_congr {left right : Iterate ℝ n m}
    (leftEvaluated : left.IsEvaluated problem) (rightEvaluated : right.IsEvaluated problem)
    (same : left.point = right.point) (penalty : ℝ) :
    problem.merit penalty left.evaluation = problem.merit penalty right.evaluation := by
  have evaluations := leftEvaluated.evaluated
  rw [same, rightEvaluated.evaluated] at evaluations
  rw [Except.ok.inj evaluations]

/-! ### Steps -/

/-- **What an iteration that leads on has done**: it has found the direction, and the trial point of
the step halved so many times is the first that it takes. It carries multipliers and weight of the
direction on. -/
structure TakesStep (linear : LinearSolver ℝ) (settings : SqpSettings ℝ) (problem : Nlp ℝ n m)
    (previous : Progress ℝ n m) (direction : Direction ℝ n m) (halved : Nat)
    (next : Progress ℝ n m) : Prop where
  found : ∃ curvature,
    hessian settings problem previous.iterate.point previous.multipliers previous.gradient =
      .ok curvature ∧
    findDirection linear settings curvature previous.iterate
      (frozen problem previous.iterate.point previous.gradient) previous.penalty maxTries
      settings.regularization 0 = some direction
  taken : takenAt? problem previous.iterate direction ((1 / 2) ^ halved) = some next.iterate
  first : ∀ fewer < halved, takenAt? problem previous.iterate direction ((1 / 2) ^ fewer) = none
  within : halved ≤ maxHalvings
  multipliers : next.multipliers = direction.multipliers
  penalty : next.penalty = direction.penalty

/-- The line search from the full step tries its halvings one after the other. -/
theorem lineSearch_real (problem : Nlp ℝ n m) (iterate : Iterate ℝ n m)
    (direction : Direction ℝ n m) (halvings : Nat) :
    lineSearch problem iterate direction halvings 1 =
      (List.range (halvings + 1)).findSome? fun halved =>
        takenAt? problem iterate direction ((1 / 2) ^ halved) := by
  rw [lineSearch_eq_findSome?]
  simp only [iterate_half, one_mul]

variable {previous next : Progress ℝ n m} {direction : Direction ℝ n m} {halved : Nat}

/-- Every iteration that leads on takes a step. -/
theorem exists_takesStep_of_advance
    (advanced : advance linear settings problem previous = .ok (.next next)) :
    ∃ direction halved, TakesStep linear settings problem previous direction halved next := by
  obtain ⟨curvature, direction, formed, found, searched, multipliers, penalty⟩ :=
    advance_eq_next advanced
  rw [lineSearch_real] at searched
  obtain ⟨halved, within, taken, first⟩ := exists_first_of_findSome? searched
  exact ⟨direction, halved, ⟨curvature, formed, found⟩, taken, first, Nat.lt_succ_iff.mp within,
    multipliers, penalty⟩

/-- What a step does to weight and merit. -/
structure Descends (problem : Nlp ℝ n m) (previous : Progress ℝ n m) (direction : Direction ℝ n m)
    (length : ℝ) (next : Progress ℝ n m) : Prop where
  penalty_le : previous.penalty ≤ next.penalty
  covers : 1.1 * ‖next.multipliers.get‖ ≤ next.penalty
  length_ge : 1e-12 ≤ length
  slope_neg : Exceeds direction.step previous.iterate.point →
    problem.meritSlope next.penalty previous.iterate.evaluation direction.step < 0
  merit_le : Exceeds direction.step previous.iterate.point →
    problem.merit next.penalty next.iterate.evaluation ≤
      problem.merit next.penalty previous.iterate.evaluation +
        1e-4 * length *
          problem.meritSlope next.penalty previous.iterate.evaluation direction.step
  merit_lt : Exceeds direction.step previous.iterate.point →
    problem.merit next.penalty next.iterate.evaluation <
      problem.merit next.penalty previous.iterate.evaluation

namespace TakesStep

/-- The next iterate is an evaluated one. -/
theorem isEvaluated (step : TakesStep linear settings problem previous direction halved next) :
    next.iterate.IsEvaluated problem := by
  obtain ⟨tried, _⟩ := Option.filter_eq_some_iff.mp step.taken
  obtain ⟨evaluation, evaluated, same⟩ := trial_eq_some tried
  rw [same]
  exact Iterate.isEvaluated_of evaluated

/-- The slope of the direction is that of the merit with the weight that is carried on. -/
theorem slope_eq (step : TakesStep linear settings problem previous direction halved next)
    (evaluated : previous.iterate.IsEvaluated problem) :
    problem.meritSlope next.penalty previous.iterate.evaluation direction.step =
      direction.slope := by
  obtain ⟨curvature, _, found⟩ := step.found
  obtain ⟨_, _, _, _, slope, _⟩ := findDirection_eq_some found
  rw [slope, step.penalty, Nlp.meritSlope, evaluated.sumNorm_residual, Column.dot_real]

/-- The weight is no smaller than before and covers the multipliers. -/
theorem penalty_eq (step : TakesStep linear settings problem previous direction halved next) :
    next.penalty = max previous.penalty (1.1 * ‖next.multipliers.get‖) := by
  obtain ⟨curvature, _, found⟩ := step.found
  obtain ⟨_, _, _, penalty, _, _⟩ := findDirection_eq_some found
  rw [step.penalty, step.multipliers, penalty, Number.larger_real, Column.maxNorm_real]

/-- A direction that is not negligible descends. -/
theorem slope_neg (step : TakesStep linear settings problem previous direction halved next)
    (exceeds : Exceeds direction.step previous.iterate.point) : direction.slope < 0 := by
  obtain ⟨curvature, _, found⟩ := step.found
  obtain ⟨_, _, _, _, _, usable⟩ := findDirection_eq_some found
  exact usable.resolve_right (exceeds_iff.mp exceeds)

/-- The point that is taken has lost a part of what the slope promises. -/
theorem merit_le (step : TakesStep linear settings problem previous direction halved next)
    (exceeds : Exceeds direction.step previous.iterate.point) :
    next.iterate.merit next.penalty ≤
      previous.iterate.merit next.penalty + 1e-4 * (1 / 2) ^ halved * direction.slope := by
  obtain ⟨_, accepted⟩ := Option.filter_eq_some_iff.mp step.taken
  unfold accepts at accepted
  rw [Bool.and_eq_true, Bool.or_eq_true, decide_eq_true_eq, decide_eq_true_eq] at accepted
  rw [step.penalty]
  exact accepted.2.resolve_right (exceeds_iff.mp exceeds)

/-- The step is never halved to less than `1e-12`. -/
theorem length_ge (step : TakesStep linear settings problem previous direction halved next) :
    (1e-12 : ℝ) ≤ (1 / 2) ^ halved :=
  calc (1e-12 : ℝ) ≤ (1 / 2) ^ maxHalvings := by
        unfold maxHalvings
        norm_num
    _ ≤ (1 / 2) ^ halved := pow_le_pow_of_le_one (by norm_num) (by norm_num) step.within

/-- **The merit descends** along a step that is not negligible. -/
theorem descends (step : TakesStep linear settings problem previous direction halved next)
    (evaluated : previous.iterate.IsEvaluated problem) :
    Descends problem previous direction ((1 / 2) ^ halved) next := by
  have weight := step.penalty_eq
  have slope_neg (exceeds : Exceeds direction.step previous.iterate.point) :
      problem.meritSlope next.penalty previous.iterate.evaluation direction.step < 0 :=
    step.slope_eq evaluated ▸ step.slope_neg exceeds
  have merit_le (exceeds : Exceeds direction.step previous.iterate.point) :
      problem.merit next.penalty next.iterate.evaluation ≤
        problem.merit next.penalty previous.iterate.evaluation + 1e-4 * (1 / 2) ^ halved *
          problem.meritSlope next.penalty previous.iterate.evaluation direction.step := by
    rw [step.slope_eq evaluated, ← step.isEvaluated.merit_eq, ← evaluated.merit_eq]
    exact step.merit_le exceeds
  refine ⟨weight ▸ le_max_left _ _, weight ▸ le_max_right _ _, step.length_ge, slope_neg, merit_le,
    ?_⟩
  intro exceeds
  have factor : (0 : ℝ) < 1e-4 * (1 / 2) ^ halved := by positivity
  have lost := mul_neg_of_pos_of_neg factor (slope_neg exceeds)
  exact (merit_le exceeds).trans_lt (add_lt_of_neg_right _ lost)

end TakesStep

/-! ### Stretches of a run -/

/-- An iteration with the given weight whose step is not negligible. -/
def Moves (linear : LinearSolver ℝ) (settings : SqpSettings ℝ) (problem : Nlp ℝ n m) (penalty : ℝ)
    (previous next : Progress ℝ n m) : Prop :=
  next.penalty = penalty ∧ ∃ direction halved,
    TakesStep linear settings problem previous direction halved next ∧
      Exceeds direction.step previous.iterate.point

/-- **With the same weight no point is come to twice** by steps that are not negligible. -/
theorem nodup_of_moves {penalty : ℝ} {first : Progress ℝ n m} {rest : List (Progress ℝ n m)}
    (evaluated : first.iterate.IsEvaluated problem)
    (stretch : (first :: rest).IsChain (Moves linear settings problem penalty)) :
    ((first :: rest).map fun progress => progress.iterate.point).Nodup := by
  let merit (progress : Progress ℝ n m) : ℝ := problem.merit penalty progress.iterate.evaluation
  have allEvaluated : ∀ progress ∈ first :: rest, progress.iterate.IsEvaluated problem := by
    refine List.IsChain.induction (fun progress => progress.iterate.IsEvaluated problem) _ stretch
      ?_ fun _ => evaluated
    rintro _ _ ⟨_, _, _, step, _⟩ _
    exact step.isEvaluated
  have descends : (first :: rest).IsChain fun previous next => merit next < merit previous := by
    refine stretch.imp_of_mem_imp ?_
    rintro previous next member _ ⟨rfl, _, _, step, exceeds⟩
    exact (step.descends (allEvaluated previous member)).merit_lt exceeds
  have ordered : (first :: rest).Pairwise fun previous next => merit next < merit previous := by
    have trans : Trans (fun previous next => merit next < merit previous)
        (fun previous next => merit next < merit previous)
        (fun previous next => merit next < merit previous) := ⟨fun left right => right.trans left⟩
    exact descends.pairwise
  refine List.pairwise_map.mpr (ordered.imp_of_mem ?_)
  intro previous next memberPrevious memberNext lower same
  exact lower.ne' ((allEvaluated previous memberPrevious).merit_congr
    (allEvaluated next memberNext) same penalty)

/-! ### Runs -/

/-- **Every accepted step of a run descends**, and no stretch of a run with one weight and without
negligible steps comes to a point twice. The run ends after at most as many iterations as it may
make, and an iteration looks for its direction and for its point among at most so many. -/
theorem solveWith_descends {evaluation : Evaluation ℝ n m} (valid : settings.validate = .ok ())
    (equations : problem.isEqualityConstrained = true)
    (evaluated : problem.functions.evaluate (clamp problem problem.start) = .ok evaluation) :
    (∀ count previous next,
      Steps linear settings problem count (startOf settings problem evaluation) previous →
      advance linear settings problem previous = .ok (.next next) →
        previous.iterate.IsEvaluated problem ∧ next.iterate.IsEvaluated problem ∧
        ∃ direction halved, TakesStep linear settings problem previous direction halved next ∧
          Descends problem previous direction ((1 / 2) ^ halved) next) ∧
    (∀ count penalty first rest,
      Steps linear settings problem count (startOf settings problem evaluation) first →
      (first :: rest).IsChain (Moves linear settings problem penalty) →
        ((first :: rest).map fun progress => progress.iterate.point).Nodup) ∧
    (∃ count last,
      Steps linear settings problem count (startOf settings problem evaluation) last ∧
      ((∃ result, solveWith linear settings problem = .ok result ∧
          result.solution.iterations ≤ settings.maxIterations ∧
          EndsAt linear settings problem settings.maxIterations count last result) ∨
        ∃ failure, solveWith linear settings problem = .error failure ∧
          count < settings.maxIterations ∧
          advance linear settings problem last = .error failure)) ∧
    ∀ progress curvature,
      hessian settings problem progress.iterate.point progress.multipliers progress.gradient =
        .ok curvature →
      ∃ shifts lengths, shifts.length = maxTries ∧ lengths.length = maxHalvings + 1 ∧
        advance linear settings problem progress =
          .ok (searched linear problem progress curvature shifts lengths) := by
  refine ⟨?_, ?_, solveWith_ends valid equations evaluated, fun _ _ => advance_eq_searched⟩
  · intro _ previous next steps advanced
    have reached := steps.isEvaluated evaluated
    obtain ⟨direction, halved, step⟩ := exists_takesStep_of_advance advanced
    exact ⟨reached, step.isEvaluated, direction, halved, step, step.descends reached⟩
  · intro _ _ _ _ steps stretch
    exact nodup_of_moves (steps.isEvaluated evaluated) stretch

/-- The step to the nearest point is not negligible. -/
theorem nearest.exceeds {previous next : Progress ℝ 2 1} {direction : Direction ℝ 2 1}
    {halved : Nat}
    (step : TakesStep linear nearest.settings nearest.nlp previous direction halved next)
    (zero : previous.iterate.point = Column.zero 2)
    (feasible : nearest.squares.constraints next.iterate.point.get = nearest.nlp.rowLower.get) :
    Exceeds direction.step previous.iterate.point := by
  have moved : next.iterate.point.get = (1 / 2 : ℝ) ^ halved • direction.step.get := by
    obtain ⟨tried, _⟩ := Option.filter_eq_some_iff.mp step.taken
    obtain ⟨evaluation, _, same⟩ := trial_eq_some tried
    rw [same, Iterate.of, clamp_unbounded nearest.isQuadratic.lower nearest.isQuadratic.upper, zero]
    funext i
    rw [Column.get_add, Column.get_zero, zero_add, Column.get_scale]
    rfl
  have one : next.iterate.point.get 0 + next.iterate.point.get 1 = 1 := by
    have target : nearest.nlp.rowLower.get 0 = 1 := rfl
    rw [← target, ← feasible]
    simp [nearest.squares, QuadraticProgram.constraints, dotProduct]
  have still : ‖previous.iterate.point.get‖ = 0 := by
    rw [zero, norm_eq_zero]
    exact funext Column.get_zero
  have shorter : ‖next.iterate.point.get‖ ≤ ‖direction.step.get‖ := by
    rw [moved, norm_smul, Real.norm_of_nonneg (by positivity)]
    exact mul_le_of_le_one_left (norm_nonneg _) (pow_le_one₀ (by norm_num) (by norm_num))
  -- one of the two coordinates is at least a half
  have first := (le_abs_self _).trans (norm_le_pi_norm next.iterate.point.get 0)
  have second := (le_abs_self _).trans (norm_le_pi_norm next.iterate.point.get 1)
  unfold Exceeds
  rw [still]
  norm_num
  linarith

/-- The step to the point of a line that is nearest to zero lowers the merit. -/
theorem solveWith_descends_nearest : ∃ (evaluation : Evaluation ℝ 2 1) (next : Progress ℝ 2 1),
    nearest.nlp.functions.evaluate (clamp nearest.nlp nearest.nlp.start) = .ok evaluation ∧
      advance (fun _ => Elimination.solve) nearest.settings nearest.nlp
        (startOf nearest.settings nearest.nlp evaluation) = .ok (.next next) ∧
      nearest.nlp.merit next.penalty next.iterate.evaluation <
        nearest.nlp.merit next.penalty evaluation := by
  obtain ⟨evaluation, next, evaluated, full, minimal, _⟩ := nearest.solved
  obtain ⟨descends, _⟩ := @solveWith_descends 2 1 (fun _ => Elimination.solve) _ _ _
    nearest.valid (Nlp.isEqualityConstrained_real.mpr rfl) evaluated
  obtain ⟨_, _, direction, halved, step, descent⟩ := descends 0 _ next (.none _) full.advances
  have zero : (startOf nearest.settings nearest.nlp evaluation).iterate.point = Column.zero 2 :=
    clamp_unbounded nearest.isQuadratic.lower nearest.isQuadratic.upper _
  exact ⟨evaluation, next, evaluated, full.advances,
    descent.merit_lt (nearest.exceeds step zero minimal.1)⟩

end Sqp

end MultipleShooting
