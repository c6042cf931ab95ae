/-
**Converged points are nearly optimal.**

Read over the real numbers, with bounds as extended real numbers:

* `Bound.SignsWithin`: the sign conditions at the bounds of a variable, within a margin. The step
  against a slope that the bounds allow is within the margin exactly when they hold
  (`Bound.abs_sub_clamp_le_iff`);
* `Sqp.StepAccepted`: a step that solves the stationarity conditions of an iterate and whose trial
  point is accepted; every iteration that leads on takes one (`Sqp.stepAccepted_of_advance`);
* `Sqp.solveWith_nearlyStationary`: **a converged point has the sign conditions of the Lagrangian
  gradient**, with multipliers that are zero at the start and those of the step that was accepted
  last otherwise.
-/
import Mathlib.Data.EReal.Operations
import MultipleShooting.Proofs.Bound
import MultipleShooting.Proofs.Sqp.Quadratic

namespace MultipleShooting

open Matrix

/-! ### Bounds as extended real numbers -/

namespace Bound

variable {lower upper : Bound ℝ} {value slope margin : ℝ}

/-- The bound as an extended real number. -/
noncomputable def toEReal : Bound ℝ → EReal
  | minusInfinity => ⊥
  | limit value => value
  | plusInfinity => ⊤

/-- A real number lies between two bounds. -/
def Between (lower upper : Bound ℝ) (value : ℝ) : Prop :=
  lower.toEReal ≤ value ∧ value ≤ upper.toEReal

theorem coe_raise (below : lower.toEReal < ⊤) :
    (lower.raise value : EReal) = max (value : EReal) lower.toEReal := by
  cases lower with
  | minusInfinity => simp [raise, toEReal]
  | limit least =>
    exact (congrArg _ (Number.larger_real value least)).trans EReal.coe_strictMono.monotone.map_max
  | plusInfinity => exact absurd rfl below.ne

theorem coe_lower (above : ⊥ < upper.toEReal) :
    (upper.lower value : EReal) = min (value : EReal) upper.toEReal := by
  cases upper with
  | minusInfinity => exact absurd rfl above.ne
  | limit most =>
    exact (congrArg _ (Number.smaller_real value most)).trans EReal.coe_strictMono.monotone.map_min
  | plusInfinity => simp [Bound.lower, toEReal]

/-- **Clamping between bounds with a real number between them** is clamping of extended real
numbers. -/
theorem coe_clamp {inside : ℝ} (room : Between lower upper inside) (value : ℝ) :
    ((clamp lower upper value : ℝ) : EReal) =
      min (max (value : EReal) lower.toEReal) upper.toEReal := by
  rw [clamp, coe_lower ((EReal.bot_lt_coe inside).trans_le room.2),
    coe_raise (room.1.trans_lt (EReal.coe_lt_top inside))]

theorem between_clamp {inside : ℝ} (room : Between lower upper inside) (value : ℝ) :
    Between lower upper (clamp lower upper value) := by
  unfold Between
  rw [coe_clamp room]
  exact ⟨le_min (le_max_right _ _) (room.1.trans room.2), min_le_right _ _⟩

/-! ### Sign conditions -/

/-- The sign conditions at the bounds of a variable, within a margin: a slope that is neither
negative nor small has the value near its lower bound, and one that is neither positive nor small
near its upper bound. -/
structure SignsWithin (lower upper : Bound ℝ) (value slope margin : ℝ) : Prop where
  atLower : 0 ≤ slope → slope ≤ margin ∨ (value : EReal) - lower.toEReal ≤ margin
  atUpper : slope ≤ 0 → -slope ≤ margin ∨ upper.toEReal - value ≤ margin

/-- A value between the bounds can go down by the slope or to the lower bound. -/
theorem abs_sub_clamp_of_nonneg (between : Between lower upper value) (nonneg : 0 ≤ slope) :
    |value - clamp lower upper (value - slope)| ≤ margin ↔
      slope ≤ margin ∨ (value : EReal) - lower.toEReal ≤ margin := by
  have less : ((value - slope : ℝ) : EReal) ≤ value :=
    EReal.coe_le_coe_iff.mpr (sub_le_self value nonneg)
  have clamped : ((clamp lower upper (value - slope) : ℝ) : EReal) =
      max ((value - slope : ℝ) : EReal) lower.toEReal :=
    (coe_clamp between _).trans (min_eq_left ((max_le less between.1).trans between.2))
  cases lower with
  | minusInfinity =>
    have free : clamp minusInfinity upper (value - slope) = value - slope :=
      EReal.coe_injective (clamped.trans (max_eq_left bot_le))
    have far : ¬ (value : EReal) - (minusInfinity : Bound ℝ).toEReal ≤ margin := by
      simp [toEReal]
    rw [free, sub_sub_cancel, abs_of_nonneg nonneg]
    exact (or_iff_left far).symm
  | limit least =>
    have reached : least ≤ value := EReal.coe_le_coe_iff.mp between.1
    have raised : clamp (limit least) upper (value - slope) = max (value - slope) least :=
      EReal.coe_injective (clamped.trans EReal.coe_strictMono.monotone.map_max.symm)
    have distance : value - max (value - slope) least = min slope (value - least) := by
      rw [← min_sub_sub_left, sub_sub_cancel]
    rw [raised, distance, abs_of_nonneg (le_min nonneg (sub_nonneg.mpr reached)), min_le_iff,
      toEReal, ← EReal.coe_sub, EReal.coe_le_coe_iff]
  | plusInfinity => exact absurd between.1 (not_le.mpr (EReal.coe_lt_top value))

/-- A value between the bounds can go up by the slope or to the upper bound. -/
theorem abs_sub_clamp_of_nonpos (between : Between lower upper value) (nonpos : slope ≤ 0) :
    |value - clamp lower upper (value - slope)| ≤ margin ↔
      -slope ≤ margin ∨ upper.toEReal - value ≤ margin := by
  have more : lower.toEReal ≤ ((value - slope : ℝ) : EReal) :=
    between.1.trans (EReal.coe_le_coe_iff.mpr ((le_sub_self_iff value).mpr nonpos))
  have clamped : ((clamp lower upper (value - slope) : ℝ) : EReal) =
      min ((value - slope : ℝ) : EReal) upper.toEReal := by
    rw [coe_clamp between, max_eq_left more]
  cases upper with
  | minusInfinity => exact absurd between.2 (not_le.mpr (EReal.bot_lt_coe value))
  | limit most =>
    have reached : value ≤ most := EReal.coe_le_coe_iff.mp between.2
    have lowered : clamp lower (limit most) (value - slope) = min (value - slope) most :=
      EReal.coe_injective (clamped.trans EReal.coe_strictMono.monotone.map_min.symm)
    have distance : min (value - slope) most - value = min (-slope) (most - value) := by
      rw [← min_sub_sub_right, sub_sub_cancel_left]
    rw [lowered, abs_sub_comm, distance,
      abs_of_nonneg (le_min (neg_nonneg.mpr nonpos) (sub_nonneg.mpr reached)), min_le_iff, toEReal,
      ← EReal.coe_sub, EReal.coe_le_coe_iff]
  | plusInfinity =>
    have free : clamp lower plusInfinity (value - slope) = value - slope :=
      EReal.coe_injective (clamped.trans (min_eq_left le_top))
    have far : ¬ (plusInfinity : Bound ℝ).toEReal - value ≤ margin := by simp [toEReal]
    rw [free, sub_sub_cancel, abs_of_nonpos nonpos]
    exact (or_iff_left far).symm

/-- **The allowed step against a slope is within a margin** exactly when the sign conditions hold
within it. -/
theorem abs_sub_clamp_le_iff (between : Between lower upper value) :
    |value - clamp lower upper (value - slope)| ≤ margin ↔
      SignsWithin lower upper value slope margin := by
  constructor
  · intro small
    exact ⟨fun nonneg => (abs_sub_clamp_of_nonneg between nonneg).mp small,
      fun nonpos => (abs_sub_clamp_of_nonpos between nonpos).mp small⟩
  · intro signs
    rcases le_total 0 slope with nonneg | nonpos
    · exact (abs_sub_clamp_of_nonneg between nonneg).mpr (signs.atLower nonneg)
    · exact (abs_sub_clamp_of_nonpos between nonpos).mpr (signs.atUpper nonpos)

end Bound

namespace Sqp

variable {n m : Nat}

/-! ### Accepted steps -/

/-- A step from one state of a run to the next: step and multipliers solve the stationarity
conditions of the iterate for some shifts, and the trial point at some length is accepted. -/
def StepAccepted {α : Type} [Number α] (linear : LinearSolver α) (settings : SqpSettings α)
    (problem : Nlp α n m) (previous next : Progress α n m) : Prop :=
  ∃ curvature direction shift rowShift length,
    hessian settings problem previous.iterate.point previous.multipliers previous.gradient =
      .ok curvature ∧
    solveKkt linear curvature previous.iterate
      (frozen problem previous.iterate.point previous.gradient) shift rowShift =
        some (direction.step, next.multipliers) ∧
    trial? problem previous.iterate direction length = some next.iterate ∧
    accepts previous.iterate direction length next.iterate = true

section Steps

variable {α : Type} [Number α] {linear : LinearSolver α} {settings : SqpSettings α}
  {problem : Nlp α n m} {count : Nat} {first last previous next : Progress α n m}

/-- **An iteration that leads on** takes an accepted step. -/
theorem stepAccepted_of_advance
    (advanced : advance linear settings problem previous = .ok (.next next)) :
    StepAccepted linear settings problem previous next := by
  obtain ⟨curvature, direction, formed, found, taken, multipliers, -⟩ := advance_eq_next advanced
  obtain ⟨shift, rowShift, solved, -⟩ := findDirection_eq_some found
  obtain ⟨halved, -, tried, accepted⟩ := lineSearch_eq_some taken
  rw [← multipliers] at solved
  exact ⟨curvature, direction, shift, rowShift, _, formed, solved, tried, accepted⟩

/-- The last of several iterations. -/
theorem Steps.exists_last (steps : Steps linear settings problem (count + 1) first last) :
    ∃ previous, Steps linear settings problem count first previous ∧
      advance linear settings problem previous = .ok (.next last) := by
  induction count generalizing first with
  | zero =>
    cases steps with
    | more _ advanced rest =>
      cases rest with
      | none _ => exact ⟨first, .none first, advanced⟩
  | succ count ih =>
    cases steps with
    | more notYet advanced rest =>
      obtain ⟨previous, before, last⟩ := ih rest
      exact ⟨previous, .more notYet advanced before, last⟩

/-- The multipliers of a state that iterations have led to: zero at the start, and otherwise those
of the step that was accepted last. -/
theorem Steps.multipliers_eq {evaluation : Evaluation α n m}
    (steps : Steps linear settings problem count (startOf settings problem evaluation) last) :
    count = 0 ∧ last.multipliers = Column.zero m ∨ ∃ before previous, count = before + 1 ∧
      Steps linear settings problem before (startOf settings problem evaluation) previous ∧
      StepAccepted linear settings problem previous last := by
  cases count with
  | zero =>
    cases steps with
    | none _ => exact .inl ⟨rfl, rfl⟩
  | succ before =>
    obtain ⟨previous, earlier, advanced⟩ := steps.exists_last
    exact .inr ⟨before, previous, rfl, earlier, stepAccepted_of_advance advanced⟩

end Steps

/-! ### Converged points -/

variable {linear : LinearSolver ℝ} {settings : SqpSettings ℝ} {problem : Nlp ℝ n m}
  {progress : Progress ℝ n m}

/-- The sign conditions of a gradient with multipliers, within the tolerance scaled by the gradient
of the objective, at every variable that can have a real number between its bounds. None has one
only where both bounds are the same infinity. -/
def NearlyStationary (settings : SqpSettings ℝ) (problem : Nlp ℝ n m) (point : Vector ℝ n)
    (evaluation : Evaluation ℝ n m) (multipliers : Vector ℝ m) : Prop :=
  ∀ i, (∃ inside, Bound.Between (problem.lower.get i) (problem.upper.get i) inside) →
    Bound.SignsWithin (problem.lower.get i) (problem.upper.get i) (point.get i)
      ((evaluation.gradient.get + evaluation.jacobian.dense.toMatrixᵀ *ᵥ multipliers.get) i)
      (settings.tolerance * max 1 ‖evaluation.gradient.get‖)

/-- **A state that passes the test of convergence** has the sign conditions. -/
theorem Progress.nearlyStationary (isEvaluated : progress.iterate.IsEvaluated problem)
    (passed : progress.hasConverged settings problem = true) :
    NearlyStationary settings problem progress.iterate.point progress.iterate.evaluation
      progress.multipliers := by
  rintro i ⟨inside, room⟩
  have between : Bound.Between (problem.lower.get i) (problem.upper.get i)
      (progress.iterate.point.get i) := by
    obtain ⟨point, clamped⟩ := isEvaluated.clamped
    rw [clamped, clamp, Vector.get_ofFn]
    exact Bound.between_clamp room _
  have slope : progress.gradient.get = progress.iterate.evaluation.gradient.get +
      progress.iterate.evaluation.jacobian.dense.toMatrixᵀ *ᵥ progress.multipliers.get := by
    rw [gradient, get_lagrangianGradient, isEvaluated.jacobian]
  unfold hasConverged at passed
  rw [Bool.and_eq_true, decide_eq_true_eq, decide_eq_true_eq, Number.larger_real, max_comm,
    Column.maxNorm_real progress.iterate.evaluation.gradient] at passed
  have small := ((Column.maxNorm_le_iff _ _).mp passed.2).2 i
  rw [Column.get_sub, clamp, Vector.get_ofFn, Column.get_sub, slope] at small
  exact (Bound.abs_sub_clamp_le_iff between).mp small

/-- **Converged points are nearly optimal.** A run that converges stops at a point with the
evaluation there and with multipliers, for which the sign conditions hold. The multipliers are zero
where no step was accepted, and otherwise those of the step that was accepted last. -/
theorem solveWith_nearlyStationary {result : Run ℝ}
    (solved : solveWith linear settings problem = .ok result)
    (converged : result.solution.status = .converged) :
    ∃ first last, problem.functions.evaluate (clamp problem problem.start) = .ok first ∧
      Steps linear settings problem result.solution.iterations (startOf settings problem first)
        last ∧
      result.solution.point = last.iterate.point.toList ∧
      problem.functions.evaluate last.iterate.point = .ok last.iterate.evaluation ∧
      (result.solution.iterations = 0 ∧ last.multipliers = Column.zero m ∨ ∃ before previous,
        result.solution.iterations = before + 1 ∧
        Steps linear settings problem before (startOf settings problem first) previous ∧
        StepAccepted linear settings problem previous last) ∧
      NearlyStationary settings problem last.iterate.point last.iterate.evaluation
        last.multipliers := by
  obtain ⟨first, count, last, evaluated, steps, isEvaluated, passed, same⟩ :=
    solveWith_converged solved converged
  rw [same]
  exact ⟨first, last, evaluated, steps, rfl, isEvaluated.evaluated, steps.multipliers_eq,
    Progress.nearlyStationary isEvaluated passed⟩

/-- At the point of a line that is nearest to zero the Lagrangian gradient is small, with the
multipliers of the step that led there. -/
theorem solveWith_nearlyStationary_nearest : ∃ (result : Run ℝ) (previous last : Progress ℝ 2 1),
    solve nearest.settings nearest.nlp = .ok result ∧ result.solution.status = .converged ∧
      result.solution.point = last.iterate.point.toList ∧
      StepAccepted (fun _ => Elimination.solve) nearest.settings nearest.nlp previous last ∧
      NearlyStationary nearest.settings nearest.nlp last.iterate.point last.iterate.evaluation
        last.multipliers := by
  obtain ⟨_, _, _, _, _, ran⟩ := nearest.solved
  obtain ⟨_, last, _, _, point, _, multipliers, signs⟩ := solveWith_nearlyStationary ran rfl
  obtain ⟨unmoved, _⟩ | ⟨_, previous, _, _, accepted⟩ := multipliers
  · cases unmoved
  · exact ⟨_, previous, last, ran, rfl, point, accepted, signs⟩

end Sqp

end MultipleShooting
