/-
**The two propagations of an interval.**

In any arithmetic:

* `slope_eq_ok`, `differentiatedSlope_eq_ok`: what it takes for a stage to succeed, and what its
  answer then is;
* `substep_eq_ok`, `differentiatedSubstep_eq_ok`: the four stages of a sub-step that succeeds;
* `propagate_of_differentiate`: **the propagation with derivatives runs through the states and costs
  of the one without**, so when it succeeds the other does, with the same end.
-/
import MultipleShooting.Proofs.Outcome
import MultipleShooting.Interval

namespace MultipleShooting

variable {α : Type} [Number α] {nx nu : Nat}

namespace Interval

variable {interval : Interval α nx nu} {control : Vector α nu}

/-! ### Stages -/

/-- The slopes of state and cost at a point. -/
def slopesAt (interval : Interval α nx nu) (state : Vector α nx) (control : Vector α nu) :
    Propagated α nx :=
  ⟨interval.dynamics.rate (state ++ control), interval.dynamics.cost (state ++ control)⟩

/-- The slopes at a point with their derivatives, given those of the point: the chain rule. -/
def chainedAt (interval : Interval α nx nu) (state : Vector α nx) (control : Vector α nu)
    (tangents : Tangents α nx nu) : Differentiated α nx nu :=
  let jacobian := interval.dynamics.rateJacobian (state ++ control)
  let gradient := interval.dynamics.costGradient (state ++ control)
  { reached := interval.slopesAt state control
    tangents :=
      ⟨jacobian.firstColumns.mul tangents.byState,
        (jacobian.firstColumns.mul tangents.byControl).add jacobian.lastColumns⟩
    cotangents :=
      ⟨tangents.byState.applyTransposed (Column.first gradient),
        Column.add (tangents.byControl.applyTransposed (Column.first gradient))
          (Column.last gradient)⟩ }

/-- A stage succeeds when rate and cost are ordinary numbers, and has them as its slopes. -/
theorem slope_eq_ok {index stage : Nat} {state : Vector α nx} {slopes : Propagated α nx} :
    interval.slope index stage state control = .ok slopes ↔
      Column.isFinite (interval.dynamics.rate (state ++ control)) = true ∧
        Number.isFinite (interval.dynamics.cost (state ++ control)) = true ∧
        slopes = interval.slopesAt state control := by
  simp only [slope]
  split_ifs with noRate noCost
  · refine iff_of_false (fun failed => by cases failed) ?_
    intro numbers
    rw [numbers.1] at noRate
    cases noRate
  · refine iff_of_false (fun failed => by cases failed) ?_
    intro numbers
    rw [numbers.2.1] at noCost
    cases noCost
  · rw [Except.ok.injEq]
    refine ⟨fun same => ⟨by simpa using noRate, by simpa using noCost, same.symm⟩,
      fun numbers => numbers.2.2.symm⟩

/-- A stage with derivatives succeeds when its slopes do and their derivatives are ordinary numbers,
and its answer is that of the chain rule. -/
theorem differentiatedSlope_eq_ok {index stage : Nat} {state : Vector α nx}
    {tangents : Tangents α nx nu} {result : Differentiated α nx nu} :
    interval.differentiatedSlope index stage state control tangents = .ok result ↔
      interval.slope index stage state control = .ok result.reached ∧
        Dense.isFinite (interval.dynamics.rateJacobian (state ++ control)) = true ∧
        Column.isFinite (interval.dynamics.costGradient (state ++ control)) = true ∧
        result = interval.chainedAt state control tangents := by
  unfold differentiatedSlope
  rw [bind_eq_ok]
  constructor
  · rintro ⟨slopes, succeeded, chained⟩
    simp only at chained
    split_ifs at chained with noJacobian noGradient
    cases chained
    have same := (slope_eq_ok.mp succeeded).2.2
    subst same
    exact ⟨succeeded, by simpa using noJacobian, by simpa using noGradient, rfl⟩
  · rintro ⟨succeeded, finiteJacobian, finiteGradient, rfl⟩
    exact ⟨_, succeeded, by simp [finiteJacobian, finiteGradient]; rfl⟩

/-! ### Sub-steps -/

/-- The stages of a sub-step that succeeds. -/
theorem substep_eq_ok {index : Nat} {start next : Propagated α nx} :
    interval.substep control index start = .ok next ↔ ∃ k1 k2 k3 k4,
      interval.slope index 1 start.state control = .ok k1 ∧
      interval.slope index 2 (stagePoint start.state (0.5 * interval.step) k1) control = .ok k2 ∧
      interval.slope index 3 (stagePoint start.state (0.5 * interval.step) k2) control = .ok k3 ∧
      interval.slope index 4 (stagePoint start.state (1.0 * interval.step) k3) control = .ok k4 ∧
      combine interval.step start k1 k2 k3 k4 = next := by
  simp only [substep, bind_eq_ok, pure, Except.pure, Except.ok.injEq]
  constructor
  · rintro ⟨k1, first, k2, second, k3, third, k4, fourth, same⟩
    exact ⟨k1, k2, k3, k4, first, second, third, fourth, same⟩
  · rintro ⟨k1, k2, k3, k4, first, second, third, fourth, same⟩
    exact ⟨k1, first, k2, second, k3, third, k4, fourth, same⟩

/-- State, cost and derivatives after a sub-step with the given stages. -/
def combineDifferentiated (step : α) (start k1 k2 k3 k4 : Differentiated α nx nu) :
    Differentiated α nx nu :=
  let weight := step / 6.0
  { reached := combine step start.reached k1.reached k2.reached k3.reached k4.reached
    tangents :=
      (((start.tangents.addScaled (weight * 1.0) k1.tangents).addScaled
        (weight * 2.0) k2.tangents).addScaled
        (weight * 2.0) k3.tangents).addScaled (weight * 1.0) k4.tangents
    cotangents :=
      (((start.cotangents.addScaled (weight * 1.0) k1.cotangents).addScaled
        (weight * 2.0) k2.cotangents).addScaled
        (weight * 2.0) k3.cotangents).addScaled (weight * 1.0) k4.cotangents }

/-- The stages of a sub-step with derivatives that succeeds. -/
theorem differentiatedSubstep_eq_ok {index : Nat} {start next : Differentiated α nx nu} :
    interval.differentiatedSubstep control index start = .ok next ↔ ∃ k1 k2 k3 k4,
      interval.differentiatedSlope index 1 start.reached.state control start.tangents = .ok k1 ∧
      interval.differentiatedSlope index 2
        (stagePoint start.reached.state (0.5 * interval.step) k1.reached) control
        (start.tangents.addScaled (0.5 * interval.step) k1.tangents) = .ok k2 ∧
      interval.differentiatedSlope index 3
        (stagePoint start.reached.state (0.5 * interval.step) k2.reached) control
        (start.tangents.addScaled (0.5 * interval.step) k2.tangents) = .ok k3 ∧
      interval.differentiatedSlope index 4
        (stagePoint start.reached.state (1.0 * interval.step) k3.reached) control
        (start.tangents.addScaled (1.0 * interval.step) k3.tangents) = .ok k4 ∧
      combineDifferentiated interval.step start k1 k2 k3 k4 = next := by
  simp only [differentiatedSubstep, bind_eq_ok, pure, Except.pure, Except.ok.injEq]
  constructor
  · rintro ⟨k1, first, k2, second, k3, third, k4, fourth, same⟩
    exact ⟨k1, k2, k3, k4, first, second, third, fourth, same⟩
  · rintro ⟨k1, k2, k3, k4, first, second, third, fourth, same⟩
    exact ⟨k1, first, k2, second, k3, third, k4, fourth, same⟩

/-- A sub-step with derivatives passes through the states and costs of the one without. -/
theorem substep_of_differentiatedSubstep {index : Nat} {start next : Differentiated α nx nu}
    (succeeded : interval.differentiatedSubstep control index start = .ok next) :
    interval.substep control index start.reached = .ok next.reached := by
  obtain ⟨k1, k2, k3, k4, first, second, third, fourth, same⟩ :=
    differentiatedSubstep_eq_ok.mp succeeded
  refine substep_eq_ok.mpr ⟨k1.reached, k2.reached, k3.reached, k4.reached,
    (differentiatedSlope_eq_ok.mp first).1, (differentiatedSlope_eq_ok.mp second).1,
    (differentiatedSlope_eq_ok.mp third).1, (differentiatedSlope_eq_ok.mp fourth).1, ?_⟩
  rw [← same]
  rfl

/-! ### Intervals -/

theorem advance_of_differentiatedAdvance {remaining index : Nat}
    {start last : Differentiated α nx nu}
    (succeeded : interval.differentiatedAdvance control remaining index start = .ok last) :
    interval.advance control remaining index start.reached = .ok last.reached := by
  induction remaining generalizing index start with
  | zero =>
    cases succeeded
    rfl
  | succ remaining ih =>
    unfold differentiatedAdvance at succeeded
    split at succeeded
    · cases succeeded
    · next next stepped =>
      unfold advance
      rw [substep_of_differentiatedSubstep stepped]
      exact ih succeeded

/-- **The two propagations agree.** -/
theorem propagate_of_differentiate {state : Vector α nx} {last : Differentiated α nx nu}
    (succeeded : interval.differentiate state control = .ok last) :
    interval.propagate state control = .ok last.reached :=
  advance_of_differentiatedAdvance succeeded

end Interval

end MultipleShooting
