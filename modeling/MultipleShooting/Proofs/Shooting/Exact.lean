/-
**Shooting problems over the real numbers.**

No interval fails over the real numbers, so objective, constraints and evaluation are total
(`Shooting.objective_real`, `Shooting.constraints_real`, `Shooting.evaluate_real`), and the
objective is a sum (`Shooting.totalCost_real`).
-/
import MultipleShooting.Proofs.Interval.Exact
import MultipleShooting.Proofs.Shooting.Evaluation

namespace MultipleShooting

namespace Shooting

variable {layout : Layout} (shooting : Shooting ℝ layout)

/-- The sum of interval costs. -/
theorem totalCost_real {n : Nat} (costs : Vector ℝ n) : totalCost costs = ∑ k, costs.get k :=
  foldl_add_real costs id

/-- State and cost at the end of each interval. -/
noncomputable def endsOf (vector : Vector ℝ layout.size) :
    Vector (Propagated ℝ layout.nx) layout.nk :=
  Vector.ofFn fun k => shooting.interval.endOf (stateOf vector k) (controlOf vector k)

/-- State and cost at the end of each interval with their derivatives. -/
noncomputable def differentiatedEndsOf (vector : Vector ℝ layout.size) :
    Vector (Differentiated ℝ layout.nx layout.nu) layout.nk :=
  Vector.ofFn fun k => shooting.interval.differentiatedEndOf (stateOf vector k) (controlOf vector k)

theorem objective_real (vector : Vector ℝ layout.size) :
    shooting.objective vector =
      .ok (totalCost ((shooting.endsOf vector).map Propagated.cost)) := by
  refine objective_eq_ok.mpr ⟨_, ?_, rfl⟩
  intro k
  unfold endsOf
  rw [Vector.get_ofFn]
  exact shooting.interval.propagate_real _ _

theorem constraints_real (vector : Vector ℝ layout.size) :
    shooting.constraints vector =
      .ok (shooting.constraintsAt vector ((shooting.endsOf vector).map Propagated.state)) := by
  refine constraints_eq_ok.mpr ⟨_, ?_, Column.isFinite_real _, rfl⟩
  intro k
  unfold endsOf
  rw [Vector.get_ofFn]
  exact shooting.interval.propagate_real _ _

theorem evaluate_real (pattern : Pattern shooting.rows.count layout.size)
    (vector : Vector ℝ layout.size) :
    shooting.evaluate pattern vector =
      .ok (shooting.evaluationAt pattern vector (shooting.differentiatedEndsOf vector)) := by
  refine evaluate_eq_ok.mpr
    ⟨_, fun k => ?_, Column.isFinite_real _, Dense.isFinite_real _, rfl⟩
  unfold differentiatedEndsOf
  rw [Vector.get_ofFn]
  exact shooting.interval.differentiate_real _ _

/-- An evaluation has the objective and the rows of the ends without derivatives. -/
theorem evaluationAt_values (pattern : Pattern shooting.rows.count layout.size)
    (vector : Vector ℝ layout.size) :
    (shooting.evaluationAt pattern vector (shooting.differentiatedEndsOf vector)).objective =
        totalCost ((shooting.endsOf vector).map Propagated.cost) ∧
      (shooting.evaluationAt pattern vector (shooting.differentiatedEndsOf vector)).constraints =
        shooting.constraintsAt vector ((shooting.endsOf vector).map Propagated.state) := by
  obtain ⟨ends, propagated, rows, objective⟩ :=
    evaluate_ends (shooting.evaluate_real pattern vector)
  have same : ends = shooting.endsOf vector := ext_get fun k => by
    rw [endsOf, Vector.get_ofFn]
    exact Except.ok.inj ((propagated k).symm.trans (shooting.interval.propagate_real _ _))
  subst same
  exact ⟨objective, rows⟩

end Shooting

end MultipleShooting
