/-
**The cost of a drift.**

When the control alone gives the rates, states move along a line. The two middle stages of a
sub-step then meet at one point, and the four stages of its cost are the rule of Simpson, which is
exact on cubic polynomials:

* `integral_cubic`: the rule of Simpson;
* `Interval.sweep_drifted`: **a sub-step adds the integral of the cost over its time**;
* `Interval.iterate_sweep_drifted`: so does any number of sub-steps;
* `Interval.propagate_drifted`: **an interval ends where the drift leads, at the integral of the
  cost** along the way.
-/
import MultipleShooting.Proofs.Interval.Exact
import MultipleShooting.Proofs.Linear.Polynomial

namespace MultipleShooting

variable {nx nu : Nat}

/-- The rule of Simpson, exact on cubic polynomials. -/
theorem integral_cubic {p : Polynomial ℝ} (small : p.natDegree ≤ 3) (start step : ℝ) :
    ∫ time in start..start + step, p.eval time =
      step / 6 * (p.eval start + 4 * p.eval (start + step / 2) + p.eval (start + step)) := by
  have continuous (coefficient : ℝ) (degree : Nat) :
      Continuous fun time : ℝ => coefficient * time ^ degree := by fun_prop
  simp only [Polynomial.eval_eq_sum_range' (Nat.lt_succ_of_le small)]
  rw [intervalIntegral.integral_finsetSum fun degree _ =>
    (continuous _ degree).intervalIntegrable _ _]
  simp only [Finset.sum_range_succ, Finset.sum_range_zero, intervalIntegral.integral_const_mul,
    integral_pow]
  push_cast
  ring

/-! ### Drifts -/

/-- A state after a time at a constant velocity. -/
def drifted {α : Type} [Number α] (start velocity : Vector α nx) (time : α) : Vector α nx :=
  Column.add start (Column.scale time velocity)

theorem get_drifted (start velocity : Vector ℝ nx) (time : ℝ) :
    (drifted start velocity time).get = start.get + time • velocity.get := by
  unfold drifted
  rw [Column.get_add_real, Column.get_scale_real]

theorem drifted_zero (start velocity : Vector ℝ nx) : drifted start velocity 0 = start := by
  apply ext_get
  intro i
  rw [get_drifted, zero_smul, add_zero]

namespace Dynamics

/-- The control alone gives the rates. -/
def Drifts (dynamics : Dynamics ℝ nx nu) (velocity : Vector ℝ nu → Vector ℝ nx) : Prop :=
  ∀ (state : Vector ℝ nx) control, dynamics.rate (state ++ control) = velocity control

/-- Under a control the running cost is a polynomial of the state of degree at most three. -/
def HasCubicCost (dynamics : Dynamics ℝ nx nu) (control : Vector ℝ nu) : Prop :=
  ∃ p : MvPolynomial (Fin nx) ℝ, p.totalDegree ≤ 3 ∧
    ∀ state : Vector ℝ nx, dynamics.cost (state ++ control) = MvPolynomial.eval state.get p

/-- **Along a drift** a cubic running cost is a cubic polynomial of the time. -/
theorem HasCubicCost.along {dynamics : Dynamics ℝ nx nu} {control : Vector ℝ nu}
    (cubic : dynamics.HasCubicCost control) (start velocity : Vector ℝ nx) :
    ∃ p : Polynomial ℝ, p.natDegree ≤ 3 ∧
      ∀ time, dynamics.cost (drifted start velocity time ++ control) = p.eval time := by
  obtain ⟨p, small, costs⟩ := cubic
  refine ⟨alongLine p start.get velocity.get, (natDegree_alongLine_le p _ _).trans small, ?_⟩
  intro time
  rw [costs, get_drifted, eval_alongLine]

/-- A cost that is the same at every state is a cubic one. -/
theorem hasCubicCost_of_constant {dynamics : Dynamics ℝ nx nu} {control : Vector ℝ nu} {rate : ℝ}
    (constant : ∀ state : Vector ℝ nx, dynamics.cost (state ++ control) = rate) :
    dynamics.HasCubicCost control := by
  refine ⟨MvPolynomial.C rate, ?_, ?_⟩
  · rw [MvPolynomial.totalDegree_C]
    exact Nat.zero_le 3
  · intro state
    rw [constant, MvPolynomial.eval_C]

end Dynamics

namespace Interval

variable {interval : Interval ℝ nx nu} {control : Vector ℝ nu} {start velocity : Vector ℝ nx}
  {p : Polynomial ℝ}

/-- A stage point on the line of a drift. -/
theorem stagePoint_drifted (time fraction cost : ℝ) :
    stagePoint (drifted start velocity time) fraction ⟨velocity, cost⟩ =
      drifted start velocity (time + fraction) := by
  apply ext_get
  intro i
  simp only [stagePoint, drifted, Column.get_add, Column.get_scale]
  ring

/-- Four slopes at one velocity lead along the line of a drift. -/
theorem combine_drifted (step time accrued cost1 cost2 cost3 cost4 : ℝ) :
    combine step ⟨drifted start velocity time, accrued⟩ ⟨velocity, cost1⟩ ⟨velocity, cost2⟩
        ⟨velocity, cost3⟩ ⟨velocity, cost4⟩ =
      ⟨drifted start velocity (time + step),
        accrued + step / 6 * (cost1 + 2 * cost2 + 2 * cost3 + cost4)⟩ := by
  refine congrArg₂ Propagated.mk (ext_get ?_) (cost_combine ..)
  intro i
  refine (congrFun (get_combine ..) i).trans ?_
  simp only [get_drifted, Pi.add_apply, Pi.smul_apply, smul_eq_mul]
  ring

/-- **A sub-step of a drift** adds the integral of its cost. -/
theorem sweep_drifted
    (drifts : ∀ state : Vector ℝ nx, interval.dynamics.rate (state ++ control) = velocity)
    (costs : ∀ time, interval.dynamics.cost (drifted start velocity time ++ control) = p.eval time)
    (small : p.natDegree ≤ 3) (time accrued : ℝ) :
    interval.sweep control ⟨drifted start velocity time, accrued⟩ =
      ⟨drifted start velocity (time + interval.step),
        accrued + ∫ moment in time..time + interval.step, p.eval moment⟩ := by
  have slopes (moment : ℝ) : interval.slopesAt (drifted start velocity moment) control =
      ⟨velocity, p.eval moment⟩ := by
    unfold slopesAt
    rw [drifts, costs]
  -- Both middle stages are at the middle of the sub-step.
  simp only [sweep_real, slopes, stagePoint_drifted]
  rw [combine_drifted, integral_cubic small]
  congr 2
  ring

/-- **Any number of sub-steps of a drift** add the integral of its cost. -/
theorem iterate_sweep_drifted
    (drifts : ∀ state : Vector ℝ nx, interval.dynamics.rate (state ++ control) = velocity)
    (costs : ∀ time, interval.dynamics.cost (drifted start velocity time ++ control) = p.eval time)
    (small : p.natDegree ≤ 3) (substeps : Nat) :
    (interval.sweep control)^[substeps] ⟨start, 0⟩ =
      ⟨drifted start velocity (substeps * interval.step),
        ∫ moment in (0 : ℝ)..substeps * interval.step, p.eval moment⟩ := by
  have integrable (first last : ℝ) :
      IntervalIntegrable (fun moment => p.eval moment) MeasureTheory.volume first last :=
    p.continuous.intervalIntegrable first last
  induction substeps with
  | zero =>
    rw [Nat.cast_zero, zero_mul, drifted_zero, intervalIntegral.integral_same]
    rfl
  | succ substeps ih =>
    rw [Function.iterate_succ_apply', ih, sweep_drifted drifts costs small,
      intervalIntegral.integral_add_adjacent_intervals (integrable _ _) (integrable _ _),
      Nat.cast_succ, add_one_mul]

/-- The end of an interval of a drift. -/
theorem endOf_drifted {velocity : Vector ℝ nu → Vector ℝ nx}
    (drifts : interval.dynamics.Drifts velocity) (divided : 0 < interval.substeps)
    (cubic : interval.dynamics.HasCubicCost control) (state : Vector ℝ nx) :
    interval.endOf state control = ⟨drifted state (velocity control) interval.duration,
      ∫ time in (0 : ℝ)..interval.duration,
        interval.dynamics.cost (drifted state (velocity control) time ++ control)⟩ := by
  obtain ⟨p, small, costs⟩ := cubic.along state (velocity control)
  have covered : interval.substeps * interval.step = interval.duration :=
    mul_div_cancel₀ interval.duration (Nat.cast_ne_zero.mpr divided.ne')
  have swept := iterate_sweep_drifted (fun state => drifts state control) costs small
    interval.substeps
  rw [covered] at swept
  simp only [costs]
  exact swept

/-- The end of an interval of a drift whose cost is the same at every state. -/
theorem endOf_drifted_of_constant {velocity : Vector ℝ nu → Vector ℝ nx}
    (drifts : interval.dynamics.Drifts velocity) (divided : 0 < interval.substeps) {rate : ℝ}
    (constant : ∀ state : Vector ℝ nx, interval.dynamics.cost (state ++ control) = rate)
    (state : Vector ℝ nx) :
    interval.endOf state control =
      ⟨drifted state (velocity control) interval.duration, rate * interval.duration⟩ := by
  rw [endOf_drifted drifts divided (Dynamics.hasCubicCost_of_constant constant)]
  simp only [constant, intervalIntegral.integral_const, sub_zero, smul_eq_mul, mul_comm]

/-- **An interval of a drift is exact**: for every duration and number of sub-steps, from every
start under every control, the state ends where the drift leads, and a cost that is a polynomial of
the state of degree at most three is integrated along the way; a constant one is multiplied by the
duration. -/
theorem propagate_drifted {dynamics : Dynamics ℝ nx nu} {velocity : Vector ℝ nu → Vector ℝ nx}
    (drifts : dynamics.Drifts velocity) {duration : ℝ} (positive : 0 < duration) {substeps : Nat}
    (divided : 0 < substeps) :
    ∃ interval, Interval.make dynamics duration substeps = .ok interval ∧
      (∀ control, dynamics.HasCubicCost control → ∀ state,
        interval.propagate state control = .ok ⟨drifted state (velocity control) duration,
          ∫ time in (0 : ℝ)..duration,
            dynamics.cost (drifted state (velocity control) time ++ control)⟩) ∧
      (∀ control rate, (∀ state : Vector ℝ nx, dynamics.cost (state ++ control) = rate) →
        ∀ state, interval.propagate state control =
          .ok ⟨drifted state (velocity control) duration, rate * duration⟩) := by
  let interval : Interval ℝ nx nu := ⟨dynamics, duration, substeps⟩
  refine ⟨interval, make_real positive divided, ?_, ?_⟩
  · intro control cubic state
    exact (interval.propagate_real control state).trans
      (congrArg Except.ok (endOf_drifted drifts divided cubic state))
  · intro control rate constant state
    exact (interval.propagate_real control state).trans
      (congrArg Except.ok (endOf_drifted_of_constant drifts divided constant state))

/-! ### A slide -/

namespace slide

/-- Three states each of which has a control as its velocity, at the cost of one more than the
product of all states and controls. -/
noncomputable def dynamics : Dynamics ℝ 3 3 where
  rate := Column.last
  cost point := ∏ place, point.get place + 1
  rateJacobian _ := Vector.ofFn fun i => Column.unit (Fin.natAdd 3 i)
  costGradient point := Vector.ofFn fun place => ∏ other ∈ Finset.univ.erase place, point.get other

theorem drifts : dynamics.Drifts id := fun state control => Column.last_append state control

theorem cost_append (state control : Vector ℝ 3) :
    dynamics.cost (state ++ control) = (∏ i, state.get i) * (∏ i, control.get i) + 1 := by
  simp only [dynamics, Fin.prod_univ_add, get_append_castAdd, get_append_natAdd]

open MvPolynomial in
theorem hasCubicCost (control : Vector ℝ 3) : dynamics.HasCubicCost control := by
  refine ⟨(∏ i, X i) * C (∏ i, control.get i) + C 1, ?_, ?_⟩
  · have product : (∏ i : Fin 3, (X i : MvPolynomial (Fin 3) ℝ)).totalDegree ≤ 3 := by
      refine (totalDegree_finsetProd _ _).trans ?_
      simp only [totalDegree_X, Finset.sum_const, Finset.card_univ, Fintype.card_fin, smul_eq_mul]
      norm_num
    have scaled := totalDegree_mul (∏ i, (X i : MvPolynomial (Fin 3) ℝ)) (C (∏ i, control.get i))
    rw [totalDegree_C, add_zero] at scaled
    refine (totalDegree_add _ _).trans (max_le (scaled.trans product) ?_)
    rw [totalDegree_C]
    norm_num
  · intro state
    rw [cost_append, map_add, map_mul, map_prod, eval_C, eval_C]
    simp only [eval_X]

theorem prod_get (x y z : ℝ) : ∏ i, (#v[x, y, z] : Vector ℝ 3).get i = x * y * z := by
  rw [Fin.prod_univ_three]
  rfl

theorem drifted_get (x y z u v w time : ℝ) :
    drifted #v[x, y, z] #v[u, v, w] time = #v[x + time * u, y + time * v, z + time * w] := by
  apply ext_get
  intro i
  rw [get_drifted]
  fin_cases i <;> rfl

end slide

/-- The cost of a slide over three sub-steps, and the one of a slide with a control at rest. -/
theorem propagate_drifted_slide : slide.dynamics.Drifts id ∧ ∃ interval,
    Interval.make slide.dynamics 2 3 = .ok interval ∧
    interval.propagate #v[0, 0, 0] #v[1, 1, 2] = .ok ⟨#v[2, 2, 4], 18⟩ ∧
    interval.propagate #v[5, 5, 5] #v[0, 1, 1] = .ok ⟨#v[5, 7, 7], 2⟩ := by
  obtain ⟨interval, made, integrates, multiplies⟩ :=
    propagate_drifted slide.drifts two_pos three_pos
  have constant (state : Vector ℝ 3) :
      slide.dynamics.cost (state ++ (#v[0, 1, 1] : Vector ℝ 3)) = 1 := by
    rw [slide.cost_append, slide.prod_get]
    norm_num
  have moved := integrates #v[1, 1, 2] (slide.hasCubicCost _) #v[0, 0, 0]
  have held := multiplies #v[0, 1, 1] 1 constant #v[5, 5, 5]
  simp only [id, slide.drifted_get, slide.cost_append, slide.prod_get] at moved held
  refine ⟨slide.drifts, interval, made, moved.trans ?_, held.trans ?_⟩
  · refine congrArg Except.ok (congrArg₂ Propagated.mk ?_ ?_)
    · norm_num
    · have integrand (time : ℝ) :
          (0 + time * 1) * (0 + time * 1) * (0 + time * 2) * (1 * 1 * 2) + 1 =
            4 * time ^ 3 + 1 := by ring
      simp only [integrand]
      norm_num
  · norm_num

end Interval

end MultipleShooting
