/-
**Affine rates.**

When the rates are affine in state and control, each slope of a sub-step differs from the first one
by the matrix of the states applied to the slope before it. The four slopes then add up to the
Taylor polynomial of degree four of the exact flow:

* `AffineLaw.taylorStep`, `AffineLaw.taylorMatrix`: that polynomial applied to a state, and its
  derivative (`AffineLaw.taylorMatrix_eq_one_add`);
* `weighted_slopes`: **the weighted sum of the four slopes**, for any linear map, so for states and
  for their derivatives alike;
* `Interval.get_sweep_affine`: a sub-step is the Taylor step of the law;
* `Interval.toMatrix_differentiatedSweep_affine`: its derivatives by the start are multiplied by the
  Taylor matrix of the law;
* `Interval.propagate_affine`: **an interval is the iterate of the Taylor step, and its derivative
  by the start the power of the Taylor matrix**.
-/
import MultipleShooting.Proofs.Interval.Derivative

namespace MultipleShooting

open Matrix

variable {nx nu : Nat}

/-! ### Laws -/

/-- A rate that is affine in state and control. -/
structure AffineLaw (nx nu : Nat) where
  byState : Matrix (Fin nx) (Fin nx) ℝ
  byControl : Matrix (Fin nx) (Fin nu) ℝ
  constant : Fin nx → ℝ

namespace AffineLaw

/-- The rate of a state under a control. -/
def rate (law : AffineLaw nx nu) (state : Fin nx → ℝ) (control : Fin nu → ℝ) : Fin nx → ℝ :=
  law.byState *ᵥ state + law.byControl *ᵥ control + law.constant

/-- The Taylor polynomial of degree four of the exponential of the matrix of the states. -/
noncomputable def taylorMatrix (law : AffineLaw nx nu) (step : ℝ) : Matrix (Fin nx) (Fin nx) ℝ :=
  ∑ order ∈ Finset.range 5, (step ^ order / order.factorial : ℝ) • law.byState ^ order

/-- What a step adds to a state is this matrix applied to the rate of the state. -/
noncomputable def incrementMatrix (law : AffineLaw nx nu) (step : ℝ) :
    Matrix (Fin nx) (Fin nx) ℝ :=
  ∑ order ∈ Finset.range 4,
    (step ^ (order + 1) / (order + 1).factorial : ℝ) • law.byState ^ order

/-- A state after a step, to the fourth order of the step. -/
noncomputable def taylorStep (law : AffineLaw nx nu) (step : ℝ) (control : Fin nu → ℝ)
    (state : Fin nx → ℝ) : Fin nx → ℝ :=
  state + law.incrementMatrix step *ᵥ law.rate state control

/-- The coefficients of a component of the rate, as a row for states followed by controls. -/
def row (law : AffineLaw nx nu) (i : Fin nx) : Vector ℝ (nx + nu) :=
  Vector.ofFn (law.byState i) ++ Vector.ofFn (law.byControl i)

variable (law : AffineLaw nx nu)

/-- A component of the rate, by its row of coefficients. -/
theorem rate_apply (state : Vector ℝ nx) (control : Vector ℝ nu) (i : Fin nx) :
    law.rate state.get control.get i =
      Column.dot (law.row i) (state ++ control) + law.constant i := by
  unfold row
  rw [Column.dot_append, Column.first_append, Column.last_append, Column.dot_real, Column.dot_real,
    get_ofFn_eq, get_ofFn_eq]
  rfl

/-- The Taylor polynomial, order by order. -/
theorem taylorMatrix_eq (step : ℝ) :
    law.taylorMatrix step = 1 + step • law.byState + (step ^ 2 / 2) • law.byState ^ 2 +
      (step ^ 3 / 6) • law.byState ^ 3 + (step ^ 4 / 24) • law.byState ^ 4 := by
  unfold taylorMatrix
  simp only [Finset.sum_range_succ, Finset.sum_range_zero, Nat.factorial]
  norm_num

/-- The matrix of a step, order by order. -/
theorem incrementMatrix_eq (step : ℝ) :
    law.incrementMatrix step = step • 1 + (step ^ 2 / 2) • law.byState +
      (step ^ 3 / 6) • law.byState ^ 2 + (step ^ 4 / 24) • law.byState ^ 3 := by
  unfold incrementMatrix
  simp only [Finset.sum_range_succ, Finset.sum_range_zero, Nat.factorial]
  norm_num

/-- What a step adds to a state, order by order. -/
theorem incrementMatrix_mulVec (step : ℝ) (slope : Fin nx → ℝ) :
    law.incrementMatrix step *ᵥ slope =
      step • slope + (step ^ 2 / 2) • law.byState *ᵥ slope +
        (step ^ 3 / 6) • law.byState *ᵥ law.byState *ᵥ slope +
          (step ^ 4 / 24) • law.byState *ᵥ law.byState *ᵥ law.byState *ᵥ slope := by
  rw [incrementMatrix_eq]
  simp only [add_mulVec, smul_mulVec, one_mulVec, pow_succ', pow_zero, mul_one, mulVec_mulVec]

/-- What a step adds to the derivatives of a state, order by order. -/
theorem incrementMatrix_mul (step : ℝ) (slope : Matrix (Fin nx) (Fin nx) ℝ) :
    law.incrementMatrix step * slope =
      step • slope + (step ^ 2 / 2) • (law.byState * slope) +
        (step ^ 3 / 6) • (law.byState * (law.byState * slope)) +
          (step ^ 4 / 24) • (law.byState * (law.byState * (law.byState * slope))) := by
  rw [incrementMatrix_eq]
  simp only [add_mul, smul_mul, one_mul, pow_succ', pow_zero, mul_one, mul_assoc]

/-- **The Taylor matrix is the derivative of the Taylor step.** -/
theorem taylorMatrix_eq_one_add (step : ℝ) :
    law.taylorMatrix step = 1 + law.incrementMatrix step * law.byState := by
  unfold taylorMatrix incrementMatrix
  rw [Finset.sum_range_succ', Finset.sum_mul, add_comm]
  refine congrArg₂ (· + ·) ?_ (Finset.sum_congr rfl ?_)
  · rw [pow_zero, pow_zero, Nat.factorial_zero, Nat.cast_one, div_one, one_smul]
  · intro order _
    rw [Matrix.smul_mul, ← pow_succ]

/-- The rate of a state that moves. -/
theorem rate_add (state velocity : Fin nx → ℝ) (control : Fin nu → ℝ) :
    law.rate (state + velocity) control = law.rate state control + law.byState *ᵥ velocity := by
  unfold rate
  rw [mulVec_add]
  abel

end AffineLaw

/-- The rates of a model follow an affine law. -/
def Dynamics.FollowsLaw (dynamics : Dynamics ℝ nx nu) (law : AffineLaw nx nu) : Prop :=
  ∀ (state : Vector ℝ nx) (control : Vector ℝ nu),
    (dynamics.rate (state ++ control)).get = law.rate state.get control.get

/-- The rates of a model come with their derivatives at every point. -/
def Dynamics.HasRateJacobian (dynamics : Dynamics ℝ nx nu) : Prop :=
  ∀ point i, HasGradient (fun arguments => (dynamics.rate arguments).get i)
    ((dynamics.rateJacobian point).get i) point

section Followed

variable {dynamics : Dynamics ℝ nx nu} {law : AffineLaw nx nu}

namespace Dynamics.FollowsLaw

/-- A component of the rates, as an affine function. -/
theorem component_eq (follows : dynamics.FollowsLaw law) (i : Fin nx) :
    (fun arguments => (dynamics.rate arguments).get i) =
      fun arguments => Column.dot (law.row i) arguments + law.constant i := by
  funext arguments
  rw [← Column.first_append_last arguments, follows _ _, law.rate_apply]

/-- **The derivatives of an affine rate by the states** are the matrix of its law. -/
theorem toMatrix_firstColumns (follows : dynamics.FollowsLaw law)
    (differentiated : dynamics.HasRateJacobian) (point : Vector ℝ (nx + nu)) :
    (dynamics.rateJacobian point).firstColumns.toMatrix = law.byState := by
  ext i j
  have derives := differentiated point i
  rw [follows.component_eq] at derives
  have same : (dynamics.rateJacobian point).get i = law.row i :=
    derives.unique (hasGradient_affine (law.row i) (law.constant i) point)
  rw [Dense.toMatrix_apply, Dense.get_firstColumns, same]
  unfold AffineLaw.row
  rw [Column.first_append, Vector.get_ofFn]

end Dynamics.FollowsLaw

/-! ### The four slopes of a sub-step -/

/-- **The weighted sum of four slopes** each of which is the first one and a linear map of the one
before it. -/
theorem weighted_slopes {V : Type} [AddCommGroup V] [Module ℝ V] (linear : V →ₗ[ℝ] V) (step : ℝ)
    {k1 k2 k3 k4 : V} (second : k2 = k1 + (step / 2) • linear k1)
    (third : k3 = k1 + (step / 2) • linear k2) (fourth : k4 = k1 + step • linear k3) :
    (step / 6) • (k1 + (2 : ℝ) • k2 + (2 : ℝ) • k3 + k4) =
      step • k1 + (step ^ 2 / 2) • linear k1 + (step ^ 3 / 6) • linear (linear k1) +
        (step ^ 4 / 24) • linear (linear (linear k1)) := by
  rw [fourth, third, second]
  simp only [map_add, map_smul]
  module

namespace Interval

/-- The derivatives by the start that four slopes lead to. -/
theorem toMatrix_combineDifferentiated (step : ℝ) (start k1 k2 k3 k4 : Differentiated ℝ nx nu) :
    (combineDifferentiated step start k1 k2 k3 k4).tangents.byState.toMatrix =
      start.tangents.byState.toMatrix + (step / 6) •
        (k1.tangents.byState.toMatrix + (2 : ℝ) • k2.tangents.byState.toMatrix +
          (2 : ℝ) • k3.tangents.byState.toMatrix + k4.tangents.byState.toMatrix) := by
  simp only [combineDifferentiated, Tangents.addScaled, Dense.toMatrix_add, Dense.toMatrix_scale]
  norm_num only
  module

variable {interval : Interval ℝ nx nu} {control : Vector ℝ nu}

/-- **A sub-step of an affine rate** is the Taylor step of its law. -/
theorem get_sweep_affine (follows : interval.dynamics.FollowsLaw law) (start : Propagated ℝ nx) :
    (interval.sweep control start).state.get =
      law.taylorStep interval.step control.get start.state.get := by
  have slopes (state : Vector ℝ nx) :
      (interval.slopesAt state control).state.get = law.rate state.get control.get :=
    follows state control
  have stage (fraction : ℝ) (slope : Propagated ℝ nx) :
      (interval.slopesAt (stagePoint start.state fraction slope) control).state.get =
        (interval.slopesAt start.state control).state.get +
          fraction • law.byState.mulVecLin slope.state.get := by
    rw [slopes, slopes, stagePoint, Column.get_add_real, Column.get_scale_real, law.rate_add,
      mulVec_smul, mulVecLin_apply]
  have summed := weighted_slopes law.byState.mulVecLin interval.step (stage _ _) (stage _ _)
    (stage _ _)
  rw [sweep_real, get_combine, summed, slopes]
  unfold AffineLaw.taylorStep
  rw [law.incrementMatrix_mulVec]
  rfl

/-- **The derivatives by the start** are multiplied by the Taylor matrix in a sub-step. -/
theorem toMatrix_differentiatedSweep_affine (follows : interval.dynamics.FollowsLaw law)
    (differentiated : interval.dynamics.HasRateJacobian) (start : Differentiated ℝ nx nu) :
    (interval.differentiatedSweep control start).tangents.byState.toMatrix =
      law.taylorMatrix interval.step * start.tangents.byState.toMatrix := by
  have slopes (state : Vector ℝ nx) (tangents : Tangents ℝ nx nu) :
      (interval.chainedAt state control tangents).tangents.byState.toMatrix =
        law.byState * tangents.byState.toMatrix := by
    unfold chainedAt
    rw [Dense.toMatrix_mul, follows.toMatrix_firstColumns differentiated]
  have stage (fraction : ℝ) (slope : Differentiated ℝ nx nu) :
      (interval.chainedAt (stagePoint start.reached.state fraction slope.reached) control
          (start.tangents.addScaled fraction slope.tangents)).tangents.byState.toMatrix =
        (interval.chainedAt start.reached.state control start.tangents).tangents.byState.toMatrix +
          fraction • LinearMap.mulLeft ℝ law.byState slope.tangents.byState.toMatrix := by
    rw [slopes, slopes, Tangents.addScaled, Dense.toMatrix_add, Dense.toMatrix_scale, mul_add,
      Matrix.mul_smul, LinearMap.mulLeft_apply]
  have summed := weighted_slopes (LinearMap.mulLeft ℝ law.byState) interval.step (stage _ _)
    (stage _ _) (stage _ _)
  rw [differentiatedSweep_real, toMatrix_combineDifferentiated, summed, slopes,
    law.taylorMatrix_eq_one_add, add_mul, one_mul, mul_assoc, law.incrementMatrix_mul]
  rfl

/-! ### Intervals -/

/-- The end of an interval is the iterate of the Taylor step. -/
theorem get_endOf_affine (follows : interval.dynamics.FollowsLaw law) (state : Vector ℝ nx) :
    (interval.endOf state control).state.get =
      (law.taylorStep interval.step control.get)^[interval.substeps] state.get := by
  have step : Function.Semiconj (fun reached : Propagated ℝ nx => reached.state.get)
      (interval.sweep control) (law.taylorStep interval.step control.get) :=
    get_sweep_affine follows
  exact step.iterate_right interval.substeps ⟨state, 0⟩

/-- The derivatives of the end by the start are a power of the Taylor matrix. -/
theorem toMatrix_differentiatedEndOf_affine (follows : interval.dynamics.FollowsLaw law)
    (differentiated : interval.dynamics.HasRateJacobian) (state : Vector ℝ nx) :
    (interval.differentiatedEndOf state control).tangents.byState.toMatrix =
      law.taylorMatrix interval.step ^ interval.substeps := by
  have step : Function.Semiconj
      (fun result : Differentiated ℝ nx nu => result.tangents.byState.toMatrix)
      (interval.differentiatedSweep control) (law.taylorMatrix interval.step * ·) :=
    toMatrix_differentiatedSweep_affine follows differentiated
  refine (step.iterate_right interval.substeps ⟨⟨state, 0⟩, .initial, .initial⟩).trans ?_
  rw [mul_left_iterate]
  show _ * (Dense.identity nx).toMatrix = _
  rw [Dense.toMatrix_identity, mul_one]

/-- **Intervals of an affine rate follow its Taylor polynomial.** For every affine law, duration and
number of sub-steps: from every start under every control the propagation reaches the iterate of the
Taylor step, and where the rates come with their derivatives, those of the end by the start are the
power of the Taylor matrix. -/
theorem propagate_affine (follows : dynamics.FollowsLaw law) {duration : ℝ}
    (positive : 0 < duration) {substeps : Nat} (divided : 0 < substeps) :
    ∃ interval, Interval.make dynamics duration substeps = .ok interval ∧
      (∀ state control, ∃ reached, interval.propagate state control = .ok reached ∧
        reached.state.get =
          (law.taylorStep (duration / substeps) control.get)^[substeps] state.get) ∧
      (dynamics.HasRateJacobian → ∀ state control, ∃ result,
        interval.differentiate state control = .ok result ∧
        result.tangents.byState.toMatrix = law.taylorMatrix (duration / substeps) ^ substeps) := by
  let interval : Interval ℝ nx nu := ⟨dynamics, duration, substeps⟩
  refine ⟨interval, make_real positive divided, ?_, ?_⟩
  · intro state control
    have reached : (interval.endOf state control).state.get =
        (law.taylorStep interval.step control.get)^[substeps] state.get :=
      get_endOf_affine follows state
    exact ⟨_, interval.propagate_real control state, reached⟩
  · intro differentiated state control
    have power : (interval.differentiatedEndOf state control).tangents.byState.toMatrix =
        law.taylorMatrix interval.step ^ substeps :=
      toMatrix_differentiatedEndOf_affine follows differentiated state
    exact ⟨_, interval.differentiate_real control state, power⟩

end Interval

end Followed

/-! ### A pendulum -/

/-- Dynamics of an affine law, without costs. -/
noncomputable def AffineLaw.costless (law : AffineLaw nx nu) : Dynamics ℝ nx nu where
  rate point := Vector.ofFn (law.rate (Column.first point).get (Column.last point).get)
  cost _ := 0
  rateJacobian _ := Vector.ofFn law.row
  costGradient _ := Column.zero (nx + nu)

theorem AffineLaw.followsLaw_costless (law : AffineLaw nx nu) : law.costless.FollowsLaw law := by
  intro state control
  unfold AffineLaw.costless
  simp only [Column.first_append, Column.last_append, get_ofFn_eq]

theorem AffineLaw.hasRateJacobian_costless (law : AffineLaw nx nu) :
    law.costless.HasRateJacobian := by
  intro point i
  rw [law.followsLaw_costless.component_eq]
  unfold AffineLaw.costless
  rw [Vector.get_ofFn]
  exact hasGradient_affine (law.row i) (law.constant i) point

namespace pendulum

/-- A pendulum that its control and a constant force push the same way. -/
noncomputable def law : AffineLaw 2 1 := ⟨!![0, 1; -1, 0], !![0; 1], ![0, 1]⟩

theorem byState_mulVec (velocity : Fin 2 → ℝ) :
    law.byState *ᵥ velocity = ![velocity 1, -velocity 0] := by
  funext i
  fin_cases i
  · show ![0, 1] ⬝ᵥ velocity = velocity 1
    simp [dotProduct]
  · show ![-1, 0] ⬝ᵥ velocity = -velocity 0
    simp [dotProduct]

theorem byState_sq : law.byState ^ 2 = -1 := by
  refine (pow_two law.byState).trans ?_
  unfold law
  ext i j
  fin_cases i <;> fin_cases j <;> simp

theorem taylorMatrix_one : law.taylorMatrix 1 = !![13 / 24, 5 / 6; -(5 / 6), 13 / 24] := by
  have third : law.byState ^ 3 = -law.byState := by rw [pow_succ, byState_sq, neg_one_mul]
  have fourth : law.byState ^ 4 = 1 := by
    rw [pow_succ, third, neg_mul, ← pow_two, byState_sq, neg_neg]
  rw [law.taylorMatrix_eq, fourth, third, byState_sq]
  unfold law
  ext i j
  fin_cases i <;> fin_cases j <;> norm_num

theorem taylorStep_one (state : Fin 2 → ℝ) : law.taylorStep 1 ![1] state =
    ![2 + 13 / 24 * (state 0 - 2) + 5 / 6 * state 1,
      -(5 / 6) * (state 0 - 2) + 13 / 24 * state 1] := by
  have rate : law.rate state ![1] = ![state 1, 2 - state 0] := by
    unfold AffineLaw.rate
    rw [byState_mulVec]
    unfold law
    funext i
    fin_cases i
    · show state 1 + ![0] ⬝ᵥ ![1] + 0 = state 1
      simp [dotProduct]
    · show -state 0 + ![1] ⬝ᵥ ![1] + 1 = 2 - state 0
      simp [dotProduct]
      ring
  unfold AffineLaw.taylorStep
  rw [law.incrementMatrix_mulVec, rate]
  simp only [byState_mulVec]
  funext i
  fin_cases i
  · simp
    ring
  · simp
    ring

end pendulum

namespace Interval

/-- A pendulum that swings for two sub-steps. -/
theorem propagate_affine_pendulum : pendulum.law.costless.FollowsLaw pendulum.law ∧
    pendulum.law.costless.HasRateJacobian ∧ ∃ interval,
      Interval.make pendulum.law.costless 2 2 = .ok interval ∧
      (∃ reached, interval.propagate #v[3, 0] #v[1] = .ok reached ∧
        reached.state.get = ![307 / 192, -65 / 72]) ∧
      ∃ result, interval.differentiate #v[3, 0] #v[1] = .ok result ∧
        result.tangents.byState.toMatrix = !![-77 / 192, 65 / 72; -65 / 72, -77 / 192] := by
  obtain ⟨interval, made, ends, derives⟩ :=
    propagate_affine pendulum.law.followsLaw_costless two_pos two_pos
  obtain ⟨reached, propagated, state⟩ := ends #v[3, 0] #v[1]
  obtain ⟨result, differentiated, matrix⟩ :=
    derives pendulum.law.hasRateJacobian_costless #v[3, 0] #v[1]
  rw [Nat.cast_ofNat, div_self two_ne_zero] at state matrix
  refine ⟨pendulum.law.followsLaw_costless, pendulum.law.hasRateJacobian_costless, interval, made,
    ⟨reached, propagated, state.trans ?_⟩, result, differentiated, matrix.trans ?_⟩
  · have held : (#v[1] : Vector ℝ 1).get = ![1] := by
      funext i
      fin_cases i
      rfl
    have begins : (#v[3, 0] : Vector ℝ 2).get = ![3, 0] := by
      funext i
      fin_cases i <;> rfl
    rw [held, begins]
    show pendulum.law.taylorStep 1 ![1] (pendulum.law.taylorStep 1 ![1] ![3, 0]) = _
    rw [pendulum.taylorStep_one, pendulum.taylorStep_one]
    norm_num
  · rw [pendulum.taylorMatrix_one]
    norm_num [pow_two]

end Interval

end MultipleShooting
