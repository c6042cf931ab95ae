/-
**The derivatives of an interval.**

Read over the real numbers, the propagation with derivatives differentiates the one without:

* `Tangents.along`, `Cotangents.along`: the rates at which the end of an interval changes when its
  start and its control move;
* `Interval.follows_chainedAt`: a stage whose functions come with their derivatives obeys the chain
  rule;
* `Interval.follows_sweep`, `Interval.follows_iterate`: a sub-step, and with it any number of
  sub-steps, keep derivatives exact;
* `Interval.follows_endOf`: **the derivatives of an interval are those of its end**, along every
  path of start and control;
* `Interval.differentiate_derivatives`: **they are all partial derivatives of the end**, by every
  component of the start and of the control.
-/
import MultipleShooting.Proofs.Interval.Exact
import MultipleShooting.Proofs.Linear.Gradient

namespace MultipleShooting

open Matrix

variable {nx nu : Nat}

/-- Rates and running cost come with their derivatives at every point. -/
structure Dynamics.IsDifferentiated (dynamics : Dynamics ℝ nx nu) : Prop where
  rate : ∀ point i, HasGradient (fun arguments => (dynamics.rate arguments).get i)
    ((dynamics.rateJacobian point).get i) point
  cost : ∀ point, HasGradient dynamics.cost (dynamics.costGradient point) point

/-! ### Rates of change -/

/-- The rate at which a vector changes when start and control move. -/
def Tangents.along {α : Type} [Number α] (tangents : Tangents α nx nu) (startVelocity : Vector α nx)
    (controlVelocity : Vector α nu) : Vector α nx :=
  Column.add (tangents.byState.apply startVelocity) (tangents.byControl.apply controlVelocity)

/-- The rate at which a number changes when start and control move. -/
def Cotangents.along {α : Type} [Number α] (cotangents : Cotangents α nx nu)
    (startVelocity : Vector α nx) (controlVelocity : Vector α nu) : α :=
  Column.dot cotangents.byState startVelocity + Column.dot cotangents.byControl controlVelocity

variable {startVelocity : Vector ℝ nx} {controlVelocity : Vector ℝ nu}

theorem Tangents.get_along (tangents : Tangents ℝ nx nu) :
    (tangents.along startVelocity controlVelocity).get =
      tangents.byState.toMatrix *ᵥ startVelocity.get +
        tangents.byControl.toMatrix *ᵥ controlVelocity.get := by
  funext i
  unfold Tangents.along
  rw [Column.get_add, Dense.get_apply_real, Dense.get_apply_real]
  rfl

theorem Cotangents.along_real (cotangents : Cotangents ℝ nx nu) :
    cotangents.along startVelocity controlVelocity =
      cotangents.byState.get ⬝ᵥ startVelocity.get +
        cotangents.byControl.get ⬝ᵥ controlVelocity.get := by
  unfold Cotangents.along
  rw [Column.dot_real, Column.dot_real]

/-- The start itself changes at its own rate. -/
theorem Tangents.along_initial :
    (Tangents.initial : Tangents ℝ nx nu).along startVelocity controlVelocity = startVelocity := by
  refine ext_get fun i => congrFun ?_ i
  rw [Tangents.get_along, Tangents.initial, Dense.toMatrix_identity, Dense.toMatrix_zero,
    one_mulVec, zero_mulVec, add_zero]

theorem Cotangents.along_initial :
    (Cotangents.initial : Cotangents ℝ nx nu).along startVelocity controlVelocity = 0 := by
  rw [Cotangents.along_real, Cotangents.initial, Column.get_zero_real, Column.get_zero_real,
    zero_dotProduct, zero_dotProduct, add_zero]

theorem Tangents.along_addScaled (left : Tangents ℝ nx nu) (factor : ℝ) (right : Tangents ℝ nx nu) :
    (left.addScaled factor right).along startVelocity controlVelocity =
      Column.add (left.along startVelocity controlVelocity)
        (Column.scale factor (right.along startVelocity controlVelocity)) := by
  apply ext_get
  intro i
  rw [Column.get_add, Column.get_scale]
  simp only [Tangents.get_along, Tangents.addScaled, Dense.toMatrix_add, Dense.toMatrix_scale,
    add_mulVec, smul_mulVec, Pi.add_apply, Pi.smul_apply, smul_eq_mul]
  ring

theorem Cotangents.along_addScaled (left : Cotangents ℝ nx nu) (factor : ℝ)
    (right : Cotangents ℝ nx nu) :
    (left.addScaled factor right).along startVelocity controlVelocity =
      left.along startVelocity controlVelocity +
        factor * right.along startVelocity controlVelocity := by
  simp only [Cotangents.along_real, Cotangents.addScaled, dotProduct, Column.get_add,
    Column.get_scale, add_mul, mul_assoc, Finset.sum_add_distrib, ← Finset.mul_sum]
  ring

/-- Moving one state of the start alone. -/
theorem Tangents.along_unit_zero (tangents : Tangents ℝ nx nu) (i j : Fin nx) :
    (tangents.along (Column.unit j) (Column.zero nu)).get i = (tangents.byState.get i).get j := by
  unfold Tangents.along
  rw [Column.get_add, Dense.get_apply, Dense.get_apply, Column.dot_unit, Column.dot_zero, add_zero]

/-- Moving one control alone. -/
theorem Tangents.along_zero_unit (tangents : Tangents ℝ nx nu) (i : Fin nx) (j : Fin nu) :
    (tangents.along (Column.zero nx) (Column.unit j)).get i = (tangents.byControl.get i).get j := by
  unfold Tangents.along
  rw [Column.get_add, Dense.get_apply, Dense.get_apply, Column.dot_unit, Column.dot_zero, zero_add]

theorem Tangents.along_zero_zero (tangents : Tangents ℝ nx nu) (i : Fin nx) :
    (tangents.along (Column.zero nx) (Column.zero nu)).get i = 0 := by
  unfold Tangents.along
  rw [Column.get_add, Dense.get_apply, Dense.get_apply, Column.dot_zero, Column.dot_zero, add_zero]

theorem Cotangents.along_unit_zero (cotangents : Cotangents ℝ nx nu) (j : Fin nx) :
    cotangents.along (Column.unit j) (Column.zero nu) = cotangents.byState.get j := by
  unfold Cotangents.along
  rw [Column.dot_unit, Column.dot_zero, add_zero]

theorem Cotangents.along_zero_unit (cotangents : Cotangents ℝ nx nu) (j : Fin nu) :
    cotangents.along (Column.zero nx) (Column.unit j) = cotangents.byControl.get j := by
  unfold Cotangents.along
  rw [Column.dot_unit, Column.dot_zero, zero_add]

theorem Cotangents.along_zero_zero (cotangents : Cotangents ℝ nx nu) :
    cotangents.along (Column.zero nx) (Column.zero nu) = 0 := by
  unfold Cotangents.along
  rw [Column.dot_zero, Column.dot_zero, add_zero]

/-! ### Stages -/

namespace Interval

variable {moment : ℝ}

/-- At a moment, state and cost change at the rates of their derivatives. -/
structure Follows (reached : ℝ → Propagated ℝ nx) (result : Differentiated ℝ nx nu)
    (startVelocity : Vector ℝ nx) (controlVelocity : Vector ℝ nu) (moment : ℝ) : Prop where
  here : result.reached = reached moment
  state : Moves (fun time => (reached time).state)
    (result.tangents.along startVelocity controlVelocity) moment
  cost : HasDerivAt (fun time => (reached time).cost)
    (result.cotangents.along startVelocity controlVelocity) moment

variable {interval : Interval ℝ nx nu} {controls : ℝ → Vector ℝ nu}

/-- The derivatives of a rate at a stage, put together again from its two blocks of columns. -/
theorem along_chainedAt (state : Vector ℝ nx) (control : Vector ℝ nu)
    (tangents : Tangents ℝ nx nu) (i : Fin nx) :
    ((interval.chainedAt state control tangents).tangents.along
        startVelocity controlVelocity).get i =
      Column.dot ((interval.dynamics.rateJacobian (state ++ control)).get i)
        (tangents.along startVelocity controlVelocity ++ controlVelocity) := by
  rw [Column.dot_comm, Column.dot_append, Column.dot_comm, Column.dot_comm controlVelocity,
    ← Dense.get_firstColumns, ← Dense.get_lastColumns, ← Dense.get_apply, ← Dense.get_apply,
    Dense.get_apply_real, Dense.get_apply_real, Tangents.get_along, Tangents.get_along]
  simp only [chainedAt, Dense.toMatrix_add, Dense.toMatrix_mul, add_mulVec, mulVec_add,
    mulVec_mulVec, Pi.add_apply]
  ring

/-- The derivatives of a cost at a stage, put together again from their two parts. -/
theorem cost_along_chainedAt (state : Vector ℝ nx) (control : Vector ℝ nu)
    (tangents : Tangents ℝ nx nu) :
    (interval.chainedAt state control tangents).cotangents.along startVelocity controlVelocity =
      Column.dot (interval.dynamics.costGradient (state ++ control))
        (tangents.along startVelocity controlVelocity ++ controlVelocity) := by
  rw [Column.dot_comm, Column.dot_append, Column.dot_comm, Column.dot_comm controlVelocity,
    Cotangents.along_real, Column.dot_real, Column.dot_real, Tangents.get_along]
  simp only [chainedAt, Column.get_add_real, Dense.get_applyTransposed_real, mulVec_transpose,
    add_dotProduct, dotProduct_add, dotProduct_mulVec]
  ring

/-- **The chain rule at a stage**: its slopes change at the rates of their derivatives. -/
theorem follows_chainedAt (differentiated : interval.dynamics.IsDifferentiated)
    {states : ℝ → Vector ℝ nx} {tangents : Tangents ℝ nx nu}
    (moves : Moves states (tangents.along startVelocity controlVelocity) moment)
    (steers : Moves controls controlVelocity moment) :
    Follows (fun time => interval.slopesAt (states time) (controls time))
      (interval.chainedAt (states moment) (controls moment) tangents)
      startVelocity controlVelocity moment where
  here := rfl
  state i := by
    rw [along_chainedAt]
    exact (moves.append steers).along (differentiated.rate _ i)
  cost := by
    rw [cost_along_chainedAt]
    exact (moves.append steers).along (differentiated.cost _)

/-- A stage point changes at the rate of its derivatives. -/
theorem moves_stagePoint {states : ℝ → Vector ℝ nx} {tangents : Tangents ℝ nx nu}
    {slopes : ℝ → Propagated ℝ nx} {result : Differentiated ℝ nx nu} (fraction : ℝ)
    (moves : Moves states (tangents.along startVelocity controlVelocity) moment)
    (follows : Follows slopes result startVelocity controlVelocity moment) :
    Moves (fun time => stagePoint (states time) fraction (slopes time))
      ((tangents.addScaled fraction result.tangents).along startVelocity controlVelocity)
      moment := by
  rw [Tangents.along_addScaled]
  exact moves.add (follows.state.scale fraction)

/-! ### Sub-steps -/

/-- The weighted sum of four stages keeps derivatives exact. -/
theorem follows_combine (step : ℝ) {start k1 k2 k3 k4 : ℝ → Propagated ℝ nx}
    {startResult result1 result2 result3 result4 : Differentiated ℝ nx nu}
    (begins : Follows start startResult startVelocity controlVelocity moment)
    (first : Follows k1 result1 startVelocity controlVelocity moment)
    (second : Follows k2 result2 startVelocity controlVelocity moment)
    (third : Follows k3 result3 startVelocity controlVelocity moment)
    (fourth : Follows k4 result4 startVelocity controlVelocity moment) :
    Follows (fun time => combine step (start time) (k1 time) (k2 time) (k3 time) (k4 time))
      (combineDifferentiated step startResult result1 result2 result3 result4)
      startVelocity controlVelocity moment where
  here := by
    unfold combineDifferentiated
    rw [begins.here, first.here, second.here, third.here, fourth.here]
  state i := by
    have summed := (first.state.add (second.state.scale 2.0)).add (third.state.scale 2.0)
    refine ((begins.state.add ((summed.add fourth.state).scale (step / 6.0))) i).congr_deriv ?_
    simp only [combineDifferentiated, Tangents.along_addScaled, Column.get_add, Column.get_scale]
    norm_num
    ring
  cost := by
    have summed := (first.cost.add (second.cost.const_mul 2.0)).add (third.cost.const_mul 2.0)
    refine (begins.cost.add ((summed.add fourth.cost).const_mul (step / 6.0))).congr_deriv ?_
    simp only [combineDifferentiated, Cotangents.along_addScaled]
    norm_num
    ring

/-- **A sub-step** keeps derivatives exact. -/
theorem follows_sweep (differentiated : interval.dynamics.IsDifferentiated)
    {start : ℝ → Propagated ℝ nx} {result : Differentiated ℝ nx nu}
    (begins : Follows start result startVelocity controlVelocity moment)
    (steers : Moves controls controlVelocity moment) :
    Follows (fun time => interval.sweep (controls time) (start time))
      (interval.differentiatedSweep (controls moment) result)
      startVelocity controlVelocity moment := by
  have moves := begins.state
  have first := follows_chainedAt differentiated moves steers
  have second := follows_chainedAt differentiated
    (moves_stagePoint (0.5 * interval.step) moves first) steers
  have third := follows_chainedAt differentiated
    (moves_stagePoint (0.5 * interval.step) moves second) steers
  have fourth := follows_chainedAt differentiated
    (moves_stagePoint (1.0 * interval.step) moves third) steers
  have combined := follows_combine interval.step begins first second third fourth
  unfold differentiatedSweep
  rw [begins.here]
  exact combined

/-- **Any number of sub-steps** keeps derivatives exact. -/
theorem follows_iterate (differentiated : interval.dynamics.IsDifferentiated)
    {start : ℝ → Propagated ℝ nx} {result : Differentiated ℝ nx nu}
    (begins : Follows start result startVelocity controlVelocity moment)
    (steers : Moves controls controlVelocity moment) (substeps : Nat) :
    Follows (fun time => (interval.sweep (controls time))^[substeps] (start time))
      ((interval.differentiatedSweep (controls moment))^[substeps] result)
      startVelocity controlVelocity moment := by
  induction substeps with
  | zero => exact begins
  | succ substeps ih =>
    simp only [Function.iterate_succ_apply']
    exact follows_sweep differentiated ih steers

/-! ### Intervals -/

/-- **The derivatives of an interval** are those of its end. -/
theorem follows_endOf (differentiated : interval.dynamics.IsDifferentiated)
    {states : ℝ → Vector ℝ nx} (moves : Moves states startVelocity moment)
    (steers : Moves controls controlVelocity moment) :
    Follows (fun time => interval.endOf (states time) (controls time))
      (interval.differentiatedEndOf (states moment) (controls moment))
      startVelocity controlVelocity moment := by
  refine follows_iterate differentiated ⟨rfl, ?_, ?_⟩ steers interval.substeps
  · rw [Tangents.along_initial]
    exact moves
  · rw [Cotangents.along_initial]
    exact hasDerivAt_const _ _

/-! ### By a single component -/

/-- A result holds what is reached from a start under a control, and all its first partial
derivatives by the components of both. -/
structure HasDerivatives (reached : Vector ℝ nx → Vector ℝ nu → Propagated ℝ nx)
    (state : Vector ℝ nx) (control : Vector ℝ nu) (result : Differentiated ℝ nx nu) : Prop where
  here : result.reached = reached state control
  stateByState : ∀ i j, HasPartial (fun start => (reached start control).state.get i) j
    ((result.tangents.byState.get i).get j) state
  stateByControl : ∀ i j, HasPartial (fun held => (reached state held).state.get i) j
    ((result.tangents.byControl.get i).get j) control
  costByState : ∀ j, HasPartial (fun start => (reached start control).cost) j
    (result.cotangents.byState.get j) state
  costByControl : ∀ j, HasPartial (fun held => (reached state held).cost) j
    (result.cotangents.byControl.get j) control

theorem hasDerivatives_endOf (differentiated : interval.dynamics.IsDifferentiated)
    (state : Vector ℝ nx) (control : Vector ℝ nu) :
    HasDerivatives interval.endOf state control (interval.differentiatedEndOf state control) := by
  have byStart (j : Fin nx) := follows_endOf differentiated (moves_set state j)
    (moves_const control (state.get j))
  have byHeld (j : Fin nu) := follows_endOf differentiated (moves_const state (control.get j))
    (moves_set control j)
  simp only [set_get_self] at byStart byHeld
  constructor
  case here =>
    exact (follows_endOf differentiated (moves_const state 0) (moves_const control 0)).here
  case stateByState =>
    intro i j
    rw [← Tangents.along_unit_zero]
    exact (byStart j).state i
  case stateByControl =>
    intro i j
    rw [← Tangents.along_zero_unit]
    exact (byHeld j).state i
  case costByState =>
    intro j
    rw [← Cotangents.along_unit_zero]
    exact (byStart j).cost
  case costByControl =>
    intro j
    rw [← Cotangents.along_zero_unit]
    exact (byHeld j).cost

/-- **The derivatives of an interval are exact.** When the model functions come with their true
derivatives, an interval of any positive duration and any number of sub-steps can be propagated
with and without derivatives from every start under every control, and the derivatives are those of
the end and of the cost that it reaches, by every component of the start and of the control. -/
theorem differentiate_derivatives {dynamics : Dynamics ℝ nx nu}
    (differentiated : dynamics.IsDifferentiated) {duration : ℝ} (positive : 0 < duration)
    {substeps : Nat} (divided : 0 < substeps) :
    ∃ interval reached, Interval.make dynamics duration substeps = .ok interval ∧
      (∀ state control, interval.propagate state control = .ok (reached state control)) ∧
      ∀ state control, ∃ result, interval.differentiate state control = .ok result ∧
        HasDerivatives reached state control result := by
  let interval : Interval ℝ nx nu := ⟨dynamics, duration, substeps⟩
  refine ⟨interval, interval.endOf, make_real positive divided, ?_, ?_⟩
  · intro state control
    exact interval.propagate_real control state
  · intro state control
    have derivatives : HasDerivatives interval.endOf state control
        (interval.differentiatedEndOf state control) :=
      hasDerivatives_endOf differentiated state control
    exact ⟨_, interval.differentiate_real control state, derivatives⟩

/-! ### Two states that drive each other -/

namespace exchange

/-- Each state grows at the rate of the other one times the control, at the cost of the product of
both. -/
noncomputable def dynamics : Dynamics ℝ 2 1 where
  rate point := Vector.ofFn fun i => point.get (Fin.castAdd 1 i.rev) * point.get 2
  cost point := point.get 0 * point.get 1
  rateJacobian point := Vector.ofFn fun i =>
    Column.add (Column.scale (point.get (Fin.castAdd 1 i.rev)) (Column.unit 2))
      (Column.scale (point.get 2) (Column.unit (Fin.castAdd 1 i.rev)))
  costGradient point :=
    Column.add (Column.scale (point.get 0) (Column.unit 1))
      (Column.scale (point.get 1) (Column.unit 0))

theorem isDifferentiated : dynamics.IsDifferentiated where
  rate point i := by
    simp only [dynamics, Vector.get_ofFn]
    exact hasGradient_mul _ _ point
  cost point := hasGradient_mul 0 1 point

end exchange

/-- The derivatives of two states that drive each other, over three sub-steps. -/
theorem differentiate_derivatives_exchange :
    exchange.dynamics.IsDifferentiated ∧ (0 : ℝ) < 2 ∧ 0 < 3 ∧ ∃ interval reached,
      Interval.make exchange.dynamics 2 3 = .ok interval ∧
      (∀ state control, interval.propagate state control = .ok (reached state control)) ∧
      ∀ state control, ∃ result, interval.differentiate state control = .ok result ∧
        HasDerivatives reached state control result :=
  ⟨exchange.isDifferentiated, two_pos, three_pos,
    differentiate_derivatives exchange.isDifferentiated two_pos three_pos⟩

end Interval

end MultipleShooting
