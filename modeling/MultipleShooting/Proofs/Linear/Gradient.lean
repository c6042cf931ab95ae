/-
**Gradients and paths.**

A gradient is the total derivative of a function of a vector in coordinates (`HasGradient`), and
there is only one (`HasGradient.unique`); the gradients of the components of a gradient are the rows
of a Hessian (`HasHessian`). Along a path the function then changes at the rate that the gradient
gives (`Moves.along`: the chain rule), and along the path that varies a single component
(`moves_set`) that rate is the partial derivative (`HasPartial`), a component of the gradient.
-/
import MultipleShooting.Proofs.Linear.Real

namespace MultipleShooting

open Matrix

variable {n m : Nat}

/-- The gradient of a function of a vector at a point: its total derivative in coordinates. -/
def HasGradient (f : Vector ℝ n → ℝ) (gradient point : Vector ℝ n) : Prop :=
  HasFDerivAt (fun coordinates : Fin n → ℝ => f (Vector.ofFn coordinates))
    (∑ i, gradient.get i • (ContinuousLinearMap.proj i : (Fin n → ℝ) →L[ℝ] ℝ)) point.get

/-- The Hessian of a function of a vector at a point: the gradients of the components of its
gradient. -/
def HasHessian (f : Vector ℝ n → ℝ) (hessian : Dense ℝ n n) (point : Vector ℝ n) : Prop :=
  ∃ gradient : Vector ℝ n → Vector ℝ n, (∀ vector, HasGradient f (gradient vector) vector) ∧
    ∀ i, HasGradient (fun vector => (gradient vector).get i) (hessian.get i) point

/-- A path of vectors passes a moment with a velocity. -/
def Moves (path : ℝ → Vector ℝ n) (velocity : Vector ℝ n) (moment : ℝ) : Prop :=
  ∀ i, HasDerivAt (fun time => (path time).get i) (velocity.get i) moment

/-- The partial derivative of a function of a vector by one of its components. -/
def HasPartial (f : Vector ℝ n → ℝ) (i : Fin n) (derivative : ℝ) (point : Vector ℝ n) : Prop :=
  HasDerivAt (fun value => f (point.set i value i.isLt)) derivative (point.get i)

/-! ### Paths -/

variable {path other : ℝ → Vector ℝ n} {velocity speed : Vector ℝ n} {moment : ℝ}

theorem Moves.add (moves : Moves path velocity moment) (drifts : Moves other speed moment) :
    Moves (fun time => Column.add (path time) (other time)) (Column.add velocity speed) moment :=
  fun i => by
    simp only [Column.get_add]
    exact (moves i).add (drifts i)

theorem Moves.scale (factor : ℝ) (moves : Moves path velocity moment) :
    Moves (fun time => Column.scale factor (path time)) (Column.scale factor velocity) moment :=
  fun i => by
    simp only [Column.get_scale]
    exact (moves i).const_mul factor

theorem Moves.append {last : ℝ → Vector ℝ m} {speed : Vector ℝ m}
    (moves : Moves path velocity moment) (drifts : Moves last speed moment) :
    Moves (fun time => path time ++ last time) (velocity ++ speed) moment := by
  refine Fin.addCases ?_ ?_
  · intro i
    simp only [get_append_castAdd]
    exact moves i
  · intro i
    simp only [get_append_natAdd]
    exact drifts i

/-- A vector that stays where it is. -/
theorem moves_const (vector : Vector ℝ n) (moment : ℝ) :
    Moves (fun _ => vector) (Column.zero n) moment := fun i => by
  rw [Column.get_zero]
  exact hasDerivAt_const _ _

/-- **Varying a component** moves a vector along that component. -/
theorem moves_set (vector : Vector ℝ n) (i : Fin n) :
    Moves (fun value => vector.set i value i.isLt) (Column.unit i) (vector.get i) := fun j => by
  simp only [get_set, Column.get_unit, Fin.val_inj]
  by_cases same : i = j
  · simp only [same, if_true]
    exact hasDerivAt_id _
  · simp only [same, if_false]
    exact hasDerivAt_const _ _

/-- A vector with a component set to itself. -/
theorem set_get_self (vector : Vector ℝ n) (i : Fin n) :
    vector.set i (vector.get i) i.isLt = vector :=
  ext_get fun j => by
    rw [get_set]
    by_cases same : i.val = j.val
    · rw [if_pos same, Fin.ext same]
    · rw [if_neg same]

/-! ### The chain rule -/

/-- **Along a path** a function changes at the rate that its gradient gives. -/
theorem Moves.along {f : Vector ℝ n → ℝ} {gradient : Vector ℝ n}
    (moves : Moves path velocity moment) (derives : HasGradient f gradient (path moment)) :
    HasDerivAt (fun time => f (path time)) (Column.dot gradient velocity) moment := by
  have coordinates : HasDerivAt (fun time => (path time).get) velocity.get moment :=
    hasDerivAt_pi.mpr moves
  have same : (fun coordinates : Fin n → ℝ => f (Vector.ofFn coordinates)) ∘
      (fun time => (path time).get) = fun time => f (path time) := by
    funext time
    rw [Function.comp_apply, ofFn_get]
  rw [← same]
  refine (HasFDerivAt.comp_hasDerivAt (f := fun time => (path time).get) moment derives
    coordinates).congr_deriv ?_
  rw [Column.dot_real]
  simp [dotProduct]

/-! ### Gradients -/

/-- **A function has one gradient** at a point. -/
theorem HasGradient.unique {f : Vector ℝ n → ℝ} {gradient other point : Vector ℝ n}
    (derives : HasGradient f gradient point) (alike : HasGradient f other point) :
    gradient = other := by
  have same := HasFDerivAt.unique derives alike
  apply ext_get
  intro i
  have here := congrArg (fun form => form (Pi.single i 1)) same
  simpa [Pi.single_apply] using here

/-- The gradient of an affine function is its row of coefficients. -/
theorem hasGradient_affine (row : Vector ℝ n) (constant : ℝ) (point : Vector ℝ n) :
    HasGradient (fun vector => Column.dot row vector + constant) row point := by
  have linear (coordinates : Fin n → ℝ) : Column.dot row (Vector.ofFn coordinates) =
      ∑ i, row.get i * coordinates i := by
    rw [Column.dot_real, get_ofFn_eq]
    rfl
  unfold HasGradient
  simp only [linear]
  exact (HasFDerivAt.fun_sum fun i _ => (hasFDerivAt_apply i point.get).const_mul _).add_const _

/-- The gradient of a component. -/
theorem hasGradient_get (i : Fin n) (point : Vector ℝ n) :
    HasGradient (fun vector => vector.get i) (Column.unit i) point := by
  unfold HasGradient
  simp only [Vector.get_ofFn]
  refine (hasFDerivAt_apply i point.get).congr_fderiv ?_
  ext direction
  simp

/-- A constant has no slope. -/
theorem hasGradient_const (value : ℝ) (point : Vector ℝ n) :
    HasGradient (fun _ => value) (Column.zero n) point := by
  refine (hasFDerivAt_const value point.get).congr_fderiv ?_
  ext direction
  simp

section Operations

variable {f g : Vector ℝ n → ℝ} {gradient slope point : Vector ℝ n}

theorem HasGradient.add (derives : HasGradient f gradient point)
    (also : HasGradient g slope point) :
    HasGradient (fun vector => f vector + g vector) (Column.add gradient slope) point := by
  refine (HasFDerivAt.fun_add derives also).congr_fderiv ?_
  ext direction
  simp [add_mul, Finset.sum_add_distrib]

theorem HasGradient.sub (derives : HasGradient f gradient point)
    (also : HasGradient g slope point) :
    HasGradient (fun vector => f vector - g vector) (Column.sub gradient slope) point := by
  refine (HasFDerivAt.fun_sub derives also).congr_fderiv ?_
  ext direction
  simp [sub_mul, Finset.sum_sub_distrib]

/-- The gradient of a product. -/
theorem HasGradient.mul (derives : HasGradient f gradient point)
    (also : HasGradient g slope point) :
    HasGradient (fun vector => f vector * g vector)
      (Column.add (Column.scale (f point) slope) (Column.scale (g point) gradient)) point := by
  refine (HasFDerivAt.fun_mul derives also).congr_fderiv ?_
  ext direction
  simp [ofFn_get, add_mul, mul_assoc, Finset.sum_add_distrib, Finset.mul_sum]

end Operations

/-- The gradient of a product of two components. -/
theorem hasGradient_mul (i j : Fin n) (point : Vector ℝ n) :
    HasGradient (fun vector => vector.get i * vector.get j)
      (Column.add (Column.scale (point.get i) (Column.unit j))
        (Column.scale (point.get j) (Column.unit i))) point :=
  (hasGradient_get i point).mul (hasGradient_get j point)

end MultipleShooting
