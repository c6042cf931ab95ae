/-
**The Hessian from differences.**

In any arithmetic, a column of the Hessian compares an iterate with the point ahead of it along a
variable, or with the point behind it where the program cannot be evaluated ahead:

* `hessian_eq_error`: **forming the Hessian fails** along the first variable where the program can
  be evaluated neither ahead nor behind, as it fails behind.

Read over the real numbers the Hessian is symmetric (`isSymm_of_hessian`). Where the gradient of the
Lagrangian is affine a difference quotient is exact (`hessianColumn_affine`), forward as well as
backward, so the Hessian that the solver forms is the symmetric part of the gradient's matrix
(`hessian_affine`).
-/
import MultipleShooting.Proofs.Linear.Real
import MultipleShooting.Proofs.Outcome
import MultipleShooting.Proofs.Sqp.Run

namespace MultipleShooting

open Matrix

namespace Sqp

/-! ### Differences -/

section Differences

variable {α : Type} [Number α] {n m : Nat}

/-- The length of the difference along a variable. -/
def differenceStep (settings : SqpSettings α) (point : Vector α n) (i : Fin n) : α :=
  settings.hessianStep * Number.larger (Number.abs (point.get i)) 1

/-- The point moved along a variable. -/
def moved (point : Vector α n) (i : Fin n) (length : α) : Vector α n :=
  point.set i (point.get i + length) i.isLt

/-- The point ahead along a variable. -/
def ahead (settings : SqpSettings α) (point : Vector α n) (i : Fin n) : Vector α n :=
  moved point i (differenceStep settings point i)

/-- The point behind along a variable. -/
def behind (settings : SqpSettings α) (point : Vector α n) (i : Fin n) : Vector α n :=
  point.set i (point.get i - differenceStep settings point i) i.isLt

/-- The program can be evaluated ahead of a point along a variable, or behind it. -/
def HasDifference (settings : SqpSettings α) (problem : Nlp α n m) (point : Vector α n)
    (i : Fin n) : Prop :=
  (∃ evaluation, problem.functions.evaluate (ahead settings point i) = .ok evaluation) ∨
    ∃ evaluation, problem.functions.evaluate (behind settings point i) = .ok evaluation

/-- The program can be evaluated neither ahead of a point along a variable nor behind it, where it
fails with the given failure. -/
structure LacksDifference (settings : SqpSettings α) (problem : Nlp α n m) (point : Vector α n)
    (i : Fin n) (failure : Failure α) : Prop where
  ahead : ∃ cause, problem.functions.evaluate (ahead settings point i) = .error cause
  behind : problem.functions.evaluate (behind settings point i) = .error failure

variable {settings : SqpSettings α} {problem : Nlp α n m} {multipliers : Vector α m}
  {point gradient : Vector α n} {failure : Failure α}

/-- The gradient of the Lagrangian can be taken wherever the program can be evaluated. -/
theorem gradientAt_eq_ok {slope : Vector α n} :
    gradientAt problem multipliers point = .ok slope ↔
      ∃ evaluation, problem.functions.evaluate point = .ok evaluation ∧
        lagrangianGradient evaluation.gradient evaluation.jacobian.dense multipliers = slope :=
  map_eq_ok

theorem gradientAt_eq_error :
    gradientAt problem multipliers point = .error failure ↔
      problem.functions.evaluate point = .error failure :=
  map_eq_error

/-- A column of the Hessian by the points ahead and behind. -/
theorem hessianColumn_eq (i : Fin n) :
    hessianColumn settings problem point multipliers gradient i i.isLt =
      match gradientAt problem multipliers (ahead settings point i) with
      | .ok forward => .ok (quotient forward gradient (differenceStep settings point i))
      | .error _ => (gradientAt problem multipliers (behind settings point i)).map fun backward =>
          quotient gradient backward (differenceStep settings point i) :=
  rfl

/-- A column can be formed where there is a difference. -/
theorem exists_hessianColumn_iff {i : Fin n} :
    (∃ column, hessianColumn settings problem point multipliers gradient i i.isLt = .ok column) ↔
      HasDifference settings problem point i := by
  rw [hessianColumn_eq, HasDifference]
  cases forward : problem.functions.evaluate (ahead settings point i) with
  | ok evaluation =>
    rw [gradientAt, forward]
    exact iff_of_true ⟨_, rfl⟩ (.inl ⟨evaluation, rfl⟩)
  | error cause =>
    rw [gradientAt_eq_error.mpr forward]
    constructor
    · rintro ⟨_, formed⟩
      obtain ⟨_, there, _⟩ := map_eq_ok.mp formed
      obtain ⟨evaluation, evaluated, _⟩ := gradientAt_eq_ok.mp there
      exact .inr ⟨evaluation, evaluated⟩
    · rintro (⟨_, evaluated⟩ | ⟨evaluation, evaluated⟩)
      · cases evaluated
      · exact ⟨_, map_eq_ok.mpr ⟨_, gradientAt_eq_ok.mpr ⟨evaluation, evaluated, rfl⟩, rfl⟩⟩

/-- A column fails as the program fails behind, where it fails ahead too. -/
theorem hessianColumn_eq_error {i : Fin n} :
    hessianColumn settings problem point multipliers gradient i i.isLt = .error failure ↔
      LacksDifference settings problem point i failure := by
  rw [hessianColumn_eq]
  cases forward : problem.functions.evaluate (ahead settings point i) with
  | ok evaluation =>
    rw [gradientAt, forward]
    refine iff_of_false (fun failed => by cases failed) ?_
    rintro ⟨⟨_, failed⟩, _⟩
    rw [forward] at failed
    cases failed
  | error cause =>
    rw [gradientAt_eq_error.mpr forward]
    refine map_eq_error.trans (gradientAt_eq_error.trans ?_)
    exact ⟨fun failed => ⟨⟨cause, forward⟩, failed⟩, LacksDifference.behind⟩

/-- **Forming the Hessian fails** along the first variable where there is no difference. -/
theorem hessian_eq_error :
    hessian settings problem point multipliers gradient = .error failure ↔
      ∃ i, LacksDifference settings problem point i failure ∧
        ∀ j < i, HasDifference settings problem point j := by
  unfold hessian
  rw [map_eq_error, collect_eq_error]
  simp only [hessianColumn_eq_error, exists_hessianColumn_iff]

end Differences

/-! ### Affine gradients -/

variable {n m : Nat} {settings : SqpSettings ℝ} {problem : Nlp ℝ n m} {multipliers : Vector ℝ m}
  {point gradient : Vector ℝ n} {slope : Matrix (Fin n) (Fin n) ℝ} {offset : Fin n → ℝ}

/-- **The Hessian is symmetric**, whatever the differences are. -/
theorem isSymm_of_hessian {curvature : Dense ℝ n n}
    (formed : hessian settings problem point multipliers gradient = .ok curvature) :
    curvature.toMatrix.IsSymm := by
  obtain ⟨columns, -, rfl⟩ := map_eq_ok.mp formed
  ext i j
  simp only [transpose_apply, Dense.toMatrix_apply, symmetrised, Vector.get_ofFn]
  rw [add_comm]

/-- Wherever the program can be evaluated, its Lagrangian gradient is an affine function. -/
def HasAffineGradient (problem : Nlp ℝ n m) (multipliers : Vector ℝ m)
    (slope : Matrix (Fin n) (Fin n) ℝ) (offset : Fin n → ℝ) : Prop :=
  ∀ point gradient, gradientAt problem multipliers point = .ok gradient →
    gradient.get = slope *ᵥ point.get + offset

theorem differenceStep_pos (positive : 0 < settings.hessianStep) (i : Fin n) :
    0 < differenceStep settings point i := by
  unfold differenceStep
  rw [Number.larger_real]
  exact mul_pos positive (lt_max_of_lt_right one_pos)

theorem get_moved (i : Fin n) (length : ℝ) :
    (moved point i length).get = point.get + Pi.single i length := by
  funext j
  unfold moved
  rw [get_set, Pi.add_apply]
  by_cases same : i = j
  · subst same
    rw [if_pos rfl, Pi.single_eq_same]
  · rw [if_neg fun equal => same (Fin.ext equal), Pi.single_eq_of_ne' same, add_zero]

theorem get_quotient (upper lower : Vector ℝ n) (length : ℝ) (j : Fin n) :
    (quotient upper lower length).get j = (upper.get j - lower.get j) / length := by
  unfold quotient
  rw [Vector.get_map, Column.get_sub]

/-- What an affine function changes by along a variable. -/
theorem affine_moved (i : Fin n) (length : ℝ) :
    slope *ᵥ (moved point i length).get + offset =
      slope *ᵥ point.get + offset + length • slope.col i := by
  rw [get_moved, mulVec_add, mulVec_single, op_smul_eq_smul]
  exact add_right_comm _ _ _

theorem behind_eq_moved (i : Fin n) :
    behind settings point i = moved point i (-differenceStep settings point i) := by
  unfold behind moved
  rw [sub_eq_add_neg]

/-- **A difference quotient is exact**, whether it is taken forward or backward. -/
theorem hessianColumn_affine (affine : HasAffineGradient problem multipliers slope offset)
    (here : gradient.get = slope *ᵥ point.get + offset) (positive : 0 < settings.hessianStep)
    (i : Fin n) (evaluable : HasDifference settings problem point i) :
    ∃ column, hessianColumn settings problem point multipliers gradient i i.isLt = .ok column ∧
      column.get = slope.col i := by
  have nonzero : differenceStep settings point i ≠ 0 := (differenceStep_pos positive i).ne'
  rw [hessianColumn_eq]
  cases forwardGradient : gradientAt problem multipliers (ahead settings point i) with
  | ok forward =>
    refine ⟨_, rfl, funext ?_⟩
    intro j
    have there := affine _ _ forwardGradient
    rw [ahead, affine_moved, ← here] at there
    rw [get_quotient, there, Pi.add_apply, add_sub_cancel_left, Pi.smul_apply, smul_eq_mul,
      mul_div_cancel_left₀ _ nonzero]
  | error failure =>
    obtain ⟨evaluation, evaluated⟩ | ⟨evaluation, evaluated⟩ := evaluable
    · rw [gradientAt_eq_error, evaluated] at forwardGradient
      cases forwardGradient
    · have backwardGradient : gradientAt problem multipliers (behind settings point i) = .ok _ :=
        gradientAt_eq_ok.mpr ⟨evaluation, evaluated, rfl⟩
      refine ⟨_, map_eq_ok.mpr ⟨_, backwardGradient, rfl⟩, funext ?_⟩
      intro j
      have there := affine _ _ backwardGradient
      rw [behind_eq_moved, affine_moved, ← here] at there
      rw [get_quotient, there, Pi.add_apply, sub_add_cancel_left, Pi.smul_apply, smul_eq_mul,
        neg_mul, neg_neg, mul_div_cancel_left₀ _ nonzero]

/-- **The Hessian of an affine Lagrangian gradient** is the symmetric part of its matrix. -/
theorem hessian_affine (affine : HasAffineGradient problem multipliers slope offset)
    (here : gradient.get = slope *ᵥ point.get + offset) (positive : 0 < settings.hessianStep)
    (evaluable : ∀ i, HasDifference settings problem point i) :
    ∃ curvature, hessian settings problem point multipliers gradient = .ok curvature ∧
      curvature.toMatrix = (2⁻¹ : ℝ) • (slope + slopeᵀ) := by
  choose columns formed same using fun i =>
    hessianColumn_affine affine here positive i (evaluable i)
  have collected : collect n (hessianColumn settings problem point multipliers gradient) =
      .ok (Vector.ofFn columns) :=
    collect_eq_ok.mpr fun i => by rw [Vector.get_ofFn, formed]
  refine ⟨symmetrised (Dense.transpose (Vector.ofFn columns)), by rw [hessian, collected]; rfl, ?_⟩
  ext i j
  rw [Dense.toMatrix_apply, symmetrised, Vector.get_ofFn, Vector.get_ofFn, Dense.get_transpose,
    Dense.get_transpose, Vector.get_ofFn, Vector.get_ofFn, same, same]
  simp only [col_apply, Matrix.smul_apply, Matrix.add_apply, transpose_apply, smul_eq_mul]
  norm_num
  ring

/-- The Hessian of a symmetric affine Lagrangian gradient is its matrix. -/
theorem hessian_affine_of_isSymm (affine : HasAffineGradient problem multipliers slope offset)
    (symmetric : slope.IsSymm) (here : gradient.get = slope *ᵥ point.get + offset)
    (positive : 0 < settings.hessianStep)
    (evaluable : ∀ i, HasDifference settings problem point i) :
    ∃ curvature, hessian settings problem point multipliers gradient = .ok curvature ∧
      curvature.toMatrix = slope := by
  obtain ⟨curvature, formed, same⟩ := hessian_affine affine here positive evaluable
  refine ⟨curvature, formed, ?_⟩
  rw [same, symmetric.eq, ← two_smul ℝ slope, smul_smul, inv_mul_cancel₀ two_ne_zero, one_smul]

end Sqp

end MultipleShooting
