/-
**The stationarity conditions as equations.**

Read over the real numbers:

* `Stationary`: the equations that step and multipliers of the quadratic model satisfy, variable by
  variable and row by row;
* `apply_kktMatrix_eq_iff`: **the linear system of the solver says exactly these equations**;
* `solveKkt_stationary`: **what a method that returns nothing but solutions leads to satisfies
  them**, whatever the Hessian, the frozen variables and the shifts;
* `det_kktMatrix_ne_zero`: with a Hessian that curves along every step the rows do not see
  (`CurvesAlong`), independent rows and no frozen variable the system is nonsingular without any
  shift;
* `solveKkt_nonsingular`: a method that solves nonsingular systems then gives step and multipliers.
-/
import MultipleShooting.Proofs.Linear.Elimination
import MultipleShooting.Sqp.Solver

namespace MultipleShooting

open Matrix

variable {n m : Nat}

/-! ### Sums of products with a unit vector -/

namespace Column

/-- The sum of products with a multiple of a unit vector. -/
theorem dot_single (i : Fin n) (value : ℝ) (vector : Vector ℝ n) :
    dot (Vector.ofFn fun j => if i = j then value else 0) vector = value * vector.get i := by
  simp only [dot_real, dotProduct, Vector.get_ofFn, ite_mul, zero_mul, Finset.sum_ite_eq,
    Finset.mem_univ, if_true]

end Column

namespace Sqp

/-! ### The equations -/

/-- Step and multipliers satisfy the stationarity conditions of the quadratic model. -/
structure Stationary (curvature : Dense ℝ n n) (jacobian : Dense ℝ m n) (gradient : Vector ℝ n)
    (residual : Vector ℝ m) (fixed : Vector Bool n) (shift rowShift : ℝ) (step : Vector ℝ n)
    (multipliers : Vector ℝ m) : Prop where
  /-- A frozen variable stays. -/
  stays : ∀ i, fixed.get i = true → step.get i = 0
  /-- The gradient of the shifted model's Lagrangian vanishes in the other variables. -/
  balances : ∀ i, fixed.get i = false →
    (curvature.toMatrix *ᵥ step.get) i + shift * step.get i +
      (jacobian.toMatrixᵀ *ᵥ multipliers.get) i + gradient.get i = 0
  /-- The shifted linear model of the constraints vanishes. -/
  rows : ∀ r, (jacobian.toMatrix *ᵥ step.get) r - rowShift * multipliers.get r +
    residual.get r = 0

variable {curvature : Dense ℝ n n} {jacobian : Dense ℝ m n} {gradient : Vector ℝ n}
  {residual : Vector ℝ m} {fixed : Vector Bool n} {shift rowShift : ℝ}

/-- The row of a shifted matrix times a vector. -/
theorem dot_shifted (i : Fin n) (step : Vector ℝ n) :
    Column.dot ((shifted curvature shift).get i) step =
      (curvature.toMatrix *ᵥ step.get) i + shift * step.get i := by
  have entry (j : Fin n) : ((shifted curvature shift).get i).get j =
      curvature.toMatrix i j + if i = j then shift else 0 := by
    unfold shifted
    rw [Vector.get_ofFn, Vector.get_ofFn, Dense.toMatrix_apply]
    split_ifs with same
    · rfl
    · exact (add_zero _).symm
  simp only [Column.dot_real, dotProduct, mulVec, entry, add_mul, Finset.sum_add_distrib, ite_mul,
    zero_mul, Finset.sum_ite_eq, Finset.mem_univ, if_true]

/-- The row of a matrix times a vector. -/
theorem dot_get (matrix : Dense ℝ m n) (r : Fin m) (step : Vector ℝ n) :
    Column.dot (matrix.get r) step = (matrix.toMatrix *ᵥ step.get) r := by
  rw [← Dense.get_apply, Dense.get_apply_real]

/-- The row of the system for a variable. -/
theorem dot_kktMatrix_variable (i : Fin n) (vector : Vector ℝ (n + m)) :
    Column.dot ((kktMatrix curvature jacobian fixed shift rowShift).get (Fin.castAdd m i)) vector =
      if fixed.get i then (Column.first vector).get i
      else (curvature.toMatrix *ᵥ (Column.first vector).get) i +
        shift * (Column.first vector).get i +
          (jacobian.toMatrixᵀ *ᵥ (Column.last vector).get) i := by
  unfold kktMatrix
  rw [get_append_castAdd, Vector.get_ofFn]
  by_cases frozen : fixed.get i = true
  · have unit : (Vector.ofFn fun j : Fin (n + m) => if i.val = j.val then (1 : ℝ) else 0) =
        Vector.ofFn fun j => if Fin.castAdd m i = j then 1 else 0 :=
      ext_get fun j => by simp only [Vector.get_ofFn, Fin.ext_iff, Fin.val_castAdd]
    rw [if_pos frozen, if_pos frozen, unit, Column.dot_single, one_mul, Column.get_first]
  · rw [if_neg frozen, if_neg frozen, Column.dot_append, dot_shifted, dot_get,
      Dense.toMatrix_transpose]

/-- The row of the system for a constraint. -/
theorem dot_kktMatrix_row (r : Fin m) (vector : Vector ℝ (n + m)) :
    Column.dot ((kktMatrix curvature jacobian fixed shift rowShift).get (Fin.natAdd n r)) vector =
      (jacobian.toMatrix *ᵥ (Column.first vector).get) r -
        rowShift * (Column.last vector).get r := by
  unfold kktMatrix
  rw [get_append_natAdd, Vector.get_ofFn, Column.dot_append, dot_get, Column.dot_single, neg_mul,
    sub_eq_add_neg]

/-- **The linear system of the solver says the stationarity conditions.** -/
theorem apply_kktMatrix_eq_iff (vector : Vector ℝ (n + m)) :
    (kktMatrix curvature jacobian fixed shift rowShift).apply vector =
        kktRight gradient residual fixed ↔
      Stationary curvature jacobian gradient residual fixed shift rowShift (Column.first vector)
        (Column.last vector) := by
  have variableRight (i : Fin n) : (kktRight gradient residual fixed).get (Fin.castAdd m i) =
      if fixed.get i then 0 else -gradient.get i := by
    unfold kktRight
    rw [get_append_castAdd, Vector.get_ofFn]
  have rowRight (r : Fin m) :
      (kktRight gradient residual fixed).get (Fin.natAdd n r) = -residual.get r := by
    unfold kktRight
    rw [get_append_natAdd, Vector.get_map]
  constructor
  · intro solved
    have entry (place : Fin (n + m)) :
        Column.dot ((kktMatrix curvature jacobian fixed shift rowShift).get place) vector =
          (kktRight gradient residual fixed).get place := by
      rw [← solved, Dense.get_apply]
    refine ⟨?_, ?_, ?_⟩
    · intro i frozen
      have here := entry (Fin.castAdd m i)
      rwa [dot_kktMatrix_variable, variableRight, if_pos frozen, if_pos frozen] at here
    · intro i free
      have here := entry (Fin.castAdd m i)
      rw [dot_kktMatrix_variable, variableRight, free, if_neg Bool.false_ne_true,
        if_neg Bool.false_ne_true] at here
      rw [here, neg_add_cancel]
    · intro r
      have here := entry (Fin.natAdd n r)
      rw [dot_kktMatrix_row, rowRight] at here
      rw [here, neg_add_cancel]
  · intro stationary
    apply ext_get
    intro place
    rw [Dense.get_apply]
    refine Fin.addCases ?_ ?_ place
    · intro i
      rw [dot_kktMatrix_variable, variableRight]
      by_cases frozen : fixed.get i = true
      · rw [if_pos frozen, if_pos frozen]
        exact stationary.stays i frozen
      · rw [if_neg frozen, if_neg frozen]
        exact eq_neg_of_add_eq_zero_left (stationary.balances i (Bool.eq_false_iff.mpr frozen))
    · intro r
      rw [dot_kktMatrix_row, rowRight]
      exact eq_neg_of_add_eq_zero_left (stationary.rows r)

/-! ### Steps and multipliers -/

/-- A method for linear systems returns nothing but solutions. -/
def ReturnsSolutions (linear : LinearSolver ℝ) : Prop :=
  ∀ (size : Nat) (matrix : Dense ℝ size size) (right solution : Vector ℝ size),
    linear size matrix right = some solution → matrix.apply solution = right

variable {linear : LinearSolver ℝ}

/-- Step and multipliers are the two parts of what the method answers. -/
theorem solveKkt_real (linear : LinearSolver ℝ) (curvature : Dense ℝ n n) (iterate : Iterate ℝ n m)
    (fixed : Vector Bool n) (shift rowShift : ℝ) :
    solveKkt linear curvature iterate fixed shift rowShift =
      (linear (n + m) (kktMatrix curvature iterate.jacobian fixed shift rowShift)
        (kktRight iterate.evaluation.gradient iterate.residual fixed)).map
          fun solution => (Column.first solution, Column.last solution) := by
  unfold solveKkt
  cases linear (n + m) (kktMatrix curvature iterate.jacobian fixed shift rowShift)
      (kktRight iterate.evaluation.gradient iterate.residual fixed) with
  | none => rfl
  | some solution => exact if_pos (Column.isFinite_real solution)

/-- Without a shift of the constraints, their linear model vanishes. -/
theorem Stationary.rows_unshifted {step : Vector ℝ n} {multipliers : Vector ℝ m}
    (stationary : Stationary curvature jacobian gradient residual fixed shift 0 step multipliers) :
    jacobian.toMatrix *ᵥ step.get = -residual.get := by
  funext r
  have here := stationary.rows r
  rw [zero_mul, sub_zero] at here
  exact eq_neg_of_add_eq_zero_left here

/-- **The step solves the intended system.** With a method that returns nothing but solutions, for
every Hessian, iterate, set of frozen variables and shifts: step and multipliers that are found
satisfy the stationarity conditions, so that without a shift of the constraints the step meets their
linear model; and they are found wherever the method answers. -/
theorem solveKkt_stationary (sound : ReturnsSolutions linear) (curvature : Dense ℝ n n)
    (iterate : Iterate ℝ n m) (fixed : Vector Bool n) (shift rowShift : ℝ) :
    (∀ step multipliers,
      solveKkt linear curvature iterate fixed shift rowShift = some (step, multipliers) →
        Stationary curvature iterate.jacobian iterate.evaluation.gradient iterate.residual fixed
          shift rowShift step multipliers ∧
        (rowShift = 0 → iterate.jacobian.toMatrix *ᵥ step.get = -iterate.residual.get)) ∧
    (solveKkt linear curvature iterate fixed shift rowShift = none ↔
      linear (n + m) (kktMatrix curvature iterate.jacobian fixed shift rowShift)
        (kktRight iterate.evaluation.gradient iterate.residual fixed) = none) := by
  rw [solveKkt_real]
  refine ⟨?_, Option.map_eq_none_iff⟩
  intro step multipliers found
  obtain ⟨solution, answered, parts⟩ := Option.map_eq_some_iff.mp found
  cases parts
  have stationary := (apply_kktMatrix_eq_iff solution).mp (sound _ _ _ _ answered)
  refine ⟨stationary, ?_⟩
  intro unshifted
  subst unshifted
  exact stationary.rows_unshifted

/-! ### A step along a wall -/

/-- Elimination returns nothing but solutions. -/
theorem returnsSolutions_elimination : ReturnsSolutions fun _ => Elimination.solve :=
  fun _ _ _ _ => Elimination.solve_sound

namespace wall

/-- At zero, with a slope in the first variable, where the sum of both is one too small. -/
noncomputable def iterate : Iterate ℝ 2 1 where
  point := Column.zero 2
  evaluation := ⟨0, #v[1, 0], #v[-1], ⟨⟨[0, 2], [0, 1]⟩, [1, 1]⟩⟩
  jacobian := #v[#v[1, 1]]
  residual := #v[-1]

/-- A Hessian that is not definite. -/
noncomputable def bent : Dense ℝ 2 2 := #v[#v[0, 1], #v[1, 0]]

/-- The first variable is frozen. -/
def held : Vector Bool 2 := #v[true, false]

theorem nonsingular : (kktMatrix bent iterate.jacobian held 1 0).toMatrix.det ≠ 0 := by
  have entries : (kktMatrix bent iterate.jacobian held 1 0).toMatrix =
      (!![1, 0, 0; 1, 0 + 1, 1; 1, 1, -0] : Matrix (Fin 3) (Fin 3) ℝ) := by
    ext i j
    fin_cases i <;> fin_cases j <;> rfl
  have determinant : (!![1, 0, 0; 1, 0 + 1, 1; 1, 1, -0] : Matrix (Fin 3) (Fin 3) ℝ).det = -1 := by
    simp [det_fin_three]
  rw [entries]
  refine ne_of_eq_of_ne determinant ?_
  norm_num

end wall

/-- A step along a wall: the frozen variable stays, the other one meets the constraint alone. -/
theorem solveKkt_stationary_wall :
    ReturnsSolutions (fun _ => Elimination.solve) ∧ ∃ step multipliers,
      solveKkt (fun _ => Elimination.solve) wall.bent wall.iterate wall.held 1 0 =
        some (step, multipliers) ∧
      step.get 0 = 0 ∧ step.get 1 = 1 ∧ multipliers.get 0 = -1 := by
  obtain ⟨holds, answers⟩ := solveKkt_stationary returnsSolutions_elimination wall.bent
    wall.iterate wall.held 1 0
  obtain ⟨solution, answered, -⟩ := Elimination.solve_nonsingular _
    (kktRight wall.iterate.evaluation.gradient wall.iterate.residual wall.held) wall.nonsingular
  obtain ⟨⟨step, multipliers⟩, found⟩ := Option.ne_none_iff_exists'.mp fun missing =>
    Option.some_ne_none solution (answered.symm.trans (answers.mp missing))
  obtain ⟨stationary, meets⟩ := holds step multipliers found
  have stays : step.get 0 = 0 := stationary.stays 0 rfl
  have sum : 1 * step.get 0 + 1 * step.get 1 = 1 := by
    have row := congrFun (meets rfl) 0
    rw [mulVec, dotProduct, Fin.sum_univ_two] at row
    exact row.trans (neg_neg 1)
  have balance : 1 * step.get 0 + 0 * step.get 1 + 1 * step.get 1 + 1 * multipliers.get 0 + 0 =
      0 := by
    have here := stationary.balances 1 rfl
    rw [mulVec, dotProduct, Fin.sum_univ_two, mulVec, dotProduct, Fin.sum_univ_one] at here
    exact here
  refine ⟨returnsSolutions_elimination, step, multipliers, found, stays, ?_, ?_⟩
  · linarith
  · linarith

/-! ### The unshifted system -/

/-- A method for linear systems solves every nonsingular one. -/
def SolvesNonsingular (linear : LinearSolver ℝ) : Prop :=
  ∀ (size : Nat) (matrix : Dense ℝ size size) (right : Vector ℝ size),
    matrix.toMatrix.det ≠ 0 →
      ∃ solution, linear size matrix right = some solution ∧ matrix.apply solution = right

/-- Elimination solves every nonsingular system. -/
theorem solvesNonsingular_elimination :
    SolvesNonsingular fun _ => (Elimination.solve : Dense ℝ _ _ → Vector ℝ _ → _) :=
  fun _ => Elimination.solve_nonsingular

namespace Stationary

variable {step : Vector ℝ n} {multipliers : Vector ℝ m}

/-- Without frozen variables and shifts, the gradient of the model's Lagrangian vanishes. -/
theorem balances_free
    (stationary : Stationary curvature jacobian gradient residual fixed 0 0 step multipliers)
    (free : ∀ i, fixed.get i = false) :
    curvature.toMatrix *ᵥ step.get + jacobian.toMatrixᵀ *ᵥ multipliers.get + gradient.get = 0 := by
  funext i
  have here := stationary.balances i (free i)
  rwa [zero_mul, add_zero] at here

/-- The curvature along the step is what the gradient loses and the constraints gain. -/
theorem curvature_eq
    (stationary : Stationary curvature jacobian gradient residual fixed 0 0 step multipliers)
    (free : ∀ i, fixed.get i = false) :
    step.get ⬝ᵥ curvature.toMatrix *ᵥ step.get =
      residual.get ⬝ᵥ multipliers.get - gradient.get ⬝ᵥ step.get := by
  have balance := congrArg (step.get ⬝ᵥ ·) (stationary.balances_free free)
  simp only [dotProduct_add, dotProduct_zero] at balance
  rw [dotProduct_mulVec step.get jacobian.toMatrixᵀ, vecMul_transpose, stationary.rows_unshifted,
    neg_dotProduct, dotProduct_comm step.get gradient.get] at balance
  linarith

/-- **The merit descends along the step**, at least as much as the model curves, when the weight of
the constraints covers the multipliers. -/
theorem slope_le
    (stationary : Stationary curvature jacobian gradient residual fixed 0 0 step multipliers)
    (free : ∀ i, fixed.get i = false) {weight : ℝ} (covers : Column.maxNorm multipliers ≤ weight) :
    Column.dot gradient step - weight * Column.sumNorm residual ≤
      -(step.get ⬝ᵥ curvature.toMatrix *ᵥ step.get) := by
  have balance := stationary.curvature_eq free
  have dual : residual.get ⬝ᵥ multipliers.get ≤ weight * Column.sumNorm residual :=
    calc residual.get ⬝ᵥ multipliers.get = multipliers.get ⬝ᵥ residual.get := dotProduct_comm _ _
      _ ≤ |multipliers.get ⬝ᵥ residual.get| := le_abs_self _
      _ ≤ Column.maxNorm multipliers * Column.sumNorm residual :=
        Column.abs_dotProduct_le multipliers residual
      _ ≤ weight * Column.sumNorm residual :=
        mul_le_mul_of_nonneg_right covers (Column.sumNorm_nonneg residual)
  rw [Column.dot_real]
  linarith

end Stationary

/-- A quadratic form is positive along every step that the rows do not see. -/
def CurvesAlong (curvature : Matrix (Fin n) (Fin n) ℝ) (rows : Matrix (Fin m) (Fin n) ℝ) : Prop :=
  ∀ step, rows *ᵥ step = 0 → step ≠ 0 → 0 < step ⬝ᵥ curvature *ᵥ step

/-- A positive definite form is positive along every step. -/
theorem curvesAlong_of_posDef {curvature : Matrix (Fin n) (Fin n) ℝ} (definite : curvature.PosDef)
    (rows : Matrix (Fin m) (Fin n) ℝ) : CurvesAlong curvature rows :=
  fun _ _ moves => definite.dotProduct_mulVec_pos moves

/-- With a Hessian that curves along the steps the rows do not see, and independent rows, only zero
solves the homogeneous system. -/
theorem Stationary.eq_zero {step : Vector ℝ n} {multipliers : Vector ℝ m}
    (stationary : Stationary curvature jacobian (Column.zero n) (Column.zero m) fixed 0 0 step
      multipliers)
    (curves : CurvesAlong curvature.toMatrix jacobian.toMatrix)
    (independent : LinearIndependent ℝ jacobian.toMatrix.row)
    (free : ∀ i, fixed.get i = false) : step.get = 0 ∧ multipliers.get = 0 := by
  have flat := stationary.curvature_eq free
  rw [Column.get_zero_real, Column.get_zero_real, zero_dotProduct, zero_dotProduct, sub_zero]
    at flat
  have unseen : jacobian.toMatrix *ᵥ step.get = 0 := by
    rw [stationary.rows_unshifted, Column.get_zero_real, neg_zero]
  have still : step.get = 0 := by
    by_contra moves
    exact (curves step.get unseen moves).ne' flat
  refine ⟨still, ?_⟩
  have balance := stationary.balances_free free
  rw [still, mulVec_zero, Column.get_zero_real, zero_add, add_zero, mulVec_transpose] at balance
  exact vecMul_injective_iff.mpr independent (balance.trans (zero_vecMul _).symm)

/-- **The unshifted system is nonsingular** with a Hessian that curves along the steps the rows do
not see, independent rows and no frozen variable. -/
theorem det_kktMatrix_ne_zero (curves : CurvesAlong curvature.toMatrix jacobian.toMatrix)
    (independent : LinearIndependent ℝ jacobian.toMatrix.row) (free : ∀ i, fixed.get i = false) :
    (kktMatrix curvature jacobian fixed 0 0).toMatrix.det ≠ 0 := by
  intro singular
  obtain ⟨vector, nonzero, vanishes⟩ := exists_mulVec_eq_zero_iff.mpr singular
  refine nonzero ?_
  have solved : (kktMatrix curvature jacobian fixed 0 0).apply (Vector.ofFn vector) =
      kktRight (Column.zero n) (Column.zero m) fixed := by
    apply ext_get
    intro place
    rw [Dense.get_apply_real, get_ofFn_eq, vanishes]
    refine Fin.addCases ?_ ?_ place
    · intro i
      unfold kktRight
      rw [get_append_castAdd, Vector.get_ofFn, free, Column.get_zero, neg_zero]
      rfl
    · intro r
      unfold kktRight
      rw [get_append_natAdd, Vector.get_map, Column.get_zero, neg_zero]
      rfl
  obtain ⟨still, balanced⟩ :=
    ((apply_kktMatrix_eq_iff _).mp solved).eq_zero curves independent free
  funext place
  refine Fin.addCases ?_ ?_ place
  · intro i
    have here := congrFun still i
    rwa [Column.get_first, Vector.get_ofFn] at here
  · intro r
    have here := congrFun balanced r
    rwa [Column.get_last, Vector.get_ofFn] at here

/-- **A method that solves nonsingular systems** gives step and multipliers at once. -/
theorem solveKkt_nonsingular (solves : SolvesNonsingular linear)
    {iterate : Iterate ℝ n m}
    (curves : CurvesAlong curvature.toMatrix iterate.jacobian.toMatrix)
    (independent : LinearIndependent ℝ iterate.jacobian.toMatrix.row)
    (free : ∀ i, fixed.get i = false) :
    ∃ step multipliers,
      solveKkt linear curvature iterate fixed 0 0 = some (step, multipliers) ∧
      Stationary curvature iterate.jacobian iterate.evaluation.gradient iterate.residual fixed 0 0
        step multipliers := by
  obtain ⟨solution, returned, solved⟩ := solves _ _
    (kktRight iterate.evaluation.gradient iterate.residual fixed)
    (det_kktMatrix_ne_zero curves independent free)
  refine ⟨Column.first solution, Column.last solution, ?_, (apply_kktMatrix_eq_iff _).mp solved⟩
  rw [solveKkt_real, returned]
  rfl

end Sqp

end MultipleShooting
