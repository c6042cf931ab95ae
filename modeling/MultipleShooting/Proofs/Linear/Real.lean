/-
**Vectors and matrices of real numbers.**

Over the real numbers a vector is the function of its entries and a dense matrix is a `Matrix`
(`Dense.toMatrix`), and every operation is the one of linear algebra: sums of products are dot
products, products are products of matrices, and the two norms are a sum and a largest magnitude.
-/
import MultipleShooting.Proofs.Linear.Entries
import MultipleShooting.Proofs.Number.Real

namespace MultipleShooting

open Matrix

variable {n m k : Nat}

/-! ### Sums over a vector -/

/-- A vector summed up in the order of its indices. -/
theorem foldl_add_real {β : Type} (vector : Vector β n) (term : β → ℝ) :
    vector.foldl (fun sum value => sum + term value) 0 = ∑ i, term (vector.get i) := by
  have shift (values : List β) (start : ℝ) :
      values.foldl (fun sum value => sum + term value) start = start + (values.map term).sum := by
    induction values generalizing start with
    | nil => simp
    | cons value values ih => rw [List.foldl_cons, ih, List.map_cons, List.sum_cons, add_assoc]
  rw [← Vector.foldl_toList, shift, zero_add, toList_eq_ofFn, List.map_ofFn, List.sum_ofFn]
  rfl

/-! ### Vectors -/

namespace Column

theorem get_zero_real : (zero n : Vector ℝ n).get = 0 := funext get_zero

theorem get_add_real (left right : Vector ℝ n) : (add left right).get = left.get + right.get :=
  funext (get_add left right)

theorem get_scale_real (factor : ℝ) (vector : Vector ℝ n) :
    (scale factor vector).get = factor • vector.get :=
  funext (get_scale factor vector)

@[simp] theorem isFinite_real (vector : Vector ℝ n) : isFinite vector = true :=
  (isFinite_iff vector).mpr fun _ => rfl

/-- The sum of products is the dot product. -/
theorem dot_real (left right : Vector ℝ n) : dot left right = left.get ⬝ᵥ right.get := by
  refine (foldl_add_real (Vector.zipWith (· * ·) left right) id).trans ?_
  simp only [id, get_zipWith]
  rfl

theorem dot_comm (left right : Vector ℝ n) : dot left right = dot right left := by
  rw [dot_real, dot_real, dotProduct_comm]

/-- The sum of products with a vector in two parts. -/
theorem dot_append (left : Vector ℝ n) (right : Vector ℝ m) (vector : Vector ℝ (n + m)) :
    dot (left ++ right) vector = dot left (first vector) + dot right (last vector) := by
  simp only [dot_real, dotProduct, Fin.sum_univ_add, get_append_castAdd, get_append_natAdd,
    get_first, get_last]

/-- The sum of products with a unit vector is a component. -/
theorem dot_unit (vector : Vector ℝ n) (i : Fin n) : dot vector (unit i) = vector.get i := by
  rw [dot_real]
  simp [dotProduct]

theorem dot_zero (vector : Vector ℝ n) : dot vector (zero n) = 0 := by
  rw [dot_real]
  simp [dotProduct]

theorem sumNorm_real (vector : Vector ℝ n) : sumNorm vector = ∑ i, |vector.get i| :=
  foldl_add_real vector fun value => |value|

theorem sumNorm_nonneg (vector : Vector ℝ n) : 0 ≤ sumNorm vector := by
  rw [sumNorm_real]
  exact Finset.sum_nonneg fun i _ => abs_nonneg _

theorem sumNorm_pos {vector : Vector ℝ n} (nonzero : vector.get ≠ 0) : 0 < sumNorm vector := by
  obtain ⟨i, here⟩ := Function.ne_iff.mp nonzero
  rw [sumNorm_real]
  exact Finset.sum_pos' (fun j _ => abs_nonneg _) ⟨i, Finset.mem_univ i, abs_pos.mpr here⟩

/-- A bound on the largest magnitude is a bound on every magnitude. -/
theorem maxNorm_le_iff (vector : Vector ℝ n) (bound : ℝ) :
    maxNorm vector ≤ bound ↔ 0 ≤ bound ∧ ∀ i, |vector.get i| ≤ bound := by
  have fold (values : List ℝ) (start : ℝ) :
      values.foldl (fun norm value => Number.larger norm (Number.abs value)) start ≤ bound ↔
        start ≤ bound ∧ ∀ value ∈ values, |value| ≤ bound := by
    induction values generalizing start with
    | nil => simp
    | cons value values ih =>
      rw [List.foldl_cons, ih, Number.larger_real, max_le_iff, List.forall_mem_cons, and_assoc]
      rfl
  unfold maxNorm
  rw [← Vector.foldl_toList]
  refine (fold vector.toList 0).trans (and_congr_right ?_)
  intro _
  rw [toList_eq_ofFn, List.forall_mem_ofFn_iff]

theorem maxNorm_nonneg (vector : Vector ℝ n) : 0 ≤ maxNorm vector :=
  ((maxNorm_le_iff vector _).mp le_rfl).1

theorem abs_get_le_maxNorm (vector : Vector ℝ n) (i : Fin n) : |vector.get i| ≤ maxNorm vector :=
  ((maxNorm_le_iff vector _).mp le_rfl).2 i

/-- The largest magnitude is the norm of the supremum. -/
theorem maxNorm_real (vector : Vector ℝ n) : maxNorm vector = ‖vector.get‖ := by
  refine le_antisymm ?_ ?_
  · exact (maxNorm_le_iff _ _).mpr ⟨norm_nonneg _, fun i => norm_le_pi_norm vector.get i⟩
  · exact (pi_norm_le_iff_of_nonneg (maxNorm_nonneg vector)).mpr fun i =>
      abs_get_le_maxNorm vector i

/-- **The two norms are dual**: a dot product is bounded by their product. -/
theorem abs_dotProduct_le (left right : Vector ℝ n) :
    |left.get ⬝ᵥ right.get| ≤ maxNorm left * sumNorm right := by
  rw [sumNorm_real, Finset.mul_sum]
  refine (Finset.abs_sum_le_sum_abs _ _).trans (Finset.sum_le_sum ?_)
  intro i _
  rw [abs_mul]
  exact mul_le_mul_of_nonneg_right (abs_get_le_maxNorm left i) (abs_nonneg _)

end Column

/-! ### Matrices -/

namespace Dense

@[simp] theorem isFinite_real (matrix : Dense ℝ m n) : isFinite matrix = true := by
  unfold isFinite
  rw [Vector.all_iff_forall]
  exact fun i inside => Column.isFinite_real _

/-- The matrix of the entries. -/
def toMatrix (matrix : Dense ℝ m n) : Matrix (Fin m) (Fin n) ℝ :=
  Matrix.of fun i j => (matrix.get i).get j

@[simp] theorem toMatrix_apply (matrix : Dense ℝ m n) (i : Fin m) (j : Fin n) :
    matrix.toMatrix i j = (matrix.get i).get j := rfl

@[simp] theorem toMatrix_zero : (zero m n : Dense ℝ m n).toMatrix = 0 := by
  ext i j
  rw [toMatrix_apply, get_zero, Column.get_zero]
  rfl

@[simp] theorem toMatrix_identity : (identity n : Dense ℝ n n).toMatrix = 1 := by
  ext i j
  rw [toMatrix_apply, get_identity, Matrix.one_apply]

@[simp] theorem toMatrix_add (left right : Dense ℝ m n) :
    (left.add right).toMatrix = left.toMatrix + right.toMatrix := by
  ext i j
  rw [toMatrix_apply, get_add, Column.get_add]
  rfl

@[simp] theorem toMatrix_scale (factor : ℝ) (matrix : Dense ℝ m n) :
    (matrix.scale factor).toMatrix = factor • matrix.toMatrix := by
  ext i j
  rw [toMatrix_apply, get_scale, Column.get_scale]
  rfl

@[simp] theorem toMatrix_transpose (matrix : Dense ℝ m n) :
    matrix.transpose.toMatrix = matrix.toMatrixᵀ := by
  ext i j
  rw [toMatrix_apply, get_transpose]
  rfl

@[simp] theorem toMatrix_mul (left : Dense ℝ m k) (right : Dense ℝ k n) :
    (left.mul right).toMatrix = left.toMatrix * right.toMatrix := by
  ext i j
  rw [toMatrix_apply, get_mul, Column.dot_real, Matrix.mul_apply']
  congr 1
  funext l
  exact get_transpose right l j

/-- A matrix applied to a vector is the product with it. -/
theorem get_apply_real (matrix : Dense ℝ m n) (vector : Vector ℝ n) :
    (matrix.apply vector).get = matrix.toMatrix *ᵥ vector.get := by
  funext i
  rw [get_apply, Column.dot_real]
  rfl

theorem get_applyTransposed_real (matrix : Dense ℝ m n) (vector : Vector ℝ m) :
    (matrix.applyTransposed vector).get = matrix.toMatrixᵀ *ᵥ vector.get := by
  unfold applyTransposed
  rw [get_apply_real, toMatrix_transpose]

end Dense

end MultipleShooting
