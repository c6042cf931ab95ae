/-
**Vectors and matrices of numbers among those that may be undefined.**

An operation on vectors or matrices whose entries are numbers has numbers for entries, and they are
those of the operation over the real numbers. Vectors and matrices that pass the check for ordinary
numbers are of this kind (`Column.ofReal_toReal`, `Dense.ofReal_toReal`).
-/
import MultipleShooting.Proofs.Linear.Real
import MultipleShooting.Proofs.Number.Partial

namespace MultipleShooting

open PartialReal

variable {m n k : Nat}

/-! ### Vectors -/

namespace Column

/-- A vector of real numbers among those that may be undefined. -/
def ofReal (vector : Vector ℝ n) : Vector PartialReal n := vector.map .number

/-- The numbers of a vector, with zero for what is undefined. -/
def toReal (vector : Vector PartialReal n) : Vector ℝ n := vector.map PartialReal.toReal

@[simp] theorem get_ofReal (vector : Vector ℝ n) (i : Fin n) :
    (ofReal vector).get i = number (vector.get i) := Vector.get_map _ _ i

@[simp] theorem get_toReal (vector : Vector PartialReal n) (i : Fin n) :
    (toReal vector).get i = (vector.get i).toReal := Vector.get_map _ _ i

/-- **A vector of ordinary numbers** is one of real numbers. -/
theorem ofReal_toReal {vector : Vector PartialReal n} (finite : isFinite vector = true) :
    ofReal (toReal vector) = vector := by
  refine ext_get fun i => ?_
  rw [get_ofReal, get_toReal]
  exact PartialReal.isFinite_iff.mp ((isFinite_iff vector).mp finite i)

theorem isFinite_ofReal (vector : Vector ℝ n) : isFinite (ofReal vector) = true :=
  (isFinite_iff _).mpr fun i => by
    rw [get_ofReal]
    rfl

@[simp] theorem zero_ofReal : (zero n : Vector PartialReal n) = ofReal (zero n) :=
  ext_get fun i => by rw [get_ofReal, get_zero, get_zero, number_zero]

@[simp] theorem add_ofReal (left right : Vector ℝ n) :
    add (ofReal left) (ofReal right) = ofReal (add left right) :=
  ext_get fun i => by rw [get_ofReal, get_add, get_add, get_ofReal, get_ofReal, number_add]

@[simp] theorem scale_ofReal (factor : ℝ) (vector : Vector ℝ n) :
    scale (number factor) (ofReal vector) = ofReal (scale factor vector) :=
  ext_get fun i => by rw [get_ofReal, get_scale, get_scale, get_ofReal, number_mul]

@[simp] theorem append_ofReal (left : Vector ℝ n) (right : Vector ℝ m) :
    ofReal left ++ ofReal right = ofReal (left ++ right) :=
  Vector.map_append.symm

@[simp] theorem first_ofReal (vector : Vector ℝ (n + m)) :
    first (ofReal vector) = ofReal (first vector) :=
  ext_get fun i => by rw [get_ofReal, get_first, get_first, get_ofReal]

@[simp] theorem last_ofReal (vector : Vector ℝ (n + m)) :
    last (ofReal vector) = ofReal (last vector) :=
  ext_get fun i => by rw [get_ofReal, get_last, get_last, get_ofReal]

@[simp] theorem dot_ofReal (left right : Vector ℝ n) :
    dot (ofReal left) (ofReal right) = number (dot left right) := by
  have products : Vector.zipWith (· * ·) (ofReal left) (ofReal right) =
      ofReal (Vector.zipWith (· * ·) left right) :=
    ext_get fun i => by
      rw [get_ofReal, get_zipWith, get_zipWith, get_ofReal, get_ofReal, number_mul]
  have sums (values : List ℝ) (start : ℝ) :
      (values.map number).foldl (· + ·) (number start) = number (values.foldl (· + ·) start) := by
    induction values generalizing start with
    | nil => rfl
    | cons value values ih => rw [List.map_cons, List.foldl_cons, number_add, ih, List.foldl_cons]
  unfold dot
  rw [products, ← Vector.foldl_toList, ← Vector.foldl_toList, ofReal, Vector.toList_map]
  exact sums _ 0

end Column

/-! ### Matrices -/

namespace Dense

/-- A matrix of real numbers among those that may be undefined. -/
def ofReal (matrix : Dense ℝ m n) : Dense PartialReal m n := matrix.map Column.ofReal

/-- The numbers of a matrix, with zero for what is undefined. -/
def toReal (matrix : Dense PartialReal m n) : Dense ℝ m n := matrix.map Column.toReal

@[simp] theorem get_ofReal (matrix : Dense ℝ m n) (i : Fin m) :
    (ofReal matrix).get i = Column.ofReal (matrix.get i) := Vector.get_map _ _ i

@[simp] theorem get_toReal (matrix : Dense PartialReal m n) (i : Fin m) :
    (toReal matrix).get i = Column.toReal (matrix.get i) := Vector.get_map _ _ i

/-- **A matrix of ordinary numbers** is one of real numbers. -/
theorem ofReal_toReal {matrix : Dense PartialReal m n} (finite : isFinite matrix = true) :
    ofReal (toReal matrix) = matrix := by
  refine ext_get fun i => ?_
  rw [get_ofReal, get_toReal]
  exact Column.ofReal_toReal ((isFinite_iff matrix).mp finite i)

theorem isFinite_ofReal (matrix : Dense ℝ m n) : isFinite (ofReal matrix) = true :=
  (isFinite_iff _).mpr fun i => by rw [get_ofReal, Column.isFinite_ofReal]

@[simp] theorem zero_ofReal : (zero m n : Dense PartialReal m n) = ofReal (zero m n) :=
  ext_get fun i => by rw [get_ofReal, get_zero, get_zero, Column.zero_ofReal]

@[simp] theorem identity_ofReal : (identity n : Dense PartialReal n n) = ofReal (identity n) := by
  refine ext_get fun i => ext_get fun j => ?_
  rw [get_ofReal, Column.get_ofReal, get_identity, get_identity]
  split_ifs <;> rfl

@[simp] theorem add_ofReal (left right : Dense ℝ m n) :
    (ofReal left).add (ofReal right) = ofReal (left.add right) :=
  ext_get fun i => by
    rw [get_ofReal, get_add, get_add, get_ofReal, get_ofReal, Column.add_ofReal]

@[simp] theorem scale_ofReal (factor : ℝ) (matrix : Dense ℝ m n) :
    (ofReal matrix).scale (number factor) = ofReal (matrix.scale factor) :=
  ext_get fun i => by rw [get_ofReal, get_scale, get_scale, get_ofReal, Column.scale_ofReal]

@[simp] theorem transpose_ofReal (matrix : Dense ℝ m n) :
    (ofReal matrix).transpose = ofReal matrix.transpose :=
  ext_get fun j => ext_get fun i => by
    rw [get_ofReal, Column.get_ofReal, get_transpose, get_transpose, get_ofReal, Column.get_ofReal]

@[simp] theorem mul_ofReal (left : Dense ℝ m k) (right : Dense ℝ k n) :
    (ofReal left).mul (ofReal right) = ofReal (left.mul right) :=
  ext_get fun i => ext_get fun j => by
    rw [get_ofReal, Column.get_ofReal, get_mul, get_mul, transpose_ofReal, get_ofReal, get_ofReal,
      Column.dot_ofReal]

@[simp] theorem applyTransposed_ofReal (matrix : Dense ℝ m n) (vector : Vector ℝ m) :
    (ofReal matrix).applyTransposed (Column.ofReal vector) =
      Column.ofReal (matrix.applyTransposed vector) :=
  ext_get fun j => by
    rw [Column.get_ofReal, get_applyTransposed, get_applyTransposed, transpose_ofReal, get_ofReal,
      Column.dot_ofReal]

@[simp] theorem firstColumns_ofReal (matrix : Dense ℝ m (n + k)) :
    (ofReal matrix).firstColumns = ofReal matrix.firstColumns :=
  ext_get fun i => by
    rw [get_ofReal, get_firstColumns, get_firstColumns, get_ofReal, Column.first_ofReal]

@[simp] theorem lastColumns_ofReal (matrix : Dense ℝ m (n + k)) :
    (ofReal matrix).lastColumns = ofReal matrix.lastColumns :=
  ext_get fun i => by
    rw [get_ofReal, get_lastColumns, get_lastColumns, get_ofReal, Column.last_ofReal]

end Dense

end MultipleShooting
