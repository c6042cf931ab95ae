/-
**Vectors and matrices of doubles.**

A sum of vectors or matrices is made of ordinary numbers only if both operands are
(`Column.isFinite_of_add`, `Dense.isFinite_of_add`). A sum of magnitudes is an ordinary number only
if every component is one (`Column.isFinite_of_sumNorm`). A largest magnitude bounds the components
that are numbers and says nothing of the others, which it has dropped
(`Column.abs_le_of_maxNorm_le`).
-/
import MultipleShooting.Proofs.Linear.Entries
import MultipleShooting.Proofs.Number.Double

namespace MultipleShooting

namespace Column

variable {n : Nat}

/-- Zeros are ordinary numbers. -/
theorem isFinite_zero (n : Nat) : isFinite (zero n : Vector Float n) = true := by
  rw [isFinite_iff]
  intro i
  rw [get_zero]
  rfl

/-- No infinity and no NaN is lost in a sum of vectors. -/
theorem isFinite_of_add {left right : Vector Float n} (finite : isFinite (add left right) = true) :
    isFinite left = true ∧ isFinite right = true := by
  simp only [isFinite_iff, get_add] at finite ⊢
  exact ⟨fun i => (Double.isFinite_of_add (finite i)).1,
    fun i => (Double.isFinite_of_add (finite i)).2⟩

theorem isFinite_of_foldl_add {values : List Float} {start : Float}
    (finite : Number.isFinite
      (values.foldl (fun sum value => sum + Number.abs value) start) = true) :
    Number.isFinite start = true ∧ ∀ value ∈ values, Number.isFinite value = true := by
  induction values generalizing start with
  | nil => exact ⟨finite, fun value among => by cases among⟩
  | cons value values ih =>
    obtain ⟨begun, others⟩ := ih finite
    obtain ⟨first, magnitude⟩ := Double.isFinite_of_add begun
    exact ⟨first, List.forall_mem_cons.mpr ⟨Double.isFinite_of_abs magnitude, others⟩⟩

/-- **A sum of magnitudes loses no component**: it is an ordinary number only if all of them are. -/
theorem isFinite_of_sumNorm {vector : Vector Float n}
    (finite : Number.isFinite (sumNorm vector) = true) (i : Fin n) :
    Number.isFinite (vector.get i) = true := by
  unfold sumNorm at finite
  rw [← Vector.foldl_toList, toList_eq_ofFn] at finite
  exact (isFinite_of_foldl_add finite).2 _ (List.mem_ofFn.mpr ⟨i, rfl⟩)

theorem le_of_foldl_larger {values : List Float} {start bound : Float}
    (number : Number.isNaN start = false)
    (within : values.foldl (fun norm value => Number.larger norm (Number.abs value)) start ≤
      bound) :
    start ≤ bound ∧
      ∀ value ∈ values, Number.isNaN value = false → Number.abs value ≤ bound := by
  induction values generalizing start with
  | nil => exact ⟨within, fun value among => by cases among⟩
  | cons value values ih =>
    obtain ⟨begun, others⟩ := ih (Double.isNaN_larger number) within
    obtain ⟨first, magnitude⟩ := Double.le_of_larger_le number begun
    exact ⟨first, List.forall_mem_cons.mpr
      ⟨fun defined => magnitude (Double.isNaN_abs defined), others⟩⟩

/-- **A largest magnitude bounds the components that are numbers.** -/
theorem abs_le_of_maxNorm_le {vector : Vector Float n} {bound : Float}
    (within : maxNorm vector ≤ bound) (i : Fin n) (number : Number.isNaN (vector.get i) = false) :
    Number.abs (vector.get i) ≤ bound := by
  unfold maxNorm at within
  rw [← Vector.foldl_toList, toList_eq_ofFn] at within
  exact (le_of_foldl_larger rfl within).2 _ (List.mem_ofFn.mpr ⟨i, rfl⟩) number

end Column

namespace Dense

variable {m n : Nat}

theorem isFinite_zero (m n : Nat) : isFinite (zero m n : Dense Float m n) = true := by
  rw [isFinite_iff]
  intro i
  rw [get_zero]
  exact Column.isFinite_zero n

theorem isFinite_identity (n : Nat) : isFinite (identity n : Dense Float n n) = true := by
  simp only [isFinite_iff, Column.isFinite_iff, get_identity]
  intro i j
  split_ifs <;> rfl

/-- No infinity and no NaN is lost in a sum of matrices. -/
theorem isFinite_of_add {left right : Dense Float m n} (finite : isFinite (left.add right) = true) :
    isFinite left = true ∧ isFinite right = true := by
  simp only [isFinite_iff, get_add] at finite ⊢
  exact ⟨fun i => (Column.isFinite_of_add (finite i)).1,
    fun i => (Column.isFinite_of_add (finite i)).2⟩

end Dense

end MultipleShooting
