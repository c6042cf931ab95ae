/-
**Entries of vectors and matrices.**

Every operation on vectors and dense matrices is known by its entries, in any arithmetic. Two
vectors with the same entries are equal (`ext_get`), so later proofs compare entries and open no
operation again.
-/
import MultipleShooting.Linear.Dense
import Mathlib

namespace MultipleShooting

/-! ### Entries of the library's vectors -/

section Vectors

variable {β γ δ : Type} {n m : Nat}

/-- Vectors with the same entries are equal. -/
theorem ext_get {left right : Vector β n} (same : ∀ i, left.get i = right.get i) :
    left = right :=
  Vector.ext fun i inside => same ⟨i, inside⟩

@[simp] theorem get_zipWith (f : β → γ → δ) (left : Vector β n) (right : Vector γ n) (i : Fin n) :
    (Vector.zipWith f left right).get i = f (left.get i) (right.get i) :=
  Vector.getElem_zipWith i.isLt

@[simp] theorem get_append_castAdd (left : Vector β n) (right : Vector β m) (i : Fin n) :
    (left ++ right).get (Fin.castAdd m i) = left.get i :=
  Vector.getElem_append_left i.isLt

@[simp] theorem get_append_natAdd (left : Vector β n) (right : Vector β m) (i : Fin m) :
    (left ++ right).get (Fin.natAdd n i) = right.get i := by
  refine (Vector.getElem_append_right (by simp) (by simp)).trans ?_
  simp only [Nat.add_sub_cancel_left]
  rfl

theorem toList_eq_ofFn (vector : Vector β n) : vector.toList = List.ofFn vector.get :=
  List.ext_getElem (by simp) fun i inside _ => by
    rw [Vector.getElem_toList, List.getElem_ofFn]
    rfl

/-- A list of the right length is that of a vector. -/
theorem exists_toList_eq {values : List β} (complete : n = values.length) :
    ∃ vector : Vector β n, vector.toList = values :=
  ⟨⟨values.toArray, complete.symm⟩, rfl⟩

@[simp] theorem ofFn_get (vector : Vector β n) : Vector.ofFn vector.get = vector :=
  ext_get fun i => Vector.get_ofFn _ i

/-- The entries of the vector of a function are the function. -/
theorem get_ofFn_eq (entries : Fin n → β) : (Vector.ofFn entries).get = entries :=
  funext (Vector.get_ofFn entries)

theorem get_set (vector : Vector β n) (place : Nat) (inside : place < n) (value : β) (i : Fin n) :
    (vector.set place value).get i = if place = i.val then value else vector.get i :=
  Vector.getElem_set inside i.isLt

/-- A flattened vector holds its blocks one after the other. -/
@[simp] theorem get_flatten (blocks : Vector (Vector β n) m) (i : Fin m) (j : Fin n) :
    blocks.flatten.get (finProdFinEquiv (i, j)) = (blocks.get i).get j := by
  have place : (finProdFinEquiv (i, j)).val = j.val + n * i.val := finProdFinEquiv_apply_val _
  have positive : 0 < n := Nat.zero_lt_of_lt j.isLt
  have quotient : (finProdFinEquiv (i, j)).val / n = i.val := by
    rw [place, Nat.add_mul_div_left _ _ positive, Nat.div_eq_of_lt j.isLt, Nat.zero_add]
  have remainder : (finProdFinEquiv (i, j)).val % n = j.val := by
    rw [place, Nat.add_mul_mod_self_left, Nat.mod_eq_of_lt j.isLt]
  refine (Vector.getElem_flatten (finProdFinEquiv (i, j)).isLt).trans ?_
  simp only [quotient, remainder]
  rfl

/-! ### Steps one after the other -/

variable {steps : List γ} {step : Vector β n → γ → Vector β n} {place : Fin n}

/-- A component that no step changes. -/
theorem get_foldl_of_unchanged
    (unchanged : ∀ item ∈ steps, ∀ vector, (step vector item).get place = vector.get place)
    (vector : Vector β n) : (steps.foldl step vector).get place = vector.get place := by
  induction steps generalizing vector with
  | nil => rfl
  | cons item steps ih =>
    obtain ⟨here, unchanged⟩ := List.forall_mem_cons.mp unchanged
    rw [List.foldl_cons, ih unchanged, here]

/-- **A component that a single step changes.** -/
theorem get_foldl_of_changed {item : γ} {f : β → β} (nodup : steps.Nodup)
    (among : item ∈ steps)
    (unchanged : ∀ other, other ≠ item → ∀ vector,
      (step vector other).get place = vector.get place)
    (changed : ∀ vector, (step vector item).get place = f (vector.get place))
    (vector : Vector β n) : (steps.foldl step vector).get place = f (vector.get place) := by
  obtain ⟨before, after, rfl⟩ := List.append_of_mem among
  obtain ⟨-, distinct, apart⟩ := List.nodup_append.mp nodup
  have absent := (List.nodup_cons.mp distinct).1
  rw [List.foldl_append, List.foldl_cons, get_foldl_of_unchanged, changed, get_foldl_of_unchanged]
  · exact fun other listed => unchanged other (apart other listed item List.mem_cons_self)
  · exact fun other listed => unchanged other fun same => absent (same ▸ listed)

end Vectors

variable {α : Type} [Number α] {n m k : Nat}

/-! ### Vectors -/

namespace Column

/-- The vector whose only component other than zero is one. -/
def unit (i : Fin n) : Vector α n := (zero n).set i 1 i.isLt

@[simp] theorem get_zero (i : Fin n) : (zero n : Vector α n).get i = 0 := Vector.get_replicate n 0 i

@[simp] theorem get_unit (i j : Fin n) : (unit i : Vector α n).get j = if i = j then 1 else 0 := by
  unfold unit
  rw [get_set, get_zero]
  exact if_congr Fin.val_inj rfl rfl

@[simp] theorem get_add (left right : Vector α n) (i : Fin n) :
    (add left right).get i = left.get i + right.get i := get_zipWith _ _ _ i

@[simp] theorem get_sub (left right : Vector α n) (i : Fin n) :
    (sub left right).get i = left.get i - right.get i := get_zipWith _ _ _ i

@[simp] theorem get_scale (factor : α) (vector : Vector α n) (i : Fin n) :
    (scale factor vector).get i = factor * vector.get i := Vector.get_map _ _ i

/-- A component in the block that is added. -/
theorem get_addFrom_of_inside {vector : Vector α n} {start : Nat} {block : Vector α m}
    {place : Fin n} {i : Fin m} (here : place.val = start + i) :
    (addFrom vector start block).get place = vector.get place + block.get i := by
  have inside : start ≤ place.val ∧ place.val - start < m := by omega
  have same : (⟨place.val - start, inside.2⟩ : Fin m) = i := Fin.ext (by simp [here])
  unfold addFrom
  rw [Vector.get_ofFn, dif_pos inside, same]

/-- A component outside of the block that is added. -/
theorem get_addFrom_of_outside {vector : Vector α n} {start : Nat} {block : Vector α m}
    {place : Fin n} (outside : ∀ i : Fin m, place.val ≠ start + i) :
    (addFrom vector start block).get place = vector.get place := by
  have beyond : ¬ (start ≤ place.val ∧ place.val - start < m) := fun inside =>
    outside ⟨_, inside.2⟩ (Nat.add_sub_cancel' inside.1).symm
  unfold addFrom
  rw [Vector.get_ofFn, dif_neg beyond]

omit [Number α] in
@[simp] theorem get_first (vector : Vector α (n + m)) (i : Fin n) :
    (first vector).get i = vector.get (Fin.castAdd m i) := Vector.get_ofFn _ i

omit [Number α] in
@[simp] theorem get_last (vector : Vector α (n + m)) (i : Fin m) :
    (last vector).get i = vector.get (Fin.natAdd n i) := Vector.get_ofFn _ i

omit [Number α] in
/-- A vector in two parts, put together again. -/
theorem first_append_last (vector : Vector α (n + m)) : first vector ++ last vector = vector := by
  refine ext_get (Fin.addCases ?_ ?_)
  · intro i
    rw [get_append_castAdd, get_first]
  · intro i
    rw [get_append_natAdd, get_last]

omit [Number α] in
@[simp] theorem first_append (left : Vector α n) (right : Vector α m) :
    first (left ++ right) = left :=
  ext_get fun i => by rw [get_first, get_append_castAdd]

omit [Number α] in
@[simp] theorem last_append (left : Vector α n) (right : Vector α m) :
    last (left ++ right) = right :=
  ext_get fun i => by rw [get_last, get_append_natAdd]

/-- A vector is made of ordinary numbers when each of its entries is one. -/
theorem isFinite_iff (vector : Vector α n) :
    isFinite vector = true ↔ ∀ i, Number.isFinite (vector.get i) = true := by
  unfold isFinite
  rw [Vector.all_iff_forall]
  exact ⟨fun every i => every i i.isLt, fun every i inside => every ⟨i, inside⟩⟩

end Column

/-! ### Matrices -/

namespace Dense

@[simp] theorem get_zero (i : Fin m) : (zero m n : Dense α m n).get i = Column.zero n :=
  Vector.get_replicate m _ i

@[simp] theorem get_identity (i j : Fin n) :
    ((identity n : Dense α n n).get i).get j = if i = j then 1 else 0 := by
  unfold identity
  rw [Vector.get_ofFn, Vector.get_ofFn]

@[simp] theorem get_add (left right : Dense α m n) (i : Fin m) :
    (add left right).get i = Column.add (left.get i) (right.get i) := get_zipWith _ _ _ i

@[simp] theorem get_scale (factor : α) (matrix : Dense α m n) (i : Fin m) :
    (scale factor matrix).get i = Column.scale factor (matrix.get i) := Vector.get_map _ _ i

omit [Number α] in
@[simp] theorem get_transpose (matrix : Dense α m n) (i : Fin m) (j : Fin n) :
    (matrix.transpose.get j).get i = (matrix.get i).get j := by
  unfold transpose
  rw [Vector.get_ofFn, Vector.get_ofFn]

@[simp] theorem get_apply (matrix : Dense α m n) (vector : Vector α n) (i : Fin m) :
    (matrix.apply vector).get i = Column.dot (matrix.get i) vector := Vector.get_map _ _ i

@[simp] theorem get_applyTransposed (matrix : Dense α m n) (vector : Vector α m) (j : Fin n) :
    (matrix.applyTransposed vector).get j = Column.dot (matrix.transpose.get j) vector :=
  get_apply _ _ j

@[simp] theorem get_mul (left : Dense α m k) (right : Dense α k n) (i : Fin m) (j : Fin n) :
    ((left.mul right).get i).get j = Column.dot (left.get i) (right.transpose.get j) := by
  unfold mul
  rw [Vector.get_map, Vector.get_map]

omit [Number α] in
@[simp] theorem get_firstColumns (matrix : Dense α m (n + k)) (i : Fin m) :
    matrix.firstColumns.get i = Column.first (matrix.get i) := Vector.get_map _ _ i

omit [Number α] in
@[simp] theorem get_lastColumns (matrix : Dense α m (n + k)) (i : Fin m) :
    matrix.lastColumns.get i = Column.last (matrix.get i) := Vector.get_map _ _ i

/-- A matrix is made of ordinary numbers when each of its rows is. -/
theorem isFinite_iff (matrix : Dense α m n) :
    isFinite matrix = true ↔ ∀ i, Column.isFinite (matrix.get i) = true := by
  unfold isFinite
  rw [Vector.all_iff_forall]
  exact ⟨fun every i => every i i.isLt, fun every i inside => every ⟨i, inside⟩⟩

end Dense

end MultipleShooting
