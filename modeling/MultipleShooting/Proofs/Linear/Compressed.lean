/-
**Sparse matrices by their places.**

Places that are listed row by row, with increasing columns inside of the matrix (`IsRowMajor`),
make a pattern (`Pattern.ofPlaces?_of_isRowMajor`): the offsets cut the list where its rows begin
(`Pattern.rowOf_ofPlaces`). The dense matrix then has each value at its place
(`Compressed.get_dense_of_mem`) and is zero elsewhere (`Compressed.get_dense_of_notMem`).
-/
import MultipleShooting.Proofs.Linear.Entries
import MultipleShooting.Linear.Compressed

namespace MultipleShooting

variable {m n : Nat}

/-- The places are listed row by row with increasing columns, inside of the matrix. -/
structure IsRowMajor (m n : Nat) (places : List (Nat × Nat)) : Prop where
  increases : places.Pairwise fun place next =>
    place.1 < next.1 ∨ place.1 = next.1 ∧ place.2 < next.2
  inside : ∀ place ∈ places, place.1 < m ∧ place.2 < n

theorem IsRowMajor.sorted {places : List (Nat × Nat)} (rowMajor : IsRowMajor m n places) :
    places.Pairwise fun place next => place.1 ≤ next.1 :=
  rowMajor.increases.imp fun ordered => by omega

theorem IsRowMajor.nodup {places : List (Nat × Nat)} (rowMajor : IsRowMajor m n places) :
    places.Nodup :=
  rowMajor.increases.imp fun ordered same => by
    rw [same] at ordered
    omega

/-! ### Sorted lists -/

section Sorted

variable {β : Type} {key : β → Nat}

/-- A sorted list begins with the items below a bound. -/
theorem filter_lt_append_filter_le {items : List β}
    (sorted : items.Pairwise fun item next => key item ≤ key next) (bound : Nat) :
    items.filter (fun item => key item < bound) ++ items.filter (fun item => bound ≤ key item) =
      items := by
  induction items with
  | nil => rfl
  | cons item items ih =>
    obtain ⟨least, sorted⟩ := List.pairwise_cons.mp sorted
    by_cases below : key item < bound
    · have above : ¬ bound ≤ key item := by omega
      simp only [List.filter_cons, below, above, decide_true, decide_false, if_true,
        Bool.false_eq_true, if_false, List.cons_append, ih sorted]
    · have noneBelow : items.filter (fun item => key item < bound) = [] :=
        List.filter_eq_nil_iff.mpr fun other among => by
          have beyond := least other among
          simp only [decide_eq_true_eq]
          omega
      have all : items.filter (fun item => bound ≤ key item) = items :=
        List.filter_eq_self.mpr fun other among => by
          have beyond := least other among
          simp only [decide_eq_true_eq]
          omega
      have above : bound ≤ key item := by omega
      simp only [List.filter_cons, below, above, decide_true, decide_false, if_true,
        Bool.false_eq_true, if_false, noneBelow, all, List.nil_append]

/-- Dropping the items below a bound from a sorted list leaves the others. -/
theorem drop_countP {items : List β}
    (sorted : items.Pairwise fun item next => key item ≤ key next) (bound : Nat) :
    items.drop (items.countP fun item => key item < bound) =
      items.filter fun item => bound ≤ key item := by
  have dropped : (items.filter (fun item => key item < bound) ++
      items.filter (fun item => bound ≤ key item)).drop
        (items.filter fun item => key item < bound).length =
      items.filter fun item => bound ≤ key item := List.drop_left
  rwa [filter_lt_append_filter_le sorted bound, ← List.countP_eq_length_filter] at dropped

/-- **The items of one key** stand together in a sorted list. -/
theorem take_drop_countP {items : List β}
    (sorted : items.Pairwise fun item next => key item ≤ key next) (row : Nat) :
    (items.drop (items.countP fun item => key item < row)).take
        (items.countP fun item => key item == row) =
      items.filter fun item => key item == row := by
  have beginning := filter_lt_append_filter_le
    (sorted.filter fun item => row ≤ key item) (row + 1)
  have these (item : β) :
      ((row ≤ key item) && (key item < row + 1) : Bool) = (key item == row) := by
    rw [Bool.eq_iff_iff]
    simp only [Bool.and_eq_true, decide_eq_true_eq, beq_iff_eq]
    omega
  simp only [List.filter_filter, Bool.and_comm, these] at beginning
  rw [drop_countP sorted, ← beginning, List.countP_eq_length_filter, List.take_left]

end Sorted

theorem getD_runningSums {first : Nat} {values : List Nat} {row : Nat}
    (inside : row ≤ values.length) :
    (runningSums first values).getD row 0 = first + (values.take row).sum := by
  induction values generalizing first row with
  | nil =>
    obtain rfl : row = 0 := Nat.le_zero.mp inside
    rfl
  | cons value values ih =>
    cases row with
    | zero => rfl
    | succ row =>
      unfold runningSums
      rw [List.getD_cons_succ, ih (Nat.le_of_succ_le_succ inside), List.take_succ_cons,
        List.sum_cons, Nat.add_assoc]

theorem increases_of_pairwise {values : List Nat} (ordered : values.Pairwise (· < ·)) :
    increases values = true := by
  induction values with
  | nil => rfl
  | cons first values ih =>
    obtain ⟨least, ordered⟩ := List.pairwise_cons.mp ordered
    cases values with
    | nil => rfl
    | cons second others =>
      unfold increases
      rw [ih ordered, Bool.and_true, decide_eq_true_eq]
      exact least second List.mem_cons_self

/-! ### Rows of a pattern -/

namespace Pattern

/-- The items up to a row are those before it and its own. -/
theorem countP_lt_succ {β : Type} (key : β → Nat) (items : List β) (row : Nat) :
    (items.countP fun item => key item < row + 1) =
      (items.countP fun item => key item < row) + items.countP fun item => key item == row := by
  induction items with
  | nil => rfl
  | cons item items ih =>
    simp only [List.countP_cons, ih, decide_eq_true_eq, beq_iff_eq]
    rcases lt_trichotomy (key item) row with before | same | after
    · rw [if_pos (by omega), if_pos before, if_neg (by omega)]
      omega
    · rw [if_pos (by omega), if_neg (by omega), if_pos same]
      omega
    · rw [if_neg (by omega), if_neg (by omega), if_neg (by omega)]
      omega

/-- The number of places in the rows before a given one. -/
theorem sum_counts (places : List (Nat × Nat)) (row : Nat) :
    ((List.range row).map fun index => places.countP fun place => place.1 == index).sum =
      places.countP fun place => place.1 < row := by
  induction row with
  | zero => simp
  | succ row ih =>
    rw [List.range_succ, List.map_append, List.sum_append, ih, List.map_singleton,
      List.sum_singleton, ← countP_lt_succ]

/-- The pattern of a list of places. -/
def ofPlaces (m n : Nat) (places : List (Nat × Nat)) : Pattern m n :=
  ⟨runningSums 0 ((List.range m).map fun row => places.countP fun place => place.1 == row),
    places.map (·.2)⟩

theorem getD_offsets (places : List (Nat × Nat)) {row : Nat} (inside : row ≤ m) :
    (ofPlaces m n places).offsets.getD row 0 = places.countP fun place => place.1 < row := by
  unfold ofPlaces
  rw [getD_runningSums (by simpa using inside), Nat.zero_add, ← List.map_take, List.take_range,
    Nat.min_eq_left inside, sum_counts]

/-- The part of a row by the counts of the items before it and of its own. -/
theorem rowOf_eq_take_drop {β γ : Type} {places : List (Nat × Nat)} {row : Nat} (inside : row < m)
    {items : List β} {key : β → Nat} (f : β → γ) (keys : items.map key = places.map (·.1)) :
    (ofPlaces m n places).rowOf row (items.map f) =
      ((items.drop (items.countP fun item => key item < row)).take
        (items.countP fun item => key item == row)).map f := by
  have count (p : Nat → Bool) : places.countP (fun place => p place.1) =
      items.countP fun item => p (key item) := by
    have same := congrArg (List.countP p) keys
    rw [List.countP_map, List.countP_map] at same
    exact same.symm
  rw [rowOf, getD_offsets places inside.le, getD_offsets places inside, countP_lt_succ,
    Nat.add_sub_cancel_left, ← List.map_drop, ← List.map_take, count (· < row), count (· == row)]

/-- **The part of a row** is that of the items with its number. -/
theorem rowOf_ofPlaces {β γ : Type} {places : List (Nat × Nat)} {row : Nat} (inside : row < m)
    {items : List β} {key : β → Nat} (f : β → γ)
    (sorted : items.Pairwise fun item next => key item ≤ key next)
    (keys : items.map key = places.map (·.1)) :
    (ofPlaces m n places).rowOf row (items.map f) =
      (items.filter fun item => key item == row).map f := by
  rw [rowOf_eq_take_drop inside f keys, take_drop_countP sorted]

/-- **Places listed row by row make a pattern.** -/
theorem ofPlaces?_of_isRowMajor {places : List (Nat × Nat)} (rowMajor : IsRowMajor m n places) :
    ofPlaces? m n places = some (ofPlaces m n places) := by
  have inRows : places.all (·.1 < m) = true :=
    List.all_eq_true.mpr fun place among => decide_eq_true (rowMajor.inside place among).1
  have valid : (ofPlaces m n places).isValid = true := by
    refine List.all_eq_true.mpr ?_
    intro row among
    have part := rowOf_ofPlaces (n := n) (List.mem_range.mp among) (·.2) rowMajor.sorted rfl
    have ordered : ((places.filter fun place => place.1 == row).map (·.2)).Pairwise (· < ·) := by
      refine List.pairwise_map.mpr ((rowMajor.increases.filter _).imp_of_mem ?_)
      intro place next among amongNext ordered
      have here := (List.mem_filter.mp among).2
      have there := (List.mem_filter.mp amongNext).2
      simp only [beq_iff_eq] at here there
      omega
    show (increases ((ofPlaces m n places).rowOf row (places.map (·.2))) &&
      ((ofPlaces m n places).rowOf row (places.map (·.2))).all (· < n)) = true
    rw [part, increases_of_pairwise ordered, Bool.true_and, List.all_map]
    exact List.all_eq_true.mpr fun place among =>
      decide_eq_true (rowMajor.inside place (List.mem_filter.mp among).1).2
  show (if places.all (·.1 < m) && (ofPlaces m n places).isValid then
    some (ofPlaces m n places) else none) = _
  rw [inRows, valid]
  rfl

end Pattern

/-! ### Dense matrices -/

namespace Compressed

variable {α : Type}

/-- Writing the entries of a row changes no other column. -/
theorem get_foldl_set_of_notMem {entries : List (Nat × α)} {cells : Vector α n} {column : Fin n}
    (absent : ∀ entry ∈ entries, entry.1 ≠ column) :
    (entries.foldl (fun cells entry => cells.setIfInBounds entry.1 entry.2) cells).get column =
      cells.get column := by
  induction entries generalizing cells with
  | nil => rfl
  | cons entry entries ih =>
    obtain ⟨other, absent⟩ := List.forall_mem_cons.mp absent
    rw [List.foldl_cons, ih absent]
    exact Vector.getElem_setIfInBounds_ne column.isLt other

/-- An entry of a row whose columns differ is found in its column. -/
theorem get_foldl_set_of_mem {entries : List (Nat × α)} {cells : Vector α n} {column : Fin n}
    {value : α} (distinct : entries.Pairwise fun entry next => entry.1 ≠ next.1)
    (among : (column.val, value) ∈ entries) :
    (entries.foldl (fun cells entry => cells.setIfInBounds entry.1 entry.2) cells).get column =
      value := by
  induction entries generalizing cells with
  | nil => cases among
  | cons entry entries ih =>
    obtain ⟨differ, distinct⟩ := List.pairwise_cons.mp distinct
    rw [List.foldl_cons]
    rcases List.mem_cons.mp among with same | among
    · subst same
      rw [get_foldl_set_of_notMem fun other amongOthers => (differ other amongOthers).symm]
      exact Vector.getElem_setIfInBounds_self column.isLt
    · exact ih distinct among

/-- Where a row has a single value for a column, the row read into cells has that value there. -/
theorem get_foldl_set_of_forall {entries : List (Nat × α)} {cells : Vector α n} {column : Fin n}
    {value : α} (every : ∀ entry ∈ entries, entry.1 = column.val → entry.2 = value)
    (initially : cells.get column = value) :
    (entries.foldl (fun cells entry => cells.setIfInBounds entry.1 entry.2) cells).get column =
      value := by
  induction entries generalizing cells with
  | nil => exact initially
  | cons entry entries ih =>
    obtain ⟨here, every⟩ := List.forall_mem_cons.mp every
    rw [List.foldl_cons]
    refine ih every ?_
    by_cases same : entry.1 = column.val
    · rw [same, here same]
      exact Vector.getElem_setIfInBounds_self column.isLt
    · exact (Vector.getElem_setIfInBounds_ne column.isLt same).trans initially

variable {places : List (Nat × Nat)} {values : List α}

/-- The columns of places with their values. -/
theorem zip_columns (places : List (Nat × Nat)) (values : List α) :
    (places.map (·.2)).zip values =
      (places.zip values).map fun entry => (entry.1.2, entry.2) := by
  rw [List.zip_map_left]
  rfl

/-- A relation between places is one between the places of stored entries. -/
theorem pairwise_zip {related : Nat × Nat → Nat × Nat → Prop}
    (complete : values.length = places.length) (every : places.Pairwise related) :
    (places.zip values).Pairwise fun entry next => related entry.1 next.1 := by
  rw [← List.map_fst_zip complete.ge] at every
  exact List.pairwise_map.mp every

/-- The stored entries of a row. -/
theorem row_ofPlaces (rowMajor : IsRowMajor m n places) (complete : values.length = places.length)
    {index : Nat} (inside : index < m) :
    (⟨Pattern.ofPlaces m n places, values⟩ : Compressed α m n).row index =
      ((places.zip values).filter fun entry => entry.1.1 == index).map
        fun entry => (entry.1.2, entry.2) := by
  have keys : (places.zip values).map (fun entry => entry.1.1) = places.map (·.1) := by
    conv_rhs => rw [← List.map_fst_zip complete.ge, List.map_map]
    rfl
  have part := Pattern.rowOf_ofPlaces (m := m) (n := n) inside
    (fun entry : (Nat × Nat) × α => (entry.1.2, entry.2)) (pairwise_zip complete rowMajor.sorted)
    keys
  rw [← zip_columns] at part
  exact part

variable [Number α]

/-- **A stored value stands at its place** in the dense matrix. -/
theorem get_dense_of_mem (rowMajor : IsRowMajor m n places)
    (complete : values.length = places.length) {row : Fin m} {column : Fin n} {value : α}
    (stored : ((row.val, column.val), value) ∈ places.zip values) :
    ((⟨Pattern.ofPlaces m n places, values⟩ : Compressed α m n).dense.get row).get column =
      value := by
  unfold dense
  rw [Vector.get_ofFn, row_ofPlaces rowMajor complete row.isLt]
  refine get_foldl_set_of_mem ?_ ?_
  · refine List.pairwise_map.mpr
      (((pairwise_zip complete rowMajor.increases).filter _).imp_of_mem ?_)
    intro entry next among amongNext ordered
    have here := (List.mem_filter.mp among).2
    have there := (List.mem_filter.mp amongNext).2
    simp only [beq_iff_eq] at here there
    omega
  · exact List.mem_map.mpr ⟨_, List.mem_filter.mpr ⟨stored, beq_self_eq_true _⟩, rfl⟩

/-- **Where nothing is stored** the dense matrix is zero. -/
theorem get_dense_of_notMem (rowMajor : IsRowMajor m n places)
    (complete : values.length = places.length) {row : Fin m} {column : Fin n}
    (absent : (row.val, column.val) ∉ places) :
    ((⟨Pattern.ofPlaces m n places, values⟩ : Compressed α m n).dense.get row).get column = 0 := by
  unfold dense
  rw [Vector.get_ofFn, row_ofPlaces rowMajor complete row.isLt, get_foldl_set_of_notMem,
    Column.get_zero]
  intro entry among same
  obtain ⟨⟨place, value⟩, stored, rfl⟩ := List.mem_map.mp among
  obtain ⟨stored, here⟩ := List.mem_filter.mp stored
  simp only [beq_iff_eq] at here same
  refine absent ?_
  rw [← here, ← same]
  exact (List.of_mem_zip stored).1

/-- **A column with nothing but zeros stored in it** is zero. -/
theorem get_dense_of_zero {matrix : Compressed α m n} {column : Fin n}
    (zero : ∀ entry ∈ matrix.pattern.places.zip matrix.values,
      entry.1 = column.val → entry.2 = 0) (row : Fin m) :
    (matrix.dense.get row).get column = 0 := by
  unfold dense
  rw [Vector.get_ofFn]
  refine get_foldl_set_of_forall ?_ (Column.get_zero column)
  intro entry among
  exact zero entry (List.mem_of_mem_drop (List.mem_of_mem_take among))

end Compressed

end MultipleShooting
