/-
**Compiled Jacobian matrices.**

In any arithmetic:

* `SparseFunction.mem_nonzero`, `SparseFunction.isRowMajor_nonzero`: the entries of a matrix are
  those of its cells that are not the constant zero, listed row by row;
* `SparseFunction.get_dense_of_mem`, `SparseFunction.get_dense_of_notMem`: the matrix of values has
  each entry at its place and is zero elsewhere;
* `SparseFunction.ofFunctions_of_knownIn`: functions of the arguments have a compiled Jacobian;
* `SparseFunction.mem_pattern_iff`: its places are those of the cells that are not zero;
* `SparseFunction.isJacobian_of_ofFunctions`: **its columns are the derivatives** by the variables
  in their order.
-/
import MultipleShooting.Expr.Jacobian
import MultipleShooting.Proofs.Expr.Variables
import MultipleShooting.Proofs.Linear.Compressed

namespace MultipleShooting

/-! ### Cells -/

namespace Expr

variable {α : Type} [Number α]

/-- The cell of a function in the column of a variable: its simplified derivative, and zero if the
variable does not occur. -/
def cell (function : Expr α) (name : String) : Expr α :=
  if function.mentions name then (function.derivative name).simplify else const 0

theorem KnownIn.cell {function : Expr α} {names : List String} (known : function.KnownIn names)
    (name : String) : (function.cell name).KnownIn names := by
  unfold Expr.cell
  split_ifs
  · exact known.derivative.simplify
  · exact knownIn_const 0

theorem knownIn_of_isZero {expr : Expr α} {names : List String} (zero : expr.isZero = true) :
    expr.KnownIn names := by
  cases expr with
  | const value => exact knownIn_const value
  | _ => cases zero

theorem getElem?_jacobian {functions : List (Expr α)} {names : List String} {row : Nat}
    {cells : List (Expr α)} : (jacobian functions names)[row]? = some cells ↔
      ∃ function, functions[row]? = some function ∧ names.map function.cell = cells := by
  unfold jacobian
  rw [List.getElem?_map, Option.map_eq_some_iff]
  rfl

end Expr

/-! ### Numbered lists -/

theorem pairwise_zipIdx {β : Type} (items : List β) (first : Nat) :
    (items.zipIdx first).Pairwise fun item next => item.2 < next.2 := by
  induction items generalizing first with
  | nil => exact List.Pairwise.nil
  | cons item items ih =>
    rw [List.zipIdx_cons]
    refine List.Pairwise.cons ?_ (ih (first + 1))
    rintro ⟨next, index⟩ among
    exact Nat.lt_of_succ_le (List.le_snd_of_mem_zipIdx among)

/-- The place of an entry. -/
def Entry.place {β : Type} (entry : Entry β) : Nat × Nat := (entry.row, entry.column)

namespace SparseFunction

/-! ### Entries -/

section Entries

variable {α : Type} [Number α] {matrix : List (List (Expr α))} {n : Nat}

/-- **The entries** are the cells that are not the constant zero. -/
theorem mem_nonzero {entry : Entry (Expr α)} :
    entry ∈ nonzero matrix ↔ ∃ cells, matrix[entry.row]? = some cells ∧
      cells[entry.column]? = some entry.value ∧ entry.value.isZero = false := by
  simp only [nonzero, List.mem_flatMap, List.mem_map, List.mem_filter]
  constructor
  · rintro ⟨⟨cells, row⟩, numbered, ⟨cell, column⟩, ⟨numberedCell, notZero⟩, rfl⟩
    exact ⟨cells, List.mk_mem_zipIdx_iff_getElem?.mp numbered,
      List.mk_mem_zipIdx_iff_getElem?.mp numberedCell, by simpa using notZero⟩
  · rintro ⟨cells, inRow, inColumn, notZero⟩
    exact ⟨(cells, entry.row), List.mk_mem_zipIdx_iff_getElem?.mpr inRow,
      (entry.value, entry.column),
      ⟨List.mk_mem_zipIdx_iff_getElem?.mpr inColumn, by simpa using notZero⟩, rfl⟩

/-- **The entries are listed row by row**, inside of a matrix with rows of one length. -/
theorem isRowMajor_nonzero (wide : ∀ cells ∈ matrix, cells.length = n) :
    IsRowMajor matrix.length n ((nonzero matrix).map Entry.place) where
  increases := by
    unfold nonzero
    rw [List.map_flatMap, List.pairwise_flatMap]
    constructor
    · rintro ⟨cells, row⟩ _
      rw [List.map_map]
      refine List.pairwise_map.mpr (((pairwise_zipIdx cells 0).filter _).imp ?_)
      intro _ _ before
      exact .inr ⟨rfl, before⟩
    · refine (pairwise_zipIdx matrix 0).imp ?_
      rintro ⟨_, row⟩ ⟨_, next⟩ before _ among _ amongNext
      obtain ⟨_, listed, rfl⟩ := List.mem_map.mp among
      obtain ⟨_, listedNext, rfl⟩ := List.mem_map.mp amongNext
      obtain ⟨_, _, rfl⟩ := List.mem_map.mp listed
      obtain ⟨_, _, rfl⟩ := List.mem_map.mp listedNext
      exact .inl before
  inside := by
    intro _ among
    obtain ⟨entry, listed, rfl⟩ := List.mem_map.mp among
    obtain ⟨cells, inRow, inColumn, -⟩ := mem_nonzero.mp listed
    obtain ⟨belowRows, rfl⟩ := List.getElem?_eq_some_iff.mp inRow
    obtain ⟨belowColumns, -⟩ := List.getElem?_eq_some_iff.mp inColumn
    rw [wide _ (List.getElem_mem belowRows)] at belowColumns
    exact ⟨belowRows, belowColumns⟩

end Entries

/-! ### The matrix of values -/

section Values

variable {α : Type} [Number α] {n rows columns : Nat} {entries : List (Entry (Compiled α n))}
  {values : Vector α n}

omit [Number α] in
theorem get_put {matrix : Dense α rows columns} {row column : Nat} {value : α} (i : Fin rows)
    (j : Fin columns) : ((Dense.put matrix row column value).get i).get j =
      if row = i.val ∧ column = j.val then value else (matrix.get i).get j := by
  unfold Dense.put
  split_ifs with inside here
  · obtain ⟨rfl, rfl⟩ := here
    rw [get_set, if_pos rfl]
    exact Vector.getElem_setIfInBounds_self j.isLt
  · rw [get_set]
    split_ifs with sameRow
    · subst sameRow
      exact Vector.getElem_setIfInBounds_ne j.isLt fun sameColumn => here ⟨rfl, sameColumn⟩
    · rfl
  · next here => exact absurd (here.1 ▸ i.isLt) inside
  · rfl

omit [Number α] in
/-- Writing entries changes no other place. -/
theorem get_foldl_put_of_notMem {matrix : Dense α rows columns} {i : Fin rows} {j : Fin columns}
    (absent : (i.val, j.val) ∉ entries.map Entry.place) :
    ((entries.foldl (fun matrix entry => Dense.put matrix entry.row entry.column
      (entry.value values)) matrix).get i).get j = (matrix.get i).get j := by
  induction entries generalizing matrix with
  | nil => rfl
  | cons entry entries ih =>
    rw [List.map_cons, List.mem_cons, not_or] at absent
    rw [List.foldl_cons, ih absent.2, get_put, if_neg]
    rintro ⟨sameRow, sameColumn⟩
    exact absent.1 (Prod.ext sameRow.symm sameColumn.symm)

omit [Number α] in
/-- Among entries at different places each one is found at its own. -/
theorem get_foldl_put_of_mem {matrix : Dense α rows columns} {i : Fin rows} {j : Fin columns}
    (distinct : (entries.map Entry.place).Nodup) {entry : Entry (Compiled α n)}
    (among : entry ∈ entries) (here : entry.place = (i.val, j.val)) :
    ((entries.foldl (fun matrix entry => Dense.put matrix entry.row entry.column
      (entry.value values)) matrix).get i).get j = entry.value values := by
  induction entries generalizing matrix with
  | nil => cases among
  | cons first entries ih =>
    rw [List.map_cons, List.nodup_cons] at distinct
    rw [List.foldl_cons]
    rcases List.mem_cons.mp among with rfl | among
    · rw [here] at distinct
      rw [get_foldl_put_of_notMem distinct.1, get_put, if_pos (Prod.mk.inj here)]
    · exact ih distinct.2 among

variable {function : SparseFunction α n}

/-- **An entry stands at its place** in the matrix of values. -/
theorem get_dense_of_mem (distinct : function.pattern.Nodup)
    {entry : Entry (Compiled α n)} (among : entry ∈ function.entries) {i : Fin rows}
    {j : Fin columns} (here : entry.place = (i.val, j.val)) :
    ((function.dense rows columns values).get i).get j = entry.value values :=
  get_foldl_put_of_mem distinct among here

/-- **Where no entry stands** the matrix of values is zero. -/
theorem get_dense_of_notMem {i : Fin rows} {j : Fin columns}
    (absent : (i.val, j.val) ∉ function.pattern) :
    ((function.dense rows columns values).get i).get j = 0 := by
  unfold dense
  rw [get_foldl_put_of_notMem absent, Dense.get_zero, Column.get_zero]

end Values

/-! ### Compilation -/

section Compilation

variable {α : Type} [Number α] {n : Nat} {arguments : Vector String n} {functions : List (Expr α)}
  {names : List String} {function : SparseFunction α n}

theorem compileEntries_eq_ok {entries : List (Entry (Expr α))}
    {compiled : List (Entry (Compiled α n))} :
    compileEntries arguments entries = .ok compiled ↔
      List.Forall₂ (fun entry result => entry.place = result.place ∧
        entry.value.compile arguments = .ok result.value) entries compiled := by
  induction entries generalizing compiled with
  | nil => simp [compileEntries, eq_comm]
  | cons entry entries ih =>
    unfold compileEntries
    cases succeeded : entry.value.compile arguments with
    | error unknown => simp [List.forall₂_cons_left_iff, succeeded]
    | ok value =>
      rw [map_eq_ok, List.forall₂_cons_left_iff]
      constructor
      · rintro ⟨others, compiledOthers, rfl⟩
        exact ⟨_, others, ⟨rfl, succeeded⟩, ih.mp compiledOthers, rfl⟩
      · rintro ⟨⟨row, column, _⟩, others, ⟨here, compiledHere⟩, compiledOthers, rfl⟩
        cases succeeded.symm.trans compiledHere
        cases here
        exact ⟨others, ih.mpr compiledOthers, rfl⟩

/-- The compiled Jacobian of functions: the cells by rows and columns, those that are the constant
zero being left out. -/
structure IsJacobian (arguments : Vector String n) (functions : List (Expr α))
    (names : List String) (matrix : SparseFunction α n) : Prop where
  rows : matrix.rows = functions.length
  columns : matrix.columns = names.length
  rowMajor : IsRowMajor functions.length names.length matrix.pattern
  cells : ∀ {rows columns : Nat} (i : Fin rows) (j : Fin columns) (function : Expr α)
    (name : String), functions[i.val]? = some function → names[j.val]? = some name →
    ∃ value, (function.cell name).compile arguments = .ok value ∧ ∀ values,
      ((matrix.dense rows columns values).get i).get j =
        if (function.cell name).isZero then 0 else value values

theorem compileEntries_of_knownIn {entries : List (Entry (Expr α))}
    (known : ∀ entry ∈ entries, entry.value.KnownIn arguments.toList) :
    ∃ compiled, compileEntries arguments entries = .ok compiled := by
  induction entries with
  | nil => exact ⟨[], rfl⟩
  | cons entry entries ih =>
    obtain ⟨here, others⟩ := List.forall_mem_cons.mp known
    obtain ⟨value, succeeded⟩ := here.compile
    obtain ⟨compiled, succeededOthers⟩ := ih others
    exact ⟨⟨entry.row, entry.column, value⟩ :: compiled, compileEntries_eq_ok.mpr
      (.cons ⟨rfl, succeeded⟩ (compileEntries_eq_ok.mp succeededOthers))⟩

/-- **Functions of the arguments have a compiled Jacobian.** -/
theorem ofFunctions_of_knownIn (known : ∀ function ∈ functions, function.KnownIn arguments.toList) :
    ∃ matrix, ofFunctions arguments functions names = .ok matrix := by
  have cells : ∀ entry ∈ nonzero (Expr.jacobian functions names),
      entry.value.KnownIn arguments.toList := by
    intro entry among
    obtain ⟨cells, inRow, inColumn, -⟩ := mem_nonzero.mp among
    obtain ⟨function, listed, rfl⟩ := Expr.getElem?_jacobian.mp inRow
    obtain ⟨name, -, cell⟩ := List.mem_map.mp (List.mem_of_getElem? inColumn)
    rw [← cell]
    exact (known function (List.mem_of_getElem? listed)).cell name
  obtain ⟨entries, succeeded⟩ := compileEntries_of_knownIn cells
  exact ⟨_, map_eq_ok.mpr ⟨entries, succeeded, rfl⟩⟩

/-- An entry of the Jacobian of functions is the cell at its place. -/
theorem mem_nonzero_jacobian {entry : Entry (Expr α)} {function : Expr α} {name : String}
    (inRow : functions[entry.row]? = some function) (inColumn : names[entry.column]? = some name) :
    entry ∈ nonzero (Expr.jacobian functions names) ↔
      function.cell name = entry.value ∧ entry.value.isZero = false := by
  rw [mem_nonzero]
  constructor
  · rintro ⟨_, listed, cell, notZero⟩
    obtain ⟨_, same, rfl⟩ := Expr.getElem?_jacobian.mp listed
    cases inRow.symm.trans same
    rw [List.getElem?_map, inColumn] at cell
    exact ⟨Option.some.inj cell, notZero⟩
  · rintro ⟨same, notZero⟩
    refine ⟨names.map function.cell, Expr.getElem?_jacobian.mpr ⟨_, inRow, rfl⟩, ?_, notZero⟩
    rw [List.getElem?_map, inColumn, ← same]
    rfl

/-- Compilation keeps the places of the entries. -/
theorem places_of_ofFunctions {matrix : SparseFunction α n}
    (succeeded : ofFunctions arguments functions names = .ok matrix) :
    (nonzero (Expr.jacobian functions names)).map Entry.place = matrix.pattern := by
  obtain ⟨entries, compiled, rfl⟩ := map_eq_ok.mp succeeded
  rw [← List.forall₂_eq_eq_eq, List.forall₂_map_left_iff, pattern, List.forall₂_map_right_iff]
  exact (compileEntries_eq_ok.mp compiled).imp fun _ _ both => both.1

/-- **The places of a compiled Jacobian** are those of the cells that are not the constant zero. -/
theorem mem_pattern_iff {matrix : SparseFunction α n}
    (succeeded : ofFunctions arguments functions names = .ok matrix) (i : Fin functions.length)
    (j : Fin names.length) :
    (i.val, j.val) ∈ matrix.pattern ↔ ((functions.get i).cell (names.get j)).isZero = false := by
  have inRow : functions[i.val]? = some (functions.get i) := List.getElem?_eq_getElem i.isLt
  have inColumn : names[j.val]? = some (names.get j) := List.getElem?_eq_getElem j.isLt
  rw [← places_of_ofFunctions succeeded, List.mem_map]
  constructor
  · rintro ⟨⟨row, column, value⟩, among, here⟩
    cases here
    obtain ⟨rfl, notZero⟩ := (mem_nonzero_jacobian inRow inColumn).mp among
    exact notZero
  · intro notZero
    exact ⟨⟨i, j, _⟩, (mem_nonzero_jacobian inRow inColumn).mpr ⟨rfl, notZero⟩, rfl⟩

/-- **A compiled Jacobian has the derivatives in its columns**, by the variables in their order. -/
theorem isJacobian_of_ofFunctions {matrix : SparseFunction α n}
    (succeeded : ofFunctions arguments functions names = .ok matrix) :
    matrix.IsJacobian arguments functions names := by
  have samePlaces := places_of_ofFunctions succeeded
  obtain ⟨entries, compiled, rfl⟩ := map_eq_ok.mp succeeded
  have related := compileEntries_eq_ok.mp compiled
  have wide : ∀ cells ∈ Expr.jacobian functions names, cells.length = names.length := by
    intro cells among
    obtain ⟨function, -, rfl⟩ := List.mem_map.mp among
    exact List.length_map ..
  have rowMajor := isRowMajor_nonzero wide
  rw [samePlaces, Expr.jacobian, List.length_map] at rowMajor
  refine ⟨rfl, rfl, rowMajor, fun i j function name inRow inColumn => ?_⟩
  cases zero : (function.cell name).isZero with
  | true =>
    have constant : (function.cell name).KnownIn arguments.toList := Expr.knownIn_of_isZero zero
    obtain ⟨value, compiledCell⟩ := constant.compile
    refine ⟨value, compiledCell, fun values => ?_⟩
    rw [if_pos rfl, get_dense_of_notMem]
    rw [← samePlaces]
    intro listed
    obtain ⟨⟨row, column, value⟩, among, here⟩ := List.mem_map.mp listed
    cases here
    obtain ⟨rfl, notZero⟩ := (mem_nonzero_jacobian inRow inColumn).mp among
    cases zero.symm.trans notZero
  | false =>
    have among : ⟨i, j, function.cell name⟩ ∈ nonzero (Expr.jacobian functions names) :=
      (mem_nonzero_jacobian inRow inColumn).mpr ⟨rfl, zero⟩
    obtain ⟨k, same⟩ := List.get_of_mem among
    have both := related.get k.isLt (related.length_eq ▸ k.isLt)
    rw [same] at both
    refine ⟨_, both.2, fun values => ?_⟩
    rw [if_neg Bool.false_ne_true]
    exact get_dense_of_mem rowMajor.nodup (List.get_mem entries _) both.1.symm

end Compilation

end SparseFunction

end MultipleShooting
