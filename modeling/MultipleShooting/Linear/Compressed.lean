/-
**Sparse matrices by compressed rows.**

The stored entries stand row after row. `offsets` tells where each row begins and where the last one
ends, and the columns of a row increase.

* `Pattern.ofPlaces?`: the pattern of a list of places, if it is one;
* `Compressed.dense`: the dense matrix, zero outside of the stored entries.
-/
import MultipleShooting.Linear.Dense

namespace MultipleShooting

/-- Where the entries of a sparse matrix stand. -/
structure Pattern (rows columns : Nat) where
  /-- The number of entries before each row, and the number of all of them. -/
  offsets : List Nat
  /-- The column of each entry. -/
  places : List Nat
deriving Repr, DecidableEq

/-- Running sums from a first value on. -/
def runningSums (first : Nat) : List Nat → List Nat
  | [] => [first]
  | value :: values => first :: runningSums (first + value) values

/-- Whether the numbers of a list increase strictly. -/
def increases : List Nat → Bool
  | first :: second :: others => first < second && increases (second :: others)
  | _ => true

namespace Pattern

variable {m n : Nat}

/-- The part of a list that belongs to a row. -/
def rowOf {β : Type} (pattern : Pattern m n) (row : Nat) (items : List β) : List β :=
  let start := pattern.offsets.getD row 0
  (items.drop start).take (pattern.offsets.getD (row + 1) 0 - start)

/-- Whether every row has increasing columns inside of the matrix. -/
def isValid (pattern : Pattern m n) : Bool :=
  (List.range m).all fun row =>
    let columns := pattern.rowOf row pattern.places
    increases columns && columns.all (· < n)

/-- The pattern with entries at the given places, listed row by row. -/
def ofPlaces? (m n : Nat) (places : List (Nat × Nat)) : Option (Pattern m n) :=
  let counts := (List.range m).map fun row => places.countP fun place => place.1 == row
  let pattern : Pattern m n := ⟨runningSums 0 counts, places.map (·.2)⟩
  if places.all (·.1 < m) && pattern.isValid then some pattern else none

end Pattern

/-- A sparse matrix: a pattern with a value for each of its entries. -/
structure Compressed (α : Type) (rows columns : Nat) where
  pattern : Pattern rows columns
  values : List α

namespace Compressed

variable {α : Type} {m n : Nat}

/-- The stored entries of a row with their columns. -/
def row (matrix : Compressed α m n) (index : Nat) : List (Nat × α) :=
  matrix.pattern.rowOf index (matrix.pattern.places.zip matrix.values)

/-- The stored entries with row and column, row by row. -/
def entries (matrix : Compressed α m n) : List (Nat × Nat × α) :=
  (List.range m).flatMap fun row => (matrix.row row).map fun (column, value) => (row, column, value)

/-- The dense matrix. -/
def dense [Number α] (matrix : Compressed α m n) : Dense α m n :=
  Vector.ofFn fun row =>
    (matrix.row row).foldl (fun cells (column, value) => cells.setIfInBounds column value)
      (Column.zero n)

end Compressed

end MultipleShooting
