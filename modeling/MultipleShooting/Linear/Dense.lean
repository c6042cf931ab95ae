/-
**Vectors and dense matrices.**

Vectors are `Vector α n`, matrices are vectors of rows. Sums run in the order of the index and
start from zero.
-/
import MultipleShooting.Number.Basic

namespace MultipleShooting

/-- A matrix by rows. -/
abbrev Dense (α : Type) (rows columns : Nat) := Vector (Vector α columns) rows

variable {α : Type} [Number α] {n m k : Nat}

/-! ### Vectors -/

namespace Column

/-- The vector of zeros. -/
def zero (n : Nat) : Vector α n := Vector.replicate n 0

/-- The sum of two vectors. -/
def add (left right : Vector α n) : Vector α n := Vector.zipWith (· + ·) left right

/-- The difference of two vectors. -/
def sub (left right : Vector α n) : Vector α n := Vector.zipWith (· - ·) left right

/-- A multiple of a vector. -/
def scale (factor : α) (vector : Vector α n) : Vector α n := vector.map (factor * ·)

/-- The vector with the values of a block added to its components from a place on. -/
def addFrom (vector : Vector α n) (start : Nat) (block : Vector α m) : Vector α n :=
  Vector.ofFn fun place =>
    if inside : start ≤ place.val ∧ place.val - start < m then
      vector.get place + block.get ⟨place.val - start, inside.2⟩
    else vector.get place

/-- The sum of products of components. -/
def dot (left right : Vector α n) : α :=
  (Vector.zipWith (· * ·) left right).foldl (· + ·) 0

/-- The sum of magnitudes. -/
def sumNorm (vector : Vector α n) : α := vector.foldl (fun sum value => sum + Number.abs value) 0

/-- The largest magnitude; components that are no numbers are dropped. -/
def maxNorm (vector : Vector α n) : α :=
  vector.foldl (fun norm value => Number.larger norm (Number.abs value)) 0

/-- Whether every component is an ordinary number. -/
def isFinite (vector : Vector α n) : Bool := vector.all Number.isFinite

/-- The first components of a vector in two parts. -/
def first (vector : Vector α (n + m)) : Vector α n :=
  Vector.ofFn fun i => vector.get (Fin.castAdd m i)

/-- The last components of a vector in two parts. -/
def last (vector : Vector α (n + m)) : Vector α m :=
  Vector.ofFn fun i => vector.get (Fin.natAdd n i)

end Column

/-! ### Matrices -/

namespace Dense

/-- The matrix of zeros. -/
def zero (rows columns : Nat) : Dense α rows columns := Vector.replicate rows (Column.zero columns)

/-- The identity matrix. -/
def identity (n : Nat) : Dense α n n :=
  Vector.ofFn fun i => Vector.ofFn fun j => if i = j then 1 else 0

/-- The matrix with one place overwritten; a place outside the matrix changes nothing. -/
def put (matrix : Dense α m n) (row column : Nat) (value : α) : Dense α m n :=
  if inside : row < m then matrix.set row (matrix[row].setIfInBounds column value) else matrix

/-- The sum of two matrices. -/
def add (left right : Dense α m n) : Dense α m n := Vector.zipWith Column.add left right

/-- A multiple of a matrix. -/
def scale (factor : α) (matrix : Dense α m n) : Dense α m n := matrix.map (Column.scale factor)

/-- Rows and columns exchanged. -/
def transpose (matrix : Dense α m n) : Dense α n m :=
  Vector.ofFn fun j => Vector.ofFn fun i => (matrix.get i).get j

/-- A matrix times a vector. -/
def apply (matrix : Dense α m n) (vector : Vector α n) : Vector α m :=
  matrix.map fun row => Column.dot row vector

/-- The transposed matrix times a vector. -/
def applyTransposed (matrix : Dense α m n) (vector : Vector α m) : Vector α n :=
  matrix.transpose.apply vector

/-- The product of two matrices. -/
def mul (left : Dense α m k) (right : Dense α k n) : Dense α m n :=
  let columns := right.transpose
  left.map fun row => columns.map fun column => Column.dot row column

/-- The first columns of a matrix in two parts. -/
def firstColumns (matrix : Dense α m (n + k)) : Dense α m n := matrix.map Column.first

/-- The last columns of a matrix in two parts. -/
def lastColumns (matrix : Dense α m (n + k)) : Dense α m k := matrix.map Column.last

/-- Whether every entry is an ordinary number. -/
def isFinite (matrix : Dense α m n) : Bool := matrix.all Column.isFinite

end Dense

end MultipleShooting
