/-
**Jacobian matrices of expressions.**

* `Expr.jacobianRow`, `Expr.jacobian`: simplified derivatives, functions by rows and variables by
  columns; a variable that does not occur gives the constant zero without differentiation;
* `SparseFunction`: the compiled entries that are not the constant zero, in row-major order;
* `SparseFunction.dense`: the matrix of values at some arguments, zero outside the entries;
* `SparseFunction.writeInto`: the same values written over a matrix that was in use before.
-/
import MultipleShooting.Expr.Compile
import MultipleShooting.Expr.Simplify
import MultipleShooting.Expr.Derivative
import MultipleShooting.Linear.Dense

namespace MultipleShooting

namespace Expr

variable {α : Type} [Number α]

/-- The simplified derivatives of one function with respect to each variable. -/
def jacobianRow (names : List String) (function : Expr α) : List (Expr α) :=
  names.map fun name =>
    if function.mentions name then (function.derivative name).simplify else const 0

/-- The simplified derivatives of several functions, one row for each of them. -/
def jacobian (functions : List (Expr α)) (names : List String) : List (List (Expr α)) :=
  functions.map (jacobianRow names)

end Expr

/-- An entry of a matrix at its row and column. -/
structure Entry (β : Type) where
  row : Nat
  column : Nat
  value : β

/-- A matrix-valued function given by its entries. -/
structure SparseFunction (α : Type) (n : Nat) where
  rows : Nat
  columns : Nat
  entries : List (Entry (Compiled α n))

namespace SparseFunction

variable {α : Type} [Number α] {n : Nat}

/-- The entries of a matrix of expressions that are not the constant zero, in row-major order. -/
def nonzero (matrix : List (List (Expr α))) : List (Entry (Expr α)) :=
  matrix.zipIdx.flatMap fun (cells, row) =>
    (cells.zipIdx.filter fun (cell, _) => !cell.isZero).map fun (cell, column) =>
      ⟨row, column, cell⟩

/-- Entries with their expressions compiled. -/
def compileEntries (arguments : Vector String n) :
    List (Entry (Expr α)) → Except UnknownVariable (List (Entry (Compiled α n)))
  | [] => .ok []
  | entry :: others =>
    match entry.value.compile arguments with
    | .error unknown => .error unknown
    | .ok value => (compileEntries arguments others).map (⟨entry.row, entry.column, value⟩ :: ·)

/-- The compiled Jacobian of functions with respect to variables. -/
def ofFunctions (arguments : Vector String n) (functions : List (Expr α))
    (names : List String) : Except UnknownVariable (SparseFunction α n) :=
  (compileEntries arguments (nonzero (Expr.jacobian functions names))).map fun entries =>
    ⟨functions.length, names.length, entries⟩

/-- The places of the entries. -/
def pattern (function : SparseFunction α n) : List (Nat × Nat) :=
  function.entries.map fun entry => (entry.row, entry.column)

/-- The matrix of values at some arguments; places without an entry are zero. -/
def dense (function : SparseFunction α n) (rows columns : Nat) (values : Vector α n) :
    Dense α rows columns :=
  function.entries.foldl
    (fun matrix entry => Dense.put matrix entry.row entry.column (entry.value values))
    (Dense.zero rows columns)

/-- A matrix overwritten with the values at some arguments: zero everywhere, then the entries. -/
def writeInto {rows columns : Nat} (function : SparseFunction α n) (output : Dense α rows columns)
    (values : Vector α n) : Dense α rows columns :=
  function.entries.foldl
    (fun matrix entry => Dense.put matrix entry.row entry.column (entry.value values))
    (output.map fun row => row.map fun _ => 0)

end SparseFunction

end MultipleShooting
