/-
**Nonlinear programs.**

```text
minimise J(v)   subject to   rowLower ≤ g(v) ≤ rowUpper,   lower ≤ v ≤ upper
```

A solver sees a program through `NlpFunctions`, which evaluate objective and constraints with their
first derivatives and may fail at some points, and through the bounds and the start of an `Nlp`.

* `Nlp.make`: the program of functions and lists of bounds, which have to fit;
* `Nlp.violation`: the largest distance of a constraint from its row bounds;
* `NlpSolution`: the point where a solver stopped and how.
-/
import MultipleShooting.Failure
import MultipleShooting.Linear.Compressed

namespace MultipleShooting

variable {α : Type} {n m : Nat}

/-- Objective and constraints with their first derivatives at a point. -/
structure Evaluation (α : Type) (n m : Nat) where
  objective : α
  gradient : Vector α n
  constraints : Vector α m
  jacobian : Compressed α m n

/-- The functions of a program in `n` variables with `m` constraints. -/
structure NlpFunctions (α : Type) (n m : Nat) where
  objective : Vector α n → Outcome α α
  gradient : Vector α n → Outcome α (Vector α n)
  constraints : Vector α n → Outcome α (Vector α m)
  jacobian : Vector α n → Outcome α (Compressed α m n)
  /-- All four at once. -/
  evaluate : Vector α n → Outcome α (Evaluation α n m)
  /-- The places of the stored entries of the Jacobian, row by row. -/
  pattern : List (Nat × Nat)

/-- Four functions evaluated one after the other. -/
def evaluateSeparately (objective : Vector α n → Outcome α α)
    (gradient : Vector α n → Outcome α (Vector α n))
    (constraints : Vector α n → Outcome α (Vector α m))
    (jacobian : Vector α n → Outcome α (Compressed α m n)) (point : Vector α n) :
    Outcome α (Evaluation α n m) := do
  let value ← objective point
  let slope ← gradient point
  let rows ← constraints point
  let matrix ← jacobian point
  return ⟨value, slope, rows, matrix⟩

/-- A program: its functions, the bounds of its variables and rows, and the start. -/
structure Nlp (α : Type) (n m : Nat) where
  functions : NlpFunctions α n m
  lower : Vector (Bound α) n
  upper : Vector (Bound α) n
  start : Vector α n
  rowLower : Vector α m
  rowUpper : Vector α m

namespace Nlp

variable [Number α]

/-- Whether the bounds of some variable or row cross or are no numbers. -/
def boundsCross (lower upper : Vector (Bound α) n) (rowLower rowUpper : Vector α m) : Bool :=
  (Vector.zipWith Bound.crossed lower upper).any id ||
    (Vector.zipWith (fun low high => Number.isNaN low || Number.isNaN high || high < low)
      rowLower rowUpper).any id

/-- The program of functions with bounds that have the right lengths and do not cross. -/
def make (functions : NlpFunctions α n m) (lower upper : List (Bound α)) (start : List α)
    (rowLower rowUpper : List α) : Outcome α (Nlp α n m) := do
  let lower ← expectVector "lb_v" n lower
  let upper ← expectVector "ub_v" n upper
  let start ← expectVector "v0" n start
  let rowLower ← expectVector "lb_g" m rowLower
  let rowUpper ← expectVector "ub_g" m rowUpper
  if boundsCross lower upper rowLower rowUpper then .error (.configuration .crossedBounds)
  else return ⟨functions, lower, upper, start, rowLower, rowUpper⟩

/-- A list of the length of the decision vector as a point. -/
def point (_ : Nlp α n m) (values : List α) : Outcome α (Vector α n) :=
  expectVector "decision vector" n values

/-- The distance of a value from the row bounds. -/
def distance (value low high : α) : α :=
  Number.larger (Number.larger (low - value) (value - high)) 0

/-- The largest distance of the constraints from their row bounds. -/
def violation (problem : Nlp α n m) (constraints : Vector α m) : α :=
  (Vector.zipWith (fun value (low, high) => distance value low high) constraints
    (Vector.zip problem.rowLower problem.rowUpper)).foldl Number.larger 0

/-- Whether the row bounds of every constraint are equal. -/
def isEqualityConstrained (problem : Nlp α n m) : Bool :=
  (Vector.zipWith (· == ·) problem.rowLower problem.rowUpper).all id

end Nlp

/-! ### Solutions -/

/-- The point where a solver stopped, and how. -/
structure NlpSolution (α : Type) where
  point : List α
  objective : α
  violation : α
  iterations : Nat
  status : SolverStatus

namespace NlpSolution

/-- Whether the solver converged. -/
def isConverged (solution : NlpSolution α) : Bool := solution.status == .converged

/-- Refuses a solution that is not converged. -/
def checkConverged (solution : NlpSolution α) : Outcome α Unit :=
  if solution.isConverged then .ok ()
  else .error (.notConverged solution.status solution.iterations solution.violation)

end NlpSolution

end MultipleShooting
