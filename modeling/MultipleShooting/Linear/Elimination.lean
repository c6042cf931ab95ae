/-
**Linear systems.**

Gaussian elimination with partial pivoting: in every step the equation whose leading coefficient is
largest in magnitude, the first of several, is exchanged with the first equation and subtracted from
the others. There is no solution when a leading coefficient of largest magnitude is zero.
-/
import MultipleShooting.Linear.Dense

namespace MultipleShooting

/-- An equation: the coefficients of the unknowns that are left, and the right-hand side. -/
structure Equation (α : Type) where
  coefficients : List α
  right : α

/-- The coefficient of the first unknown. -/
def Equation.head {α : Type} [Number α] (equation : Equation α) : α :=
  equation.coefficients.headD 0

namespace Elimination

variable {α : Type} [Number α]

/-- The equation of largest leading coefficient among `best` and later ones, and the others in their
order, in which the place of the largest is taken by `first`. -/
def choosePivot (first : Equation α) (others : List (Equation α)) :
    Equation α × List (Equation α) :=
  let largest := others.zipIdx.foldl
    (fun (best : Option Nat × α) (equation, index) =>
      let size := Number.abs equation.head
      if best.2 < size then (some index, size) else best)
    (none, Number.abs first.head)
  match largest.1 with
  | none => (first, others)
  | some index => (others.getD index first, others.set index first)

/-- An equation without its first unknown, after the multiple of the pivot that removes it. -/
def reduce (reciprocal : α) (pivot equation : Equation α) : Equation α :=
  let factor := equation.head * reciprocal
  { coefficients :=
      List.zipWith (fun upper own => -upper * factor + own) pivot.coefficients.tail
        equation.coefficients.tail
    right := -pivot.right * factor + equation.right }

/-- The first unknown of an equation whose other unknowns are known; they are subtracted from the
last to the first. -/
def backSubstitute (pivot : Equation α) (known : List α) : α :=
  let rest := (List.zip pivot.coefficients.tail known).foldr
    (fun (coefficient, value) right => -value * coefficient + right) pivot.right
  rest / pivot.head

/-- The unknowns of a system with `size` equations. -/
def solveEquations : (size : Nat) → List (Equation α) → Option (List α)
  | size + 1, first :: others =>
    let (pivot, others) := choosePivot first others
    if pivot.head == 0 then none
    else
      let reciprocal := 1 / pivot.head
      match solveEquations size (others.map (reduce reciprocal pivot)) with
      | none => none
      | some known => some (backSubstitute pivot known :: known)
  | _, _ => some []

/-- The solution of a square system. -/
def solve {n : Nat} (matrix : Dense α n n) (right : Vector α n) : Option (Vector α n) :=
  let equations := List.zipWith (fun row value => Equation.mk row value)
    (matrix.toList.map Vector.toList) right.toList
  (solveEquations n equations).map fun values => Vector.ofFn fun i => values.getD i 0

end Elimination

end MultipleShooting
