/-
**Nonlinear programs given by expressions.**

The objective and the constraints of a program are expressions in its variables, and their
derivatives are the symbolic ones. A value that is no ordinary number is a failure of evaluation.

* `ExpressionProgram.compileObjective`, `ExpressionProgram.compileConstraints`: the compiled parts;
* `ExpressionProgram.toNlp`: the program over them.
-/
import MultipleShooting.Model.Dynamics
import MultipleShooting.Nlp

namespace MultipleShooting

/-- Compiled objective and constraints with their symbolic derivatives. -/
structure ExpressionProgram (α : Type) (n : Nat) where
  objective : Compiled α n
  objectiveJacobian : SparseFunction α n
  constraints : List (Compiled α n)
  constraintJacobian : SparseFunction α n

namespace ExpressionProgram

variable {α : Type} [Number α] {n : Nat}

/-- The compiled objective of a program, with its derivatives. -/
def compileObjective (names : Vector String n) (objective : Expr α) :
    Except UnknownVariable (Compiled α n × SparseFunction α n) := do
  let value ← objective.compile names
  let jacobian ← SparseFunction.ofFunctions names [objective] names.toList
  return (value, jacobian)

/-- The compiled constraints of a program, with their derivatives. -/
def compileConstraints (names : Vector String n) (constraints : List (Expr α)) :
    Except UnknownVariable (List (Compiled α n) × SparseFunction α n) := do
  let values ← Expr.compileAll names constraints
  let jacobian ← SparseFunction.ofFunctions names constraints names.toList
  return (values, jacobian)

/-- The number of constraints. -/
def count (program : ExpressionProgram α n) : Nat := program.constraints.length

/-- The failure of a function at a point. -/
def failure (function : ModelFunction) (point : Vector α n) : Failure α :=
  .evaluation function ⟨none, none, none⟩ point.toList []

/-- The objective at a point. -/
def objectiveAt (program : ExpressionProgram α n) (point : Vector α n) : Outcome α α :=
  let value := program.objective point
  if Number.isFinite value then .ok value else .error (failure .cost point)

/-- The gradient of the objective at a point. -/
def gradientAt (program : ExpressionProgram α n) (point : Vector α n) :
    Outcome α (Vector α n) :=
  let gradient := (program.objectiveJacobian.dense 1 n point)[0]
  if Column.isFinite gradient then .ok gradient else .error (failure .costGradient point)

/-- The constraints at a point. -/
def constraintsAt (program : ExpressionProgram α n) (point : Vector α n) :
    Outcome α (Vector α program.count) :=
  let values := valuesAt program.constraints program.count point
  if Column.isFinite values then .ok values else .error (failure .initial point)

/-- The Jacobian of the constraints at a point. -/
def jacobianAt (program : ExpressionProgram α n) (pattern : Pattern program.count n)
    (point : Vector α n) : Outcome α (Compressed α program.count n) :=
  let values := program.constraintJacobian.entries.map fun entry => entry.value point
  if values.all Number.isFinite then .ok ⟨pattern, values⟩
  else .error (failure .initialJacobian point)

/-- The functions of a program, evaluated one after the other. -/
def functions (program : ExpressionProgram α n) (pattern : Pattern program.count n) :
    NlpFunctions α n program.count where
  objective := program.objectiveAt
  gradient := program.gradientAt
  constraints := program.constraintsAt
  jacobian := program.jacobianAt pattern
  evaluate :=
    evaluateSeparately program.objectiveAt program.gradientAt program.constraintsAt
      (program.jacobianAt pattern)
  pattern := program.constraintJacobian.pattern

/-- The nonlinear program of compiled expressions with lists of bounds. -/
def toNlp (program : ExpressionProgram α n) (lower upper : List (Bound α)) (start : List α)
    (rowLower rowUpper : List α) : Outcome α (Nlp α n program.count) :=
  match Pattern.ofPlaces? program.count n program.constraintJacobian.pattern with
  | none => .error (.configuration .invalidPattern)
  | some pattern => Nlp.make (program.functions pattern) lower upper start rowLower rowUpper

end ExpressionProgram

end MultipleShooting
