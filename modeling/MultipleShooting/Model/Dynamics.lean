/-
**The functions of a model.**

Integrators and transcriptions see a model through two records of functions: `Dynamics` holds the
rates, the running cost and their first derivatives as functions of states and controls, and
`InitialCondition` the residual at the start and its Jacobian.

* `CompiledDynamics.ofModel`: the expressions of a model and their symbolic derivatives, compiled
  over its states and controls;
* `Dynamics.ofModel`, `InitialCondition.ofModel`: the functions of a model.
-/
import MultipleShooting.Expr.Jacobian
import MultipleShooting.Model.Basic

namespace MultipleShooting

variable {α : Type}

/-- Rates and running cost of a model with their first derivatives, as functions of the states
followed by the controls. -/
structure Dynamics (α : Type) (nx nu : Nat) where
  rate : Vector α (nx + nu) → Vector α nx
  cost : Vector α (nx + nu) → α
  rateJacobian : Vector α (nx + nu) → Dense α nx (nx + nu)
  costGradient : Vector α (nx + nu) → Vector α (nx + nu)

/-- The residual of the initial condition and its Jacobian, as functions of the states at the start.
Every place of the Jacobian that can differ from zero is listed, row by row. -/
structure InitialCondition (α : Type) (nx : Nat) where
  count : Nat
  residual : Vector α nx → Vector α count
  jacobian : Vector α nx → Dense α count nx
  pattern : List (Nat × Nat)

/-- The arguments of a model's functions as a vector. -/
def Model.argumentVector (model : Model α) :
    Vector String (model.stateCount + model.controlCount) :=
  ⟨model.arguments.toArray, by simp [Model.arguments]⟩

/-- The states as a vector. -/
def Model.stateVector (model : Model α) : Vector String model.stateCount :=
  ⟨model.states.toArray, by simp⟩

/-- The variables with respect to which a model is differentiated: its arguments, read from a list
with commas. -/
def Model.derivativeNames (model : Model α) : List String :=
  symbolNames (String.intercalate "," model.arguments)

/-- The answer of a compilation, an unknown variable being a fault of the model. -/
def compiledAs {β : Type} (what : String) : Except UnknownVariable β → Outcome α β
  | .ok value => .ok value
  | .error unknown => .error (.configuration (.notCompiled what unknown))

/-- The values of compiled functions; places beyond the functions are zero. -/
def valuesAt [Number α] {n : Nat} (functions : List (Compiled α n)) (m : Nat)
    (point : Vector α n) : Vector α m :=
  Vector.ofFn fun i =>
    match functions[i.val]? with
    | some function => function point
    | none => 0

/-- Compiled rates and running cost with their symbolic derivatives. -/
structure CompiledDynamics (α : Type) (n : Nat) where
  rates : List (Compiled α n)
  jacobian : SparseFunction α n
  cost : Compiled α n
  gradient : List (Compiled α n)

namespace CompiledDynamics

/-- The compiled expressions of a model. -/
def ofModel [Number α] (model : Model α) :
    Outcome α (CompiledDynamics α (model.stateCount + model.controlCount)) := do
  let arguments := model.argumentVector
  let names := model.derivativeNames
  let rates ← compiledAs "ODE right-hand side" (Expr.compileAll arguments model.dynamics)
  let jacobian ←
    compiledAs "ODE Jacobian" (SparseFunction.ofFunctions arguments model.dynamics names)
  let cost ← compiledAs "running cost" (model.cost.compile arguments)
  let gradient ←
    compiledAs "running cost gradient"
      (Expr.compileAll arguments (Expr.jacobianRow names model.cost))
  return ⟨rates, jacobian, cost, gradient⟩

/-- The functions that compiled expressions are. -/
def toDynamics [Number α] {nx nu : Nat} (compiled : CompiledDynamics α (nx + nu)) :
    Dynamics α nx nu where
  rate := valuesAt compiled.rates nx
  cost := compiled.cost
  rateJacobian := compiled.jacobian.dense nx (nx + nu)
  costGradient := valuesAt compiled.gradient (nx + nu)

end CompiledDynamics

/-- The rates and the running cost of a model. -/
def Dynamics.ofModel [Number α] (model : Model α) :
    Outcome α (Dynamics α model.stateCount model.controlCount) :=
  (CompiledDynamics.ofModel model).map CompiledDynamics.toDynamics

/-- The initial condition of a model. -/
def InitialCondition.ofModel [Number α] (model : Model α) :
    Outcome α (InitialCondition α model.stateCount) := do
  let arguments := model.stateVector
  let residual ←
    compiledAs "initial-condition residual" (Expr.compileAll arguments model.initial)
  let jacobian ←
    compiledAs "initial-condition Jacobian"
      (SparseFunction.ofFunctions arguments model.initial model.states)
  return {
    count := model.initial.length
    residual := valuesAt residual model.initial.length
    jacobian := jacobian.dense model.initial.length model.stateCount
    pattern := jacobian.pattern }

end MultipleShooting
