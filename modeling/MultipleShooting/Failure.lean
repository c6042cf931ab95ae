/-
**Failures and their wording.**

A failure is kept as its cause, and `Failure.message` words it. Causes that can be found before any
numeric work are configuration failures (`Failure.isConfiguration`): a fault of the problem
statement, or a list of the wrong length.

* `Failure.inInterval` tells in which shooting interval a model function could not be evaluated.
-/
import MultipleShooting.Bound
import MultipleShooting.Expr.Compile

namespace MultipleShooting

/-- The functions of a model whose values have to be ordinary numbers. -/
inductive ModelFunction where
  | dynamics
  | dynamicsJacobian
  | cost
  | costGradient
  | initial
  | initialJacobian
deriving Repr, DecidableEq

/-- The name of a model function in messages. -/
def ModelFunction.name : ModelFunction → String
  | dynamics => "ODE right-hand side f(x,u)"
  | dynamicsJacobian => "ODE Jacobian df/d(x,u)"
  | cost => "running cost L(x,u)"
  | costGradient => "running cost gradient dL/d(x,u)"
  | initial => "initial-condition residual I(x)"
  | initialJacobian => "initial-condition Jacobian dI/dx"

/-- How a run of the solver ended. -/
inductive SolverStatus where
  | converged
  | iterationLimit
  | infeasible
  | numericalFailure
deriving Repr, DecidableEq

/-- The name of a status in messages. -/
def SolverStatus.name : SolverStatus → String
  | converged => "Converged"
  | iterationLimit => "MaxIterationsReached"
  | infeasible => "Infeasible"
  | numericalFailure => "NumericalFailure"

/-- The status of a name. -/
def SolverStatus.ofName? (name : String) : Option SolverStatus :=
  [converged, iterationLimit, infeasible, numericalFailure].find? fun status =>
    status.name == name

/-- The two kinds of variables of a model. -/
inductive VariableKind where
  | state
  | control
deriving Repr, DecidableEq

/-- The name of a kind of variables in messages. -/
def VariableKind.name : VariableKind → String
  | state => "state"
  | control => "control"

/-- The faults of a problem statement. -/
inductive ConfigurationFault (α : Type) where
  | noStates
  | emptyName
  | declaredTwice (name : String)
  | initialNeedsState (index : Nat) (name : String)
  | dynamicsUnknown (index : Nat) (name : String)
  | costUnknown (name : String)
  | invalidBounds (kind : VariableKind) (name : String) (lower upper : Bound α)
  | guessNotFinite (kind : VariableKind) (name : String) (guess : α)
  | notCompiled (what : String) (unknown : UnknownVariable)
  | finalTime (value : α)
  | intervalDuration (value : α)
  | noIntervals
  | noSubsteps
  | noConstraintRows
  | invalidPattern
  | crossedBounds
  | needsEqualities
  | solverSetting (name : String) (value : α)
  | regularization (value : α)
  | solutionLength (found expected : Nat)
  | missingSection (title : String)
  | missingKey (title key : String)
  | badValue (title key expected : String) (found : List String)
  | logLevel (word : String)
  | stated (reason : String)

/-- The wording of a fault. -/
def ConfigurationFault.message {α : Type} [Number α] [DecimalText α] :
    ConfigurationFault α → String
  | noStates => "model has no states"
  | emptyName => "empty variable name"
  | declaredTwice name => "variable '" ++ name ++ "' is declared twice"
  | initialNeedsState index name =>
    "initial condition " ++ toString index ++ " depends on '" ++ name ++ "', which is not a state"
  | dynamicsUnknown index name =>
    "ode equation " ++ toString index ++ " depends on unknown symbol '" ++ name ++ "'"
  | costUnknown name => "running cost depends on unknown symbol '" ++ name ++ "'"
  | invalidBounds kind name lower upper =>
    kind.name ++ " '" ++ name ++ "' has invalid bounds [" ++ lower.text ++ ", " ++ upper.text ++
      "]"
  | guessNotFinite kind name guess =>
    "initial guess " ++ DecimalText.text guess ++ " of " ++ kind.name ++ " '" ++ name ++
      "' is not finite"
  | notCompiled what unknown => "cannot compile " ++ what ++ ": " ++ unknown.message
  | finalTime value => "final time must be finite and positive, got " ++ DecimalText.text value
  | intervalDuration value =>
    "interval duration must be finite and positive, got " ++ DecimalText.text value
  | noIntervals => "number of shooting intervals must be at least 1"
  | noSubsteps => "number of RK4 sub-steps per interval must be at least 1"
  | noConstraintRows => "constraint layout needs at least one shooting interval"
  | invalidPattern => "invalid constraint Jacobian pattern"
  | crossedBounds => "NLP bounds with lb > ub or NaN"
  | needsEqualities => "SQP solver supports equality constraints only (lb_g = ub_g)"
  | solverSetting name value =>
    "SQP " ++ name ++ " must be finite and positive, got " ++ DecimalText.text value
  | regularization value =>
    "SQP regularization must be finite and non-negative, got " ++ DecimalText.text value
  | solutionLength found expected =>
    "solution vector has length " ++ toString found ++ ", the decision layout expects " ++
      toString expected
  | missingSection title => "task: missing section '" ++ title ++ "'"
  | missingKey title key => "task: missing key '" ++ key ++ "' in section '" ++ title ++ "'"
  | badValue title key expected found =>
    "task: '" ++ title ++ "." ++ key ++ "' must be " ++ expected ++ ", found [" ++
      String.intercalate ", " found ++ "]"
  | logLevel word =>
    "loglevel must be off, none, error, warn, info, debug or trace, got '" ++ word ++ "'"
  | stated reason => reason

/-- Where a model function was evaluated: shooting interval, sub-step and stage, as far as they
apply. -/
structure EvaluationPlace where
  interval : Option Nat
  substep : Option Nat
  stage : Option Nat
deriving Repr, DecidableEq

/-- The wording of a place. -/
def EvaluationPlace.message (place : EvaluationPlace) : String :=
  let part (label : String) : Option Nat → String
    | some index => label ++ toString index
    | none => ""
  part " in interval " place.interval ++ part " sub-step " place.substep ++
    part " RK4 stage " place.stage

/-- Why an operation of the library has no result. -/
inductive Failure (α : Type) where
  | configuration (fault : ConfigurationFault α)
  | dimensionMismatch (what : String) (expected found : Nat)
  | evaluation (function : ModelFunction) (place : EvaluationPlace) (state control : List α)
  | notConverged (status : SolverStatus) (iterations : Nat) (violation : α)
  | unparsable (input reason : String)
  | io (reason : String)

namespace Failure

variable {α : Type}

/-- The failure of a file that is not there. -/
def missingFile : Failure α := io "No such file or directory (os error 2)"

/-- Whether the cause is in the statement of the problem. -/
def isConfiguration : Failure α → Bool
  | configuration _ => true
  | dimensionMismatch _ _ _ => true
  | _ => false

/-- The failure, told to have arisen in a shooting interval if it is one of evaluation. -/
def inInterval (interval : Nat) : Failure α → Failure α
  | evaluation function place state control =>
    evaluation function ⟨some interval, place.substep, place.stage⟩ state control
  | other => other

/-- The wording of a failure. -/
def message [Number α] [DecimalText α] : Failure α → String
  | configuration fault => "invalid configuration: " ++ fault.message
  | dimensionMismatch what expected found =>
    "dimension mismatch in " ++ what ++ ": expected " ++ toString expected ++ ", found " ++
      toString found
  | evaluation function place state control =>
    "non-finite value of " ++ function.name ++ place.message ++ " at x = " ++
      DecimalText.listText state ++ ", u = " ++ DecimalText.listText control
  | notConverged status iterations violation =>
    "NLP solver stopped with status " ++ status.name ++ " after " ++ toString iterations ++
      " iterations (constraint violation " ++ DecimalText.exponentialText violation ++ ")"
  | unparsable input reason => "cannot parse '" ++ input ++ "': " ++ reason
  | io reason => "i/o error: " ++ reason

end Failure

/-- The answer of an operation that may fail. -/
abbrev Outcome (α β : Type) := Except (Failure α) β

variable {α : Type}

/-- Refuses a length other than the expected one. -/
def checkLength (what : String) (expected found : Nat) : Outcome α Unit :=
  if expected = found then .ok () else .error (.dimensionMismatch what expected found)

/-- A list as a vector of the expected length. -/
def expectVector (what : String) (n : Nat) {β : Type} (values : List β) : Outcome α (Vector β n) :=
  if same : values.length = n then .ok ⟨values.toArray, same⟩
  else .error (.dimensionMismatch what n values.length)

/-- The answers of an operation on the numbers below `n` in their order, or its first failure. -/
def collect {β : Type} :
    (n : Nat) → ((index : Nat) → index < n → Outcome α β) → Outcome α (Vector β n)
  | 0, _ => .ok #v[]
  | n + 1, operation =>
    match collect n fun index below => operation index (Nat.lt_succ_of_lt below) with
    | .error failure => .error failure
    | .ok answers =>
      match operation n (Nat.lt_succ_self n) with
      | .error failure => .error failure
      | .ok answer => .ok (answers.push answer)

end MultipleShooting
