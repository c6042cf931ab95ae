/-
**Optimal control models.**

```text
minimise   ∫ L(x, u) dt   over [0, tf]
subject to dx/dt = f(x, u),   I(x(0)) = 0,   lower ≤ x, u ≤ upper
```

A `Model` names states and controls and gives `f`, `L` and `I` as expressions, with bounds and an
initial guess.

* `Model.ofTexts`: the model of expressions given as texts, unbounded and with a guess of zeros;
* `Model.validate`: the first inconsistency of a model;
* `Model.guessWarnings`: the components of the guess that lie outside of their bounds, which is
  allowed.
-/
import MultipleShooting.Expr.Parser
import MultipleShooting.Failure

namespace MultipleShooting

/-- An optimal control model in named states and controls. -/
structure Model (α : Type) where
  states : List String
  controls : List String
  /-- One expression for the rate of each state. -/
  dynamics : List (Expr α)
  /-- The running cost. -/
  cost : Expr α
  /-- Expressions in the states that vanish at the start. -/
  initial : List (Expr α)
  stateLower : List (Bound α)
  stateUpper : List (Bound α)
  controlLower : List (Bound α)
  controlUpper : List (Bound α)
  stateGuess : List α
  controlGuess : List α

namespace Model

variable {α : Type}

/-- The number of states. -/
abbrev stateCount (model : Model α) : Nat := model.states.length

/-- The number of controls. -/
abbrev controlCount (model : Model α) : Nat := model.controls.length

/-- The names of all variables, states before controls: the arguments of the model's functions. -/
def arguments (model : Model α) : List String := model.states ++ model.controls

/-- The model without bounds and with a guess of zeros. -/
def unbounded [Number α] (states controls : List String) (dynamics : List (Expr α))
    (cost : Expr α) (initial : List (Expr α)) : Model α where
  states := states
  controls := controls
  dynamics := dynamics
  cost := cost
  initial := initial
  stateLower := states.map fun _ => .minusInfinity
  stateUpper := states.map fun _ => .plusInfinity
  controlLower := controls.map fun _ => .minusInfinity
  controlUpper := controls.map fun _ => .plusInfinity
  stateGuess := states.map fun _ => 0
  controlGuess := controls.map fun _ => 0

/-- The expression of a text as a part of a model. -/
def parsePart [Number α] [DecimalText α] (text : String) : Outcome α (Expr α) :=
  match Expr.parse text with
  | .ok expr => .ok expr
  | .error fault => .error (.unparsable text (fault.message text))

/-- The expressions of several texts as parts of a model. -/
def parseParts [Number α] [DecimalText α] : List String → Outcome α (List (Expr α))
  | [] => .ok []
  | text :: texts =>
    match parsePart text with
    | .error failure => .error failure
    | .ok expr => (parseParts texts).map (expr :: ·)

/-- The model of expressions given as texts, without bounds and with a guess of zeros. -/
def ofTexts [Number α] [DecimalText α] (states controls dynamics : List String) (cost : String)
    (initial : List String) : Outcome α (Model α) :=
  match parseParts dynamics with
  | .error failure => .error failure
  | .ok dynamics =>
    match parsePart cost with
    | .error failure => .error failure
    | .ok cost => (parseParts initial).map (unbounded states controls dynamics cost)

/-- Bounds and guesses that replace those of a model where they are given. -/
structure Revision (α : Type) where
  stateLower : Option (List (Bound α))
  stateUpper : Option (List (Bound α))
  controlLower : Option (List (Bound α))
  controlUpper : Option (List (Bound α))
  stateGuess : Option (List α)
  controlGuess : Option (List α)

/-- The model with the bounds and guesses of a revision. -/
def Revision.apply (revision : Revision α) (model : Model α) : Model α :=
  { model with
    stateLower := revision.stateLower.getD model.stateLower
    stateUpper := revision.stateUpper.getD model.stateUpper
    controlLower := revision.controlLower.getD model.controlLower
    controlUpper := revision.controlUpper.getD model.controlUpper
    stateGuess := revision.stateGuess.getD model.stateGuess
    controlGuess := revision.controlGuess.getD model.controlGuess }

/-! ### Validation -/

/-- A variable with its bounds and its guess. -/
structure Box (α : Type) where
  kind : VariableKind
  name : String
  lower : Bound α
  upper : Bound α
  guess : α

/-- Names with the bounds and the guess at the same positions. -/
def boxes (kind : VariableKind) (names : List String) (lower upper : List (Bound α))
    (guess : List α) : List (Box α) :=
  (names.zip (lower.zip (upper.zip guess))).map fun (name, low, high, value) =>
    ⟨kind, name, low, high, value⟩

/-- The variables of a model with their bounds and guesses, states before controls. -/
def allBoxes (model : Model α) : List (Box α) :=
  boxes .state model.states model.stateLower model.stateUpper model.stateGuess ++
    boxes .control model.controls model.controlLower model.controlUpper model.controlGuess

/-- A length that differs from the expected one, of the first list that has one. -/
def lengthFault? (model : Model α) : Option (Failure α) :=
  let lists := [
    ("ode right-hand side", model.stateCount, model.dynamics.length),
    ("lb_x", model.stateCount, model.stateLower.length),
    ("ub_x", model.stateCount, model.stateUpper.length),
    ("x0_guess", model.stateCount, model.stateGuess.length),
    ("lb_u", model.controlCount, model.controlLower.length),
    ("ub_u", model.controlCount, model.controlUpper.length),
    ("u0_guess", model.controlCount, model.controlGuess.length)]
  lists.findSome? fun (what, expected, found) =>
    if expected = found then none else some (.dimensionMismatch what expected found)

/-- The first name that is empty or has occurred before. -/
def nameFault? : (before : List String) → List String → Option (ConfigurationFault α)
  | _, [] => none
  | before, name :: names =>
    if name = "" then some .emptyName
    else if name ∈ before then some (.declaredTwice name)
    else nameFault? (name :: before) names

/-- The first variable of an expression, in order of name, that is not among the given names. -/
def foreignName? (names : List String) (expr : Expr α) : Option String :=
  expr.variableNames.find? fun name => !names.contains name

/-- The first of several expressions with a variable that is not among the given names, with its
position and that variable. -/
def foreignPart? (names : List String) (exprs : List (Expr α)) : Option (Nat × String) :=
  exprs.zipIdx.findSome? fun (expr, index) => (foreignName? names expr).map (index, ·)

/-- The first expression with a variable that it may not have. -/
def variableFault? (model : Model α) : Option (ConfigurationFault α) :=
  match foreignPart? model.states model.initial with
  | some (index, name) => some (.initialNeedsState index name)
  | none =>
    match foreignPart? model.arguments model.dynamics with
    | some (index, name) => some (.dynamicsUnknown index name)
    | none => (foreignName? model.arguments model.cost).map .costUnknown

/-- The fault of one variable: bounds that cross or are no numbers, or a guess that is no ordinary
number. -/
def Box.fault? [Number α] (box : Box α) : Option (ConfigurationFault α) :=
  if box.lower.crossed box.upper then
    some (.invalidBounds box.kind box.name box.lower box.upper)
  else if !Number.isFinite box.guess then some (.guessNotFinite box.kind box.name box.guess)
  else none

/-- The first inconsistency of a model, if there is one: no states, a list of the wrong length, a
bad name, an expression with a foreign variable, bad bounds or a bad guess, in this order. -/
def fault? [Number α] (model : Model α) : Option (Failure α) :=
  if model.stateCount = 0 then some (.configuration .noStates)
  else
    model.lengthFault?.or <|
      Option.map Failure.configuration <|
        (nameFault? [] model.arguments).or <|
          model.variableFault?.or (model.allBoxes.findSome? Box.fault?)

/-- Accepts a consistent model and refuses any other with its first inconsistency. -/
def validate [Number α] (model : Model α) : Outcome α Unit :=
  match model.fault? with
  | none => .ok ()
  | some failure => .error failure

/-! ### Warnings -/

/-- The wording of a guess outside of its bounds. -/
def Box.guessWarning [Number α] [DecimalText α] (box : Box α) : String :=
  "initial guess " ++ DecimalText.text box.guess ++ " of " ++ box.kind.name ++ " '" ++ box.name ++
    "' is outside its bounds [" ++ box.lower.text ++ ", " ++ box.upper.text ++ "]"

/-- The warnings of a consistent model: one for each guess outside of its bounds. -/
def guessWarnings [Number α] [DecimalText α] (model : Model α) : List String :=
  (model.allBoxes.filter fun box =>
    box.lower.isAbove box.guess || box.upper.isBelow box.guess).map Box.guessWarning

end Model

end MultipleShooting
