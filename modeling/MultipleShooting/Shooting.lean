/-
**Multiple shooting.**

Each interval of a horizon is integrated from the states of its own first node, and the intervals
are joined by constraints, row block after row block:

```text
I(x_0) = 0
end of interval k - x_{k+1} = 0     for every linked interval k
```

The last interval is linked only on demand. The objective is the sum of the interval costs.

* `Shooting.functions`: objective and constraints with their derivatives as functions of the
  decision vector, every interval being integrated once for all four;
* `Shooting.places`: where the Jacobian of the constraints has entries, the same at every point;
* `transcribe`: the nonlinear program of a model over a horizon.
-/
import MultipleShooting.Horizon
import MultipleShooting.Interval
import MultipleShooting.Layout
import MultipleShooting.Nlp

namespace MultipleShooting

/-- A shooting problem over the nodes of a layout, the first `links` intervals being linked to the
node after them. -/
structure Shooting (α : Type) (layout : Layout) where
  interval : Interval α layout.nx layout.nu
  initial : InitialCondition α layout.nx
  links : Nat
  links_le : links ≤ layout.nk

variable {α : Type} [Number α]

/-- The answers of an operation on the intervals in their order, or its first failure, told to have
arisen in its interval. -/
def overIntervals {β : Type} (n : Nat)
    (operation : (index : Nat) → index < n → Outcome α β) : Outcome α (Vector β n) :=
  collect n fun index below => (operation index below).mapError (Failure.inInterval index)

namespace Shooting

variable {layout : Layout}

/-- The rows of the constraints. -/
def rows (shooting : Shooting α layout) : Rows :=
  ⟨shooting.initial.count, layout.nx, shooting.links⟩

/-- The places of the Jacobian's entries, row by row: the initial condition by the first states, and
in the rows of a link the states and controls of its interval and, on the diagonal, the states of
the next node. -/
def places (shooting : Shooting α layout) : List (Nat × Nat) :=
  let columnsOf (block : Block) : List Nat := List.range' block.start (block.stop - block.start)
  let firstStates := (layout.stateBlock 0).start
  let initialPlaces := shooting.initial.pattern.map fun (row, column) =>
    (row, firstStates + column)
  let linkPlaces := (List.range shooting.links).flatMap fun link =>
    (List.range layout.nx).flatMap fun component =>
      (columnsOf (layout.stateBlock link) ++ columnsOf (layout.controlBlock link) ++
          [(layout.stateBlock (link + 1)).start + component]).map fun column =>
        ((shooting.rows.linkBlock link).start + component, column)
  initialPlaces ++ linkPlaces

/-! ### Values -/

/-- State and cost at the end of each interval. -/
def propagateAll (shooting : Shooting α layout) (vector : Vector α layout.size) :
    Outcome α (Vector (Propagated α layout.nx) layout.nk) :=
  overIntervals layout.nk fun index below =>
    shooting.interval.propagate (layout.state vector index (Nat.le_of_lt below))
      (layout.control vector index below)

/-- State and cost at the end of each interval with their derivatives. -/
def differentiateAll (shooting : Shooting α layout) (vector : Vector α layout.size) :
    Outcome α (Vector (Differentiated α layout.nx layout.nu) layout.nk) :=
  overIntervals layout.nk fun index below =>
    shooting.interval.differentiate (layout.state vector index (Nat.le_of_lt below))
      (layout.control vector index below)

/-- The failure of a function of the initial condition. -/
def initialFailure (function : ModelFunction) (start : Vector α layout.nx) : Failure α :=
  .evaluation function ⟨some 0, none, none⟩ start.toList []

/-- The states of the first node. -/
def start (_ : Shooting α layout) (vector : Vector α layout.size) : Vector α layout.nx :=
  layout.state vector 0 (Nat.zero_le _)

/-- The residual of the initial condition. -/
def initialResidual (shooting : Shooting α layout) (vector : Vector α layout.size) :
    Outcome α (Vector α shooting.initial.count) :=
  let start := shooting.start vector
  let residual := shooting.initial.residual start
  if Column.isFinite residual then .ok residual else .error (initialFailure .initial start)

/-- The gaps between the end of each linked interval and the node after it. -/
def gaps (shooting : Shooting α layout) (vector : Vector α layout.size)
    (reached : Vector (Vector α layout.nx) layout.nk) :
    Vector α (shooting.links * layout.nx) :=
  (Vector.ofFn fun link : Fin shooting.links =>
    have below : link.val < layout.nk := Nat.lt_of_lt_of_le link.isLt shooting.links_le
    Column.sub (reached.get ⟨link.val, below⟩)
      (layout.state vector (link.val + 1) (Nat.succ_le_of_lt below))).flatten

/-- The constraints, given the ends of the intervals. -/
def constraintsFrom (shooting : Shooting α layout) (vector : Vector α layout.size)
    (reached : Vector (Vector α layout.nx) layout.nk) :
    Outcome α (Vector α shooting.rows.count) :=
  match shooting.initialResidual vector with
  | .error failure => .error failure
  | .ok residual => .ok (residual ++ shooting.gaps vector reached)

/-- The sum of interval costs. -/
def totalCost {n : Nat} (costs : Vector α n) : α := costs.foldl (· + ·) 0

/-- The sum of the interval costs of a decision vector. -/
def objective (shooting : Shooting α layout) (vector : Vector α layout.size) : Outcome α α :=
  (shooting.propagateAll vector).map fun ends => totalCost (ends.map Propagated.cost)

/-- The constraints at a decision vector. -/
def constraints (shooting : Shooting α layout) (vector : Vector α layout.size) :
    Outcome α (Vector α shooting.rows.count) :=
  match shooting.propagateAll vector with
  | .error failure => .error failure
  | .ok ends => shooting.constraintsFrom vector (ends.map Propagated.state)

/-! ### Derivatives -/

/-- A gradient with the derivatives of the cost of an interval added in the blocks of the
interval. -/
def addCotangents (layout : Layout) (gradient : Vector α layout.size) (interval : Nat)
    (cotangents : Cotangents α layout.nx layout.nu) : Vector α layout.size :=
  Column.addFrom
    (Column.addFrom gradient (layout.stateBlock interval).start cotangents.byState)
    (layout.controlBlock interval).start cotangents.byControl

/-- The gradient of the objective, gathered interval after interval. Nothing is added to the states
of the last node. -/
def gradient (_ : Shooting α layout)
    (ends : Vector (Differentiated α layout.nx layout.nu) layout.nk) : Vector α layout.size :=
  (List.finRange layout.nk).foldl
    (fun gradient (k : Fin layout.nk) => addCotangents layout gradient k (ends.get k).cotangents)
    (Column.zero layout.size)

/-- The values of the Jacobian's entries in the order of their places. -/
def jacobianValues (shooting : Shooting α layout)
    (initialJacobian : Dense α shooting.initial.count layout.nx)
    (ends : Vector (Differentiated α layout.nx layout.nu) layout.nk) : List α :=
  let initialValues := shooting.initial.pattern.map fun (row, column) =>
    match initialJacobian[row]? with
    | some cells => cells[column]?.getD 0
    | none => 0
  let linkValues := (ends.toList.take shooting.links).flatMap fun result =>
    (List.zip result.tangents.byState.toList result.tangents.byControl.toList).flatMap
      fun (byState, byControl) => byState.toList ++ byControl.toList ++ [-1]
  initialValues ++ linkValues

/-- The Jacobian of the constraints, given the derivatives of the intervals. -/
def jacobianFrom (shooting : Shooting α layout)
    (pattern : Pattern shooting.rows.count layout.size) (vector : Vector α layout.size)
    (ends : Vector (Differentiated α layout.nx layout.nu) layout.nk) :
    Outcome α (Compressed α shooting.rows.count layout.size) :=
  let start := shooting.start vector
  let initialJacobian := shooting.initial.jacobian start
  if Dense.isFinite initialJacobian then
    .ok ⟨pattern, shooting.jacobianValues initialJacobian ends⟩
  else .error (initialFailure .initialJacobian start)

/-- Objective and constraints with their derivatives, every interval being integrated once. -/
def evaluate (shooting : Shooting α layout) (pattern : Pattern shooting.rows.count layout.size)
    (vector : Vector α layout.size) :
    Outcome α (Evaluation α layout.size shooting.rows.count) := do
  let ends ← shooting.differentiateAll vector
  let constraints ← shooting.constraintsFrom vector (ends.map fun result => result.reached.state)
  let jacobian ← shooting.jacobianFrom pattern vector ends
  return {
    objective := totalCost (ends.map fun result => result.reached.cost)
    gradient := shooting.gradient ends
    constraints := constraints
    jacobian := jacobian }

/-- The functions of the nonlinear program. -/
def functions (shooting : Shooting α layout)
    (pattern : Pattern shooting.rows.count layout.size) :
    NlpFunctions α layout.size shooting.rows.count where
  objective := shooting.objective
  gradient vector := (shooting.evaluate pattern vector).map Evaluation.gradient
  constraints := shooting.constraints
  jacobian vector := (shooting.evaluate pattern vector).map Evaluation.jacobian
  evaluate := shooting.evaluate pattern
  pattern := shooting.places

end Shooting

/-! ### Transcription -/

/-- The nonlinear program of a shooting problem, with what is needed to read a solution back. -/
structure Transcription (α : Type) where
  layout : Layout
  shooting : Shooting α layout
  nlp : Nlp α layout.size shooting.rows.count
  duration : α

/-- The nonlinear program of given model functions over a horizon. The model gives names, bounds and
guess, and the functions have to have its dimensions. -/
def transcribeWith (horizon : Horizon α) (model : Model α) {nx nu nx' : Nat}
    (dynamics : Dynamics α nx nu) (initial : InitialCondition α nx') :
    Outcome α (Transcription α) := do
  model.validate
  horizon.validate
  checkLength "ODE functions state dimension" model.stateCount nx
  checkLength "ODE functions control dimension" model.controlCount nu
  if sameStates : nx' = nx then
    let duration := horizon.intervalDuration
    let layout : Layout := ⟨nx, nu, horizon.intervals⟩
    let interval ← Interval.make dynamics duration horizon.substeps
    let initial : InitialCondition α nx := sameStates ▸ initial
    let links := linkCount horizon.intervals horizon.terminalLink
    let shooting : Shooting α layout := ⟨interval, initial, links, linkCount_le _ _⟩
    let lower ← filled layout model.stateLower model.controlLower
    let upper ← filled layout model.stateUpper model.controlUpper
    let start ← filled layout model.stateGuess model.controlGuess
    let zeros : List α := List.replicate shooting.rows.count 0
    match Pattern.ofPlaces? shooting.rows.count layout.size shooting.places with
    | none => .error (.configuration .invalidPattern)
    | some pattern =>
      let nlp ← Nlp.make (shooting.functions pattern) lower upper start zeros zeros
      return ⟨layout, shooting, nlp, duration⟩
  else .error (.dimensionMismatch "initial-condition state dimension" model.stateCount nx')
where
  /-- A decision vector with the same states and the same controls everywhere. -/
  filled {β : Type} (layout : Layout) (states controls : List β) : Outcome α (List β) := do
    let states ← expectVector "states" layout.nx states
    let controls ← expectVector "controls" layout.nu controls
    return (layout.fill states controls).toList

/-- The nonlinear program of a model over a horizon. -/
def transcribe (horizon : Horizon α) (model : Model α) : Outcome α (Transcription α) := do
  model.validate
  horizon.validate
  let dynamics ← Dynamics.ofModel model
  let initial ← InitialCondition.ofModel model
  transcribeWith horizon model dynamics initial

end MultipleShooting
