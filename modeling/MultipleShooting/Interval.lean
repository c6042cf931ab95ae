/-
**One shooting interval.**

Over an interval the control `u` is held constant, and state and running cost are advanced together
by the classical fourth-order scheme in equal sub-steps of length `h`:

```text
k1 = f(x, u)   k2 = f(x + h/2 k1, u)   k3 = f(x + h/2 k2, u)   k4 = f(x + h k3, u)
x' = x + h/6 (k1 + 2 k2 + 2 k3 + k4)
```

and the same for the cost with `L` in place of `f`.

* `Interval.propagate`: end state and cost;
* `Interval.differentiate`: the same with the derivatives of both by start state and control. The
  recurrence itself is differentiated, not the differential equation: a stage point `y` has the
  tangents `Y`, and a slope `f(y, u)` then has the tangents `f_x Y` and `f_x Y + f_u`.

Every value of a model function is checked as soon as it is computed, and the first one that is no
ordinary number is reported with its sub-step and stage.
-/
import MultipleShooting.Model.Dynamics

namespace MultipleShooting

/-- An interval of a given duration in equal sub-steps. -/
structure Interval (α : Type) (nx nu : Nat) where
  dynamics : Dynamics α nx nu
  duration : α
  substeps : Nat

/-- A state with the cost accrued so far. -/
structure Propagated (α : Type) (nx : Nat) where
  state : Vector α nx
  cost : α

/-- Derivatives of a vector by start state and control. -/
structure Tangents (α : Type) (nx nu : Nat) where
  byState : Dense α nx nx
  byControl : Dense α nx nu

/-- Derivatives of a number by start state and control. -/
structure Cotangents (α : Type) (nx nu : Nat) where
  byState : Vector α nx
  byControl : Vector α nu

/-- A state with the cost accrued so far, and the derivatives of both. -/
structure Differentiated (α : Type) (nx nu : Nat) where
  reached : Propagated α nx
  tangents : Tangents α nx nu
  cotangents : Cotangents α nx nu

variable {α : Type} [Number α] {nx nu : Nat}

/-- The classical weighted sum of four values, `1, 2, 2, 1`. -/
def weightedSum (k1 k2 k3 k4 : α) : α := k1 + 2.0 * k2 + 2.0 * k3 + k4

namespace Tangents

/-- The derivatives of a state by itself. -/
def initial : Tangents α nx nu := ⟨Dense.identity nx, Dense.zero nx nu⟩

/-- The derivatives of `left + factor * right`. -/
def addScaled (left : Tangents α nx nu) (factor : α) (right : Tangents α nx nu) :
    Tangents α nx nu :=
  ⟨left.byState.add (right.byState.scale factor),
    left.byControl.add (right.byControl.scale factor)⟩

end Tangents

namespace Cotangents

/-- The derivatives of zero. -/
def initial : Cotangents α nx nu := ⟨Column.zero nx, Column.zero nu⟩

/-- The derivatives of `left + factor * right`. -/
def addScaled (left : Cotangents α nx nu) (factor : α) (right : Cotangents α nx nu) :
    Cotangents α nx nu :=
  ⟨Column.add left.byState (Column.scale factor right.byState),
    Column.add left.byControl (Column.scale factor right.byControl)⟩

end Cotangents

namespace Interval

/-- An interval whose duration is an ordinary positive number and that has a sub-step. -/
def make (dynamics : Dynamics α nx nu) (duration : α) (substeps : Nat) :
    Outcome α (Interval α nx nu) :=
  if !Number.isFinite duration || duration ≤ 0 then
    .error (.configuration (.intervalDuration duration))
  else if substeps = 0 then .error (.configuration .noSubsteps)
  else .ok ⟨dynamics, duration, substeps⟩

/-- The length of a sub-step. -/
def step (interval : Interval α nx nu) : α := interval.duration / (interval.substeps : α)

/-- A start state and a control of the lengths that the interval has. -/
def arguments (_ : Interval α nx nu) (state control : List α) :
    Outcome α (Vector α nx × Vector α nu) :=
  match expectVector "interval start state" nx state with
  | .error failure => .error failure
  | .ok state =>
    match expectVector "interval control" nu control with
    | .error failure => .error failure
    | .ok control => .ok (state, control)

/-! ### Stages -/

/-- The failure of a model function at a stage. -/
def stageFailure (function : ModelFunction) (substep stage : Nat) (state : Vector α nx)
    (control : Vector α nu) : Failure α :=
  .evaluation function ⟨none, some substep, some stage⟩ state.toList control.toList

/-- The slopes of state and cost at a stage point. -/
def slope (interval : Interval α nx nu) (substep stage : Nat) (state : Vector α nx)
    (control : Vector α nu) : Outcome α (Propagated α nx) :=
  let point := state ++ control
  let rate := interval.dynamics.rate point
  if !Column.isFinite rate then .error (stageFailure .dynamics substep stage state control)
  else
    let cost := interval.dynamics.cost point
    if !Number.isFinite cost then .error (stageFailure .cost substep stage state control)
    else .ok ⟨rate, cost⟩

/-- The stage point at a fraction of a sub-step from a state along a slope. -/
def stagePoint (start : Vector α nx) (fraction : α) (slope : Propagated α nx) : Vector α nx :=
  Column.add start (Column.scale fraction slope.state)

/-- State and cost after a sub-step with the given slopes at its stages. -/
def combine (step : α) (start k1 k2 k3 k4 : Propagated α nx) : Propagated α nx :=
  let weight := step / 6.0
  let states := Column.add (Column.add (Column.add k1.state (Column.scale 2.0 k2.state))
    (Column.scale 2.0 k3.state)) k4.state
  ⟨Column.add start.state (Column.scale weight states),
    start.cost + weight * weightedSum k1.cost k2.cost k3.cost k4.cost⟩

/-! ### Propagation -/

/-- State and cost after a sub-step. -/
def substep (interval : Interval α nx nu) (control : Vector α nu) (index : Nat)
    (start : Propagated α nx) : Outcome α (Propagated α nx) := do
  let h := interval.step
  let k1 ← interval.slope index 1 start.state control
  let k2 ← interval.slope index 2 (stagePoint start.state (0.5 * h) k1) control
  let k3 ← interval.slope index 3 (stagePoint start.state (0.5 * h) k2) control
  let k4 ← interval.slope index 4 (stagePoint start.state (1.0 * h) k3) control
  return combine h start k1 k2 k3 k4

/-- State and cost after `remaining` sub-steps, the first of them having the given index. -/
def advance (interval : Interval α nx nu) (control : Vector α nu) :
    (remaining index : Nat) → Propagated α nx → Outcome α (Propagated α nx)
  | 0, _, start => .ok start
  | remaining + 1, index, start =>
    match interval.substep control index start with
    | .error failure => .error failure
    | .ok next => advance interval control remaining (index + 1) next

/-- State and cost at the end of the interval. -/
def propagate (interval : Interval α nx nu) (state : Vector α nx) (control : Vector α nu) :
    Outcome α (Propagated α nx) :=
  interval.advance control interval.substeps 0 ⟨state, 0⟩

/-! ### Propagation with derivatives -/

/-- The slopes at a stage point with their derivatives, given those of the point. -/
def differentiatedSlope (interval : Interval α nx nu) (substep stage : Nat)
    (state : Vector α nx) (control : Vector α nu) (tangents : Tangents α nx nu) :
    Outcome α (Differentiated α nx nu) := do
  let slopes ← interval.slope substep stage state control
  let point := state ++ control
  let jacobian := interval.dynamics.rateJacobian point
  if !Dense.isFinite jacobian then
    .error (stageFailure .dynamicsJacobian substep stage state control)
  else
    let gradient := interval.dynamics.costGradient point
    if !Column.isFinite gradient then
      .error (stageFailure .costGradient substep stage state control)
    else
      let rateByState := jacobian.firstColumns
      let rateByControl := jacobian.lastColumns
      let costByState := Column.first gradient
      let costByControl := Column.last gradient
      return {
        reached := slopes
        tangents :=
          ⟨rateByState.mul tangents.byState,
            (rateByState.mul tangents.byControl).add rateByControl⟩
        cotangents :=
          ⟨tangents.byState.applyTransposed costByState,
            Column.add (tangents.byControl.applyTransposed costByState) costByControl⟩ }

/-- State, cost and derivatives after a sub-step. -/
def differentiatedSubstep (interval : Interval α nx nu) (control : Vector α nu) (index : Nat)
    (start : Differentiated α nx nu) : Outcome α (Differentiated α nx nu) := do
  let h := interval.step
  let state := start.reached.state
  let tangents := start.tangents
  let k1 ← interval.differentiatedSlope index 1 state control tangents
  let k2 ← interval.differentiatedSlope index 2 (stagePoint state (0.5 * h) k1.reached) control
    (tangents.addScaled (0.5 * h) k1.tangents)
  let k3 ← interval.differentiatedSlope index 3 (stagePoint state (0.5 * h) k2.reached) control
    (tangents.addScaled (0.5 * h) k2.tangents)
  let k4 ← interval.differentiatedSlope index 4 (stagePoint state (1.0 * h) k3.reached) control
    (tangents.addScaled (1.0 * h) k3.tangents)
  let weight := h / 6.0
  return {
    reached := combine h start.reached k1.reached k2.reached k3.reached k4.reached
    tangents :=
      (((tangents.addScaled (weight * 1.0) k1.tangents).addScaled
        (weight * 2.0) k2.tangents).addScaled
        (weight * 2.0) k3.tangents).addScaled (weight * 1.0) k4.tangents
    cotangents :=
      (((start.cotangents.addScaled (weight * 1.0) k1.cotangents).addScaled
        (weight * 2.0) k2.cotangents).addScaled
        (weight * 2.0) k3.cotangents).addScaled (weight * 1.0) k4.cotangents }

/-- State, cost and derivatives after `remaining` sub-steps, the first of them having the given
index. -/
def differentiatedAdvance (interval : Interval α nx nu) (control : Vector α nu) :
    (remaining index : Nat) → Differentiated α nx nu → Outcome α (Differentiated α nx nu)
  | 0, _, start => .ok start
  | remaining + 1, index, start =>
    match interval.differentiatedSubstep control index start with
    | .error failure => .error failure
    | .ok next => differentiatedAdvance interval control remaining (index + 1) next

/-- State and cost at the end of the interval with their derivatives by start state and control. -/
def differentiate (interval : Interval α nx nu) (state : Vector α nx) (control : Vector α nu) :
    Outcome α (Differentiated α nx nu) :=
  interval.differentiatedAdvance control interval.substeps 0
    ⟨⟨state, 0⟩, Tangents.initial, Cotangents.initial⟩

end Interval

end MultipleShooting
