/-
**The horizon of a problem.**

A horizon is the time from zero to `finalTime`, cut into equal intervals, and each interval into
equal sub-steps of the integrator.
-/
import MultipleShooting.Failure

namespace MultipleShooting

/-- A horizon and how it is discretised. -/
structure Horizon (α : Type) where
  finalTime : α
  /-- The number of shooting intervals. -/
  intervals : Nat
  /-- The number of integrator steps in each interval. -/
  substeps : Nat
  /-- Whether the end of the last interval is linked to the last node. -/
  terminalLink : Bool
  /-- Whether intervals may be evaluated at the same time. No answer depends on it. -/
  parallel : Bool

namespace Horizon

variable {α : Type}

/-- A horizon without terminal link. -/
def ofSizes (finalTime : α) (intervals substeps : Nat) : Horizon α :=
  ⟨finalTime, intervals, substeps, false, true⟩

/-- The duration of an interval. -/
def intervalDuration [Number α] (horizon : Horizon α) : α :=
  horizon.finalTime / (horizon.intervals : α)

/-- Accepts an ordinary positive final time and positive numbers of intervals and sub-steps. -/
def validate [Number α] (horizon : Horizon α) : Outcome α Unit :=
  if !Number.isFinite horizon.finalTime || horizon.finalTime ≤ 0 then
    .error (.configuration (.finalTime horizon.finalTime))
  else if horizon.intervals = 0 then .error (.configuration .noIntervals)
  else if horizon.substeps = 0 then .error (.configuration .noSubsteps)
  else .ok ()

end Horizon

end MultipleShooting
