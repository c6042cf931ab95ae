/-
**Settings of the solver.**
-/
import MultipleShooting.Failure

namespace MultipleShooting

/-- The settings of the sequential quadratic programming solver. -/
structure SqpSettings (α : Type) where
  /-- How far constraints may be violated, and the scaled Lagrangian gradient may differ from
  zero. -/
  tolerance : α
  maxIterations : Nat
  /-- The relative step of the differences that give the Hessian. -/
  hessianStep : α
  /-- The first shift of the Hessian's diagonal. -/
  regularization : α
  /-- The first weight of the constraints in the merit. -/
  meritPenalty : α

namespace SqpSettings

variable {α : Type} [Number α]

/-- The settings where nothing else is asked for. -/
def standard : SqpSettings α := ⟨1e-8, 100, 1e-6, 1e-8, 10.0⟩

/-- Settings that replace others where they are given. -/
structure Revision (α : Type) where
  tolerance : Option α
  maxIterations : Option Nat
  hessianStep : Option α
  regularization : Option α
  meritPenalty : Option α

/-- The settings with those of a revision. -/
def Revision.apply (revision : Revision α) (settings : SqpSettings α) : SqpSettings α where
  tolerance := revision.tolerance.getD settings.tolerance
  maxIterations := revision.maxIterations.getD settings.maxIterations
  hessianStep := revision.hessianStep.getD settings.hessianStep
  regularization := revision.regularization.getD settings.regularization
  meritPenalty := revision.meritPenalty.getD settings.meritPenalty

/-- Accepts a setting that is an ordinary positive number. -/
def checkPositive (name : String) (value : α) : Outcome α Unit :=
  if Number.isFinite value && 0 < value then .ok ()
  else .error (.configuration (.solverSetting name value))

/-- Accepts settings that are ordinary positive numbers, the regularization being zero or more. -/
def validate (settings : SqpSettings α) : Outcome α Unit := do
  checkPositive "tolerance" settings.tolerance
  checkPositive "hessian_step" settings.hessianStep
  checkPositive "merit_penalty" settings.meritPenalty
  if !Number.isFinite settings.regularization || settings.regularization < 0 then
    .error (.configuration (.regularization settings.regularization))
  else .ok ()

end SqpSettings

end MultipleShooting
