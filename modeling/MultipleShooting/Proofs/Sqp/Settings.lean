/-
**Valid settings.**

What the validation of settings asks for in any arithmetic (`SqpSettings.validate_eq_ok`), and of
real numbers (`SqpSettings.validate_real`).
-/
import MultipleShooting.Proofs.Number.Real
import MultipleShooting.Proofs.Outcome
import MultipleShooting.Sqp.Settings

namespace MultipleShooting

namespace SqpSettings

variable {α : Type} [Number α]

theorem checkPositive_eq_ok {name : String} {value : α} :
    checkPositive name value = .ok () ↔ Number.isFinite value = true ∧ 0 < value := by
  unfold checkPositive
  split_ifs with positive
  · rw [Bool.and_eq_true, decide_eq_true_eq] at positive
    exact iff_of_true rfl positive
  · rw [Bool.and_eq_true, decide_eq_true_eq] at positive
    exact iff_of_false (fun equal => by cases equal) positive

/-- **Valid settings** are ordinary positive numbers, the regularization being zero or more. -/
theorem validate_eq_ok {settings : SqpSettings α} :
    settings.validate = .ok () ↔
      (Number.isFinite settings.tolerance = true ∧ 0 < settings.tolerance) ∧
      (Number.isFinite settings.hessianStep = true ∧ 0 < settings.hessianStep) ∧
      (Number.isFinite settings.meritPenalty = true ∧ 0 < settings.meritPenalty) ∧
      Number.isFinite settings.regularization = true ∧ ¬ settings.regularization < 0 := by
  have last : (if !Number.isFinite settings.regularization || settings.regularization < 0 then
      .error (.configuration (.regularization settings.regularization))
      else .ok () : Outcome α Unit) = .ok () ↔
        Number.isFinite settings.regularization = true ∧ ¬ settings.regularization < 0 := by
    cases finite : Number.isFinite settings.regularization <;>
      by_cases below : settings.regularization < 0 <;> simp [below]
  simp only [validate, bind_eq_ok, Unique.exists_iff, PUnit.default_eq_unit, checkPositive_eq_ok,
    last]

theorem validate_real {settings : SqpSettings ℝ} :
    settings.validate = .ok () ↔ 0 < settings.tolerance ∧ 0 < settings.hessianStep ∧
      0 < settings.meritPenalty ∧ 0 ≤ settings.regularization := by
  simp only [validate_eq_ok, Number.isFinite_real, true_and, not_lt]

end SqpSettings

end MultipleShooting
