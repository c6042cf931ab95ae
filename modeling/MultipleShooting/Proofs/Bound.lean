/-
**Bounds of real numbers.**

An infinite bound excludes nothing. Clamping between bounds that do not cross leads between them
(`Bound.admits_clamp`) and keeps what lies there already (`Bound.clamp_of_between`).
-/
import MultipleShooting.Bound
import MultipleShooting.Proofs.Number.Real

namespace MultipleShooting

namespace Bound

/-- A number lies between two bounds when it is on the allowed side of those that are finite. -/
def Admits (lower upper : Bound ℝ) (value : ℝ) : Prop :=
  (∀ least, lower = limit least → least ≤ value) ∧ ∀ most, upper = limit most → value ≤ most

/-- A finite lower bound that does not cross an upper bound is not above it. -/
theorem le_of_not_crossed {least most : ℝ}
    (apart : (limit least).crossed (limit most : Bound ℝ) = false) : least ≤ most := by
  simpa [crossed, isNaN, exceeds] using apart

/-- **Clamping leads between the bounds.** -/
theorem admits_clamp {lower upper : Bound ℝ} (apart : lower.crossed upper = false) (value : ℝ) :
    Admits lower upper (clamp lower upper value) := by
  constructor
  · rintro least rfl
    cases upper with
    | minusInfinity => simp [crossed, isNaN, exceeds] at apart
    | limit most => simpa [clamp, raise, Bound.lower] using le_of_not_crossed apart
    | plusInfinity => simp [clamp, raise, Bound.lower]
  · rintro most rfl
    simp [clamp, Bound.lower]

/-- Clamping keeps what lies between the bounds. -/
theorem clamp_of_between {least most value : ℝ} (above : least ≤ value) (below : value ≤ most) :
    clamp (limit least) (limit most) value = value := by
  simp [clamp, raise, Bound.lower, above, below]

end Bound

end MultipleShooting
