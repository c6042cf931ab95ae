/-
**The violation of equations over doubles.**

The violation of a program is the largest distance of a row from its two bounds, while the solver
measures the largest magnitude of the rows less their lower bounds. On equations the two are the
same double (`Nlp.violation_eq_maxNorm`), also where rows are infinite or NaNs.
-/
import MultipleShooting.Proofs.Nlp
import MultipleShooting.Proofs.Number.Difference

namespace MultipleShooting

namespace Double

/-! ### Magnitudes -/

/-- A magnitude is a number that a maximum with zero leaves as it is, its sign included. -/
structure IsMagnitude (value : Float) : Prop where
  number : Number.isNaN value = false
  kept : Number.larger value 0 = value

theorem isMagnitude_zero : IsMagnitude 0 := ⟨rfl, rfl⟩

/-- The magnitude of a number is one. -/
theorem isMagnitude_abs {value : Float} (number : Number.isNaN value = false) :
    IsMagnitude (Number.abs value) := by
  refine ⟨isNaN_abs number, ?_⟩
  rw [isNaN_eq_false_iff] at number
  by_cases zero : ∃ sign, parts value = .zero sign
  · obtain ⟨sign, zero⟩ := zero
    have same : Number.abs value = 0 := eq_of_parts (by rw [parts_abs number, zero]; rfl)
    rw [same]
    rfl
  · refine larger_eq_left (lt_iff.mpr ⟨by simp [parts_zero], ?_, ?_⟩)
    · exact isNaN_eq_false_iff.mp (isNaN_abs (isNaN_eq_false_iff.mpr number))
    · rw [parts_abs number, parts_zero]
      obtain ⟨same, -, above⟩ | ⟨same, -, above⟩ := abs_cases number (not_exists.mp zero)
      · rwa [same]
      · rwa [same]

/-- A maximum of magnitudes is one. -/
theorem IsMagnitude.larger {left right : Float} (first : IsMagnitude left)
    (second : IsMagnitude right) : IsMagnitude (Number.larger left right) := by
  unfold Number.larger
  split_ifs
  · exact second
  · exact first
  · exact first
  · exact second

/-- The magnitude of a double, zero taking the place of a NaN. -/
def magnitudeOrZero (value : Float) : Float :=
  if Number.isNaN value then 0 else Number.abs value

/-- In a maximum with a magnitude zero may take the place of a NaN. -/
theorem larger_magnitudeOrZero {norm : Float} (isMagnitude : IsMagnitude norm) (value : Float) :
    IsMagnitude (Number.larger norm (Number.abs value)) ∧
      Number.larger norm (magnitudeOrZero value) = Number.larger norm (Number.abs value) := by
  unfold magnitudeOrZero
  cases defined : Number.isNaN value with
  | false => exact ⟨isMagnitude.larger (isMagnitude_abs defined), rfl⟩
  | true =>
    have undefined : Number.isNaN (Number.abs value) = true := by
      rw [isNaN_iff] at defined ⊢
      show parts (Float.ofModel (Float.Model.pack (parts value).abs)) = _
      rw [defined]
      rfl
    have dropped : Number.larger norm (Number.abs value) = norm := by
      unfold Number.larger
      rw [isMagnitude.number, undefined]
      rfl
    rw [dropped]
    exact ⟨isMagnitude, isMagnitude.kept⟩

theorem foldl_magnitudeOrZero {norm : Float} (isMagnitude : IsMagnitude norm)
    (values : List Float) :
    (values.map magnitudeOrZero).foldl Number.larger norm =
      values.foldl (fun norm value => Number.larger norm (Number.abs value)) norm := by
  induction values generalizing norm with
  | nil => rfl
  | cons value values ih =>
    obtain ⟨next, same⟩ := larger_magnitudeOrZero isMagnitude value
    rw [List.map_cons, List.foldl_cons, List.foldl_cons, same, ih next]

/-- A largest magnitude is a number. -/
theorem isNaN_maxNorm {n : Nat} (vector : Vector Float n) :
    Number.isNaN (Column.maxNorm vector) = false := by
  unfold Column.maxNorm
  rw [← Vector.foldl_toList]
  have number : Number.isNaN (0 : Float) = false := rfl
  generalize (0 : Float) = norm at number ⊢
  induction vector.toList generalizing norm with
  | nil => exact number
  | cons value values ih => exact ih _ (isNaN_larger number)

end Double

namespace Nlp

open Double

variable {n m : Nat}

/-- **The violation of equations** is the largest magnitude of the rows less their bounds. -/
theorem violation_eq_maxNorm {problem : Nlp Float n m}
    (equations : problem.isEqualityConstrained = true) (constraints : Vector Float m) :
    problem.violation constraints =
      Column.maxNorm (Column.sub constraints problem.rowLower) := by
  have distances : (Vector.zipWith (fun value (low, high) => distance value low high) constraints
      (Vector.zip problem.rowLower problem.rowUpper)) =
        (Column.sub constraints problem.rowLower).map magnitudeOrZero := by
    refine ext_get fun row => ?_
    rw [get_zipWith, Vector.get_map, Column.get_sub]
    have pair : (Vector.zip problem.rowLower problem.rowUpper).get row =
        (problem.rowLower.get row, problem.rowUpper.get row) := Vector.getElem_zip ..
    rw [pair]
    exact larger_differences _ (isEqualityConstrained_iff.mp equations row)
  unfold violation Column.maxNorm
  rw [distances, ← Vector.foldl_toList, ← Vector.foldl_toList, Vector.toList_map]
  exact foldl_magnitudeOrZero isMagnitude_zero _

end Nlp

end MultipleShooting
