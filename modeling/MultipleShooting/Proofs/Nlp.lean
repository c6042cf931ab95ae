/-
**Programs with fitting bounds.**

* `Nlp.make_eq_ok`: what it takes for lists to be bounds and start of a program;
* `Nlp.not_crossed_of_boundsCross`, `Nlp.boundsCross_of_equations`: bounds that do not cross
  anywhere do not cross at any variable, and conversely where the rows are equations;
* `Nlp.isEqualityConstrained_iff`: what makes a program one of equations; over the real numbers its
  row bounds are then the same (`Nlp.isEqualityConstrained_real`).
-/
import MultipleShooting.Proofs.Linear.Real
import MultipleShooting.Proofs.Outcome
import MultipleShooting.Nlp

namespace MultipleShooting

namespace Nlp

variable {α : Type} [Number α] {n m : Nat}

/-- What it takes for lists to be bounds and start of a program. -/
theorem make_eq_ok {functions : NlpFunctions α n m} {lower upper : List (Bound α)}
    {start rowLower rowUpper : List α} {problem : Nlp α n m} :
    Nlp.make functions lower upper start rowLower rowUpper = .ok problem ↔
      problem.functions = functions ∧ problem.lower.toList = lower ∧
        problem.upper.toList = upper ∧ problem.start.toList = start ∧
        problem.rowLower.toList = rowLower ∧ problem.rowUpper.toList = rowUpper ∧
        boundsCross problem.lower problem.upper problem.rowLower problem.rowUpper = false := by
  simp only [make, bind_eq_ok, expectVector_eq_ok]
  constructor
  · rintro ⟨_, rfl, _, rfl, _, rfl, _, rfl, _, rfl, checked⟩
    split_ifs at checked with crossed
    cases checked
    exact ⟨rfl, rfl, rfl, rfl, rfl, rfl, by simpa using crossed⟩
  · rintro ⟨rfl, rfl, rfl, rfl, rfl, rfl, apart⟩
    refine ⟨_, rfl, _, rfl, _, rfl, _, rfl, _, rfl, ?_⟩
    rw [apart]
    rfl

/-- Bounds that do not cross anywhere do not cross at any variable. -/
theorem not_crossed_of_boundsCross {lower upper : Vector (Bound α) n}
    {rowLower rowUpper : Vector α m}
    (apart : boundsCross lower upper rowLower rowUpper = false) (i : Fin n) :
    (lower.get i).crossed (upper.get i) = false := by
  unfold boundsCross at apart
  rw [Bool.or_eq_false_iff, Vector.any_eq_false] at apart
  have here := apart.1 i i.isLt
  rw [Vector.getElem_zipWith] at here
  exact Bool.eq_false_iff.mpr here

/-- Equations cross no bounds where their right-hand sides are numbers. -/
theorem boundsCross_of_equations {lower upper : Vector (Bound α) n} {rows : Vector α m}
    (apart : ∀ i, (lower.get i).crossed (upper.get i) = false)
    (number : ∀ row, Number.isNaN (rows.get row) = false)
    (irreflexive : ∀ row, ¬ rows.get row < rows.get row) :
    boundsCross lower upper rows rows = false := by
  unfold boundsCross
  rw [Bool.or_eq_false_iff, Vector.any_eq_false, Vector.any_eq_false]
  constructor
  · intro place inside
    rw [Vector.getElem_zipWith]
    exact Bool.eq_false_iff.mp (apart ⟨place, inside⟩)
  · intro row inside
    have here := number ⟨row, inside⟩
    have equal := irreflexive ⟨row, inside⟩
    rw [Vector.getElem_zipWith]
    change Number.isNaN rows[row] = false at here
    change ¬ rows[row] < rows[row] at equal
    simp [here, equal]

/-- A program is one of equations when the two bounds of every row compare as equal. -/
theorem isEqualityConstrained_iff {problem : Nlp α n m} :
    problem.isEqualityConstrained = true ↔
      ∀ row, (problem.rowLower.get row == problem.rowUpper.get row) = true := by
  have here (row : Fin m) : (Vector.zipWith (· == ·) problem.rowLower problem.rowUpper)[row] =
      (problem.rowLower.get row == problem.rowUpper.get row) := get_zipWith _ _ _ row
  unfold isEqualityConstrained
  rw [Vector.all_iff_forall]
  exact ⟨fun equal row => (here row).symm.trans (equal row row.isLt),
    fun equal row inside => (here ⟨row, inside⟩).trans (equal ⟨row, inside⟩)⟩

/-- A program is not one of equations when it has a row that is none. -/
theorem isEqualityConstrained_eq_false_iff {problem : Nlp α n m} :
    problem.isEqualityConstrained = false ↔
      ∃ row, (problem.rowLower.get row == problem.rowUpper.get row) = false := by
  rw [← Bool.not_eq_true, isEqualityConstrained_iff, not_forall]
  simp only [Bool.not_eq_true]

/-- A program of real numbers is one of equations when its row bounds are the same. -/
theorem isEqualityConstrained_real {problem : Nlp ℝ n m} :
    problem.isEqualityConstrained = true ↔ problem.rowLower = problem.rowUpper := by
  rw [isEqualityConstrained_iff]
  constructor
  · intro equal
    exact ext_get fun row => (Number.beq_real _ _).mp (equal row)
  · intro same row
    rw [same]
    exact (Number.beq_real _ _).mpr rfl

end Nlp

end MultipleShooting
