/-
**Programs under revision.**

The start and the row bounds of a program may be revised between two runs. A draft holds them as
lists of any length: a row counts as far as both of its bounds are listed, and a pair of bounds
beyond the last row still has to be equal in a program of equations.

* `Nlp.draft`, `NlpDraft.complete?`: a program as a draft, and the program of a draft that fits;
* `NlpDraft.violation`, `NlpDraft.isEqualityConstrained`: those of programs, over the listed bounds;
* `NlpDraft.solve`: the run from the start of a draft, `NlpDraft.solve_draft`: for the draft of a
  program it is the run of the program.
-/
import MultipleShooting.Sqp.Solver

namespace MultipleShooting

variable {α : Type} {n m : Nat}

/-- A program whose start and row bounds may have any number of entries. -/
structure NlpDraft (α : Type) (n m : Nat) where
  functions : NlpFunctions α n m
  lower : Vector (Bound α) n
  upper : Vector (Bound α) n
  start : List α
  rowLower : List α
  rowUpper : List α

/-- A program as a draft of itself. -/
def Nlp.draft (problem : Nlp α n m) : NlpDraft α n m where
  functions := problem.functions
  lower := problem.lower
  upper := problem.upper
  start := problem.start.toList
  rowLower := problem.rowLower.toList
  rowUpper := problem.rowUpper.toList

namespace NlpDraft

/-- The program of a draft whose lists have the right lengths. -/
def complete? (draft : NlpDraft α n m) : Option (Nlp α n m) :=
  if fits : draft.start.length = n ∧ draft.rowLower.length = m ∧ draft.rowUpper.length = m then
    some ⟨draft.functions, draft.lower, draft.upper, ⟨draft.start.toArray, fits.1⟩,
      ⟨draft.rowLower.toArray, fits.2.1⟩, ⟨draft.rowUpper.toArray, fits.2.2⟩⟩
  else none

/-- A list of the length of the decision vector as a point. -/
def point (_ : NlpDraft α n m) (values : List α) : Outcome α (Vector α n) :=
  expectVector "decision vector" n values

variable [Number α]

/-- The largest distance of the constraints from those row bounds that are listed. -/
def violation (draft : NlpDraft α n m) (constraints : Vector α m) : α :=
  (List.zipWith (fun value (low, high) => Nlp.distance value low high) constraints.toList
    (draft.rowLower.zip draft.rowUpper)).foldl Number.larger 0

/-- Whether the listed pairs of row bounds are equal. -/
def isEqualityConstrained (draft : NlpDraft α n m) : Bool :=
  (List.zipWith (· == ·) draft.rowLower draft.rowUpper).all id

/-! ### Runs -/

/-- The program that asks the rows of a draft for given values. -/
def equations (draft : NlpDraft α n m) (start : Vector α n) (values : Vector α m) : Nlp α n m :=
  ⟨draft.functions, draft.lower, draft.upper, start, values, values⟩

/-- A run with its violation measured by the bounds of a draft. -/
def remeasured (draft : NlpDraft α n m) (run : Sqp.Run α) : Outcome α (Sqp.Run α) := do
  let reached ← draft.point run.solution.point
  let evaluation ← draft.functions.evaluate reached
  let solution := { run.solution with violation := draft.violation evaluation.constraints }
  return { run with solution := solution }

/-- The run on a draft that need not fit. The rows are solved for their lower bounds, of which there
must be one for each row by the time the start has been evaluated. -/
def solveListed (settings : SqpSettings α) (draft : NlpDraft α n m) : Outcome α (Sqp.Run α) := do
  settings.validate
  if !draft.isEqualityConstrained then .error (.configuration .needsEqualities)
  else
    let start ← expectVector "v0" n draft.start
    let point := Sqp.clamp (draft.equations start (Column.zero m)) start
    let evaluation ← draft.functions.evaluate point
    let values ← expectVector "lb_g" m draft.rowLower
    let run ← Sqp.runFrom (fun _ => Elimination.solve) settings (draft.equations start values)
      point evaluation
    draft.remeasured run

/-- The run from the start of a draft, with elimination for linear systems. -/
def solve (settings : SqpSettings α) (draft : NlpDraft α n m) : Outcome α (Sqp.Run α) :=
  match draft.complete? with
  | some problem => Sqp.solve settings problem
  | none => draft.solveListed settings

/-! ### Drafts of programs -/

omit [Number α] in
/-- The draft of a program fits, and the program is what it completes to. -/
theorem complete?_draft (problem : Nlp α n m) : problem.draft.complete? = some problem := by
  obtain ⟨functions, lower, upper, ⟨start, startSize⟩, ⟨rowLower, lowerSize⟩,
    ⟨rowUpper, upperSize⟩⟩ := problem
  simp [complete?, Nlp.draft, startSize, lowerSize, upperSize]

/-- A program and its draft have the same runs. -/
theorem solve_draft (settings : SqpSettings α) (problem : Nlp α n m) :
    problem.draft.solve settings = Sqp.solve settings problem := by
  rw [solve, complete?_draft]

/-- A program and its draft measure the same violation. -/
theorem violation_draft (problem : Nlp α n m) (constraints : Vector α m) :
    problem.draft.violation constraints = problem.violation constraints := by
  rw [Nlp.violation, ← Vector.foldl_toList, Vector.toList_zipWith, Vector.toList_zip]
  rfl

/-- A program and its draft have the same equality constraints. -/
theorem isEqualityConstrained_draft (problem : Nlp α n m) :
    problem.draft.isEqualityConstrained = problem.isEqualityConstrained := by
  rw [Nlp.isEqualityConstrained, ← Vector.all_toList, Vector.toList_zipWith]
  rfl

end NlpDraft

end MultipleShooting
