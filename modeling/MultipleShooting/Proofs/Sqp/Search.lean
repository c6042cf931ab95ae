/-
**The two searches of an iteration.**

In any arithmetic, an iteration makes a bounded number of attempts at a direction and at a point,
and takes the first that can be used:

* `exists_first_of_findSome?`: a search through the numbers below a limit;
* `findDirection_eq_findSome?`: the stationarity conditions are solved for one pair of shifts after
  the other (`nextShifts`), each time once;
* `lineSearch_eq_findSome?`: the program is evaluated at one fraction of the step after the other,
  each time once;
* `advance_eq_searched`: an iteration whose Hessian can be formed is made of these two searches.
-/
import Mathlib.Logic.Function.Iterate
import MultipleShooting.Sqp.Solver

namespace MultipleShooting

/-- A search of the numbers below a limit finds the first of them that has an answer. -/
theorem exists_first_of_findSome? {β : Type} {f : Nat → Option β} {limit : Nat} {answer : β}
    (found : (List.range limit).findSome? f = some answer) :
    ∃ first < limit, f first = some answer ∧ ∀ earlier < first, f earlier = none := by
  induction limit with
  | zero => cases found
  | succ limit ih =>
    rw [List.range_succ, List.findSome?_append, List.findSome?_singleton,
      Option.or_eq_some_iff] at found
    obtain before | ⟨unfound, last⟩ := found
    · obtain ⟨first, below, here⟩ := ih before
      exact ⟨first, Nat.lt_succ_of_lt below, here⟩
    · refine ⟨limit, Nat.lt_succ_self limit, last, ?_⟩
      intro earlier below
      exact List.findSome?_eq_none_iff.mp unfound earlier (List.mem_range.mpr below)

namespace Sqp

variable {α : Type} [Number α] {n m : Nat}

/-! ### Directions -/

/-- The direction of a step with its multipliers, the weight covering these. -/
def Direction.of (iterate : Iterate α n m) (penalty : α) (step : Vector α n)
    (multipliers : Vector α m) : Direction α n m :=
  let weight := Number.larger penalty (1.1 * Column.maxNorm multipliers)
  { step := step
    multipliers := multipliers
    penalty := weight
    slope := Column.dot iterate.evaluation.gradient step -
      weight * Column.sumNorm iterate.residual }

section Directions

variable (linear : LinearSolver α) (settings : SqpSettings α) (curvature : Dense α n n)
  (iterate : Iterate α n m) (fixed : Vector Bool n) (penalty : α)

/-- The direction that the stationarity conditions give with two shifts, if the merit descends along
it or its step is negligible. -/
def directionAt? (shifts : α × α) : Option (Direction α n m) :=
  ((solveKkt linear curvature iterate fixed shifts.1 shifts.2).map fun solution =>
    Direction.of iterate penalty solution.1 solution.2).filter fun direction =>
      decide (direction.slope < 0 ∨ Column.maxNorm direction.step ≤ negligible iterate.point)

/-- The shifts that are tried after two others: the diagonal is shifted further, and the constraints
are where the conditions have had no solution. -/
def nextShifts (shifts : α × α) : α × α :=
  (Number.larger (shifts.1 * 100.0) 1e-8,
    if (solveKkt linear curvature iterate fixed shifts.1 shifts.2).isSome then shifts.2
    else Number.larger (Number.larger shifts.2 settings.regularization) 1e-12)

variable {linear settings curvature iterate fixed penalty}

/-- A direction that can be used is that of a solution of the stationarity conditions. -/
theorem directionAt_eq_some {shifts : α × α} {direction : Direction α n m} :
    directionAt? linear curvature iterate fixed penalty shifts = some direction ↔
      ∃ step multipliers,
        solveKkt linear curvature iterate fixed shifts.1 shifts.2 = some (step, multipliers) ∧
        Direction.of iterate penalty step multipliers = direction ∧
        (direction.slope < 0 ∨ Column.maxNorm direction.step ≤ negligible iterate.point) := by
  simp only [directionAt?, Option.filter_eq_some_iff, Option.map_eq_some_iff, decide_eq_true_eq,
    Prod.exists]
  constructor
  · rintro ⟨⟨step, multipliers, solved, same⟩, usable⟩
    exact ⟨step, multipliers, solved, same, usable⟩
  · rintro ⟨step, multipliers, solved, same, usable⟩
    exact ⟨⟨step, multipliers, solved, same⟩, usable⟩

/-- **The search for a direction** solves the stationarity conditions at most as often as it may. -/
theorem findDirection_eq_findSome? (tries : Nat) (shift rowShift : α) :
    findDirection linear settings curvature iterate fixed penalty tries shift rowShift =
      (List.range tries).findSome? fun attempt =>
        directionAt? linear curvature iterate fixed penalty
          ((nextShifts linear settings curvature iterate fixed)^[attempt] (shift, rowShift)) := by
  induction tries generalizing shift rowShift with
  | zero => rfl
  | succ tries ih =>
    rw [List.range_succ_eq_map, List.findSome?_cons, List.findSome?_map, findDirection]
    simp only [Function.iterate_zero, id, Function.comp_def, Function.iterate_succ_apply, ih]
    cases solved : solveKkt linear curvature iterate fixed shift rowShift with
    | none =>
      simp only [directionAt?, nextShifts, solved]
      rfl
    | some solution =>
      obtain ⟨step, multipliers⟩ := solution
      have shifts : nextShifts linear settings curvature iterate fixed (shift, rowShift) =
          (Number.larger (shift * 100.0) 1e-8, rowShift) := by
        simp only [nextShifts, solved, Option.isSome_some, if_true]
      by_cases usable : (Direction.of iterate penalty step multipliers).slope < 0 ∨
          Column.maxNorm step ≤ negligible iterate.point
      · have found : directionAt? linear curvature iterate fixed penalty (shift, rowShift) =
            some (Direction.of iterate penalty step multipliers) := by
          simp only [directionAt?, solved, Option.map_some]
          exact if_pos (decide_eq_true usable)
        simp only [found]
        exact if_pos usable
      · have refused : directionAt? linear curvature iterate fixed penalty (shift, rowShift) =
            none := by
          simp only [directionAt?, solved, Option.map_some]
          exact if_neg (mt of_decide_eq_true usable)
        simp only [refused, shifts]
        exact if_neg usable

end Directions

/-! ### Points along a direction -/

section Points

variable (problem : Nlp α n m) (iterate : Iterate α n m) (direction : Direction α n m)

/-- The trial point at a fraction of a step, if it is accepted. -/
def takenAt? (length : α) : Option (Iterate α n m) :=
  (trial? problem iterate direction length).filter (accepts iterate direction length)

/-- **The line search** evaluates the program at most once more than it may halve the step. -/
theorem lineSearch_eq_findSome? (halvings : Nat) (length : α) :
    lineSearch problem iterate direction halvings length =
      (List.range (halvings + 1)).findSome? fun halved =>
        takenAt? problem iterate direction ((· * 0.5)^[halved] length) := by
  induction halvings generalizing length with
  | zero =>
    rw [lineSearch]
    change _ = List.findSome? _ [0]
    rw [List.findSome?_singleton]
    rfl
  | succ halvings ih =>
    rw [List.range_succ_eq_map, List.findSome?_cons, List.findSome?_map, lineSearch]
    simp only [Function.iterate_zero, id, Function.comp_def, Function.iterate_succ_apply, ih,
      takenAt?]
    cases (trial? problem iterate direction length).filter (accepts iterate direction length) with
    | none => rfl
    | some candidate => rfl

end Points

/-! ### Iterations -/

/-- What an iteration comes to that looks for a direction among pairs of shifts and for a point
among lengths of its step. -/
def searched (linear : LinearSolver α) (problem : Nlp α n m) (progress : Progress α n m)
    (curvature : Dense α n n) (shifts : List (α × α)) (lengths : List α) : Advance α n m :=
  match shifts.findSome? (directionAt? linear curvature progress.iterate
      (frozen problem progress.iterate.point progress.gradient) progress.penalty) with
  | none => .obstructed .noDirection
  | some direction =>
    match lengths.findSome? (takenAt? problem progress.iterate direction) with
    | none => .obstructed .lineSearchFailed
    | some candidate => .next ⟨candidate, direction.multipliers, direction.penalty⟩

/-- **An iteration is a bounded search**: it solves as many systems and tries as many points as it
may at the most. -/
theorem advance_eq_searched {linear : LinearSolver α} {settings : SqpSettings α}
    {problem : Nlp α n m} {progress : Progress α n m} {curvature : Dense α n n}
    (formed : hessian settings problem progress.iterate.point progress.multipliers
      progress.gradient = .ok curvature) :
    ∃ shifts lengths, shifts.length = maxTries ∧ lengths.length = maxHalvings + 1 ∧
      advance linear settings problem progress =
        .ok (searched linear problem progress curvature shifts lengths) := by
  refine ⟨(List.range maxTries).map fun attempt =>
      (nextShifts linear settings curvature progress.iterate
        (frozen problem progress.iterate.point progress.gradient))^[attempt]
        (settings.regularization, 0),
    (List.range (maxHalvings + 1)).map fun halved => (· * 0.5)^[halved] 1,
    by rw [List.length_map, List.length_range], by rw [List.length_map, List.length_range], ?_⟩
  unfold advance searched
  simp only [bind, Except.bind, formed, findDirection_eq_findSome?, lineSearch_eq_findSome?,
    List.findSome?_map, Function.comp_def]
  generalize List.findSome? _ (List.range maxTries) = found
  cases found with
  | none => rfl
  | some direction =>
    dsimp only
    generalize List.findSome? _ (List.range (maxHalvings + 1)) = taken
    cases taken <;> rfl

end Sqp

end MultipleShooting
