/-
**Runs one after the other.**

A run that begins where another one has ended adds its cost, and its derivatives go through those of
the first by the chain rule (`Differentiated.followedBy`).

* `Interval.isFaultless_iff_parts`: in any arithmetic, a run of `a + b` sub-steps makes the checks
  of the first `a` and then those of a run of `b` from the state reached by them, whatever cost and
  derivatives have been accrued so far;
* `Interval.sweep_followedBy`: over the real numbers **a sub-step is linear in what has been
  accrued**: with what comes before it, it gives what it gives alone, after what comes before it;
* `Interval.iterate_followedBy`: **a run in two parts is the second part after the first**.
-/
import MultipleShooting.Proofs.Interval.Checks

namespace MultipleShooting

variable {nx nu : Nat}

/-! ### Composition -/

section Composition

variable {α : Type} [Number α]

/-- Derivatives of a vector by the start and the control of an earlier run. -/
def Tangents.after (later earlier : Tangents α nx nu) : Tangents α nx nu where
  byState := later.byState.mul earlier.byState
  byControl := (later.byState.mul earlier.byControl).add later.byControl

/-- Derivatives of a number by the start and the control of an earlier run. -/
def Cotangents.after (later : Cotangents α nx nu) (earlier : Tangents α nx nu) :
    Cotangents α nx nu where
  byState := earlier.byState.applyTransposed later.byState
  byControl := Column.add (earlier.byControl.applyTransposed later.byState) later.byControl

/-- The derivatives of a sum of two numbers. -/
def Cotangents.add (left right : Cotangents α nx nu) : Cotangents α nx nu where
  byState := Column.add left.byState right.byState
  byControl := Column.add left.byControl right.byControl

/-- A value with its derivatives by the start and the control of an earlier run. -/
def Differentiated.after (later : Differentiated α nx nu) (earlier : Tangents α nx nu) :
    Differentiated α nx nu where
  reached := later.reached
  tangents := later.tangents.after earlier
  cotangents := later.cotangents.after earlier

/-- **A run followed by another one from its end**: the state of the second, the costs of both, and
their derivatives by the start of the first and the control. -/
def Differentiated.followedBy (first second : Differentiated α nx nu) : Differentiated α nx nu where
  reached := ⟨second.reached.state, first.reached.cost + second.reached.cost⟩
  tangents :=
    ⟨second.tangents.byState.mul first.tangents.byState,
      (second.tangents.byState.mul first.tangents.byControl).add second.tangents.byControl⟩
  cotangents :=
    ⟨Column.add first.cotangents.byState
        (first.tangents.byState.applyTransposed second.cotangents.byState),
      Column.add first.cotangents.byControl
        (Column.add (first.tangents.byControl.applyTransposed second.cotangents.byState)
          second.cotangents.byControl)⟩

@[simp] theorem Differentiated.reached_after (later : Differentiated α nx nu)
    (earlier : Tangents α nx nu) : (later.after earlier).reached = later.reached := rfl

@[simp] theorem Differentiated.state_followedBy (first second : Differentiated α nx nu) :
    (first.followedBy second).reached.state = second.reached.state := rfl

@[simp] theorem Differentiated.tangents_followedBy (first second : Differentiated α nx nu) :
    (first.followedBy second).tangents = second.tangents.after first.tangents := rfl

omit [Number α] in
theorem Differentiated.eq_of_parts {left right : Differentiated α nx nu}
    (reached : left.reached = right.reached) (tangents : left.tangents = right.tangents)
    (cotangents : left.cotangents = right.cotangents) : left = right := by
  cases left
  cases right
  cases reached
  cases tangents
  cases cotangents
  rfl

/-- A run that has just begun. -/
def Differentiated.fresh (state : Vector α nx) : Differentiated α nx nu :=
  ⟨⟨state, 0⟩, Tangents.initial, Cotangents.initial⟩

end Composition

namespace Interval

/-! ### Checks -/

section Checks

variable {α : Type} [Number α] {whole first second : Interval α nx nu} {start : Vector α nx}
  {control : Vector α nu}

/-- Two intervals have the same functions and the same sub-steps. -/
structure StepsAlike (interval other : Interval α nx nu) : Prop where
  dynamics : interval.dynamics = other.dynamics
  step : interval.step = other.step

theorem StepsAlike.slopesAt {interval other : Interval α nx nu}
    (alike : interval.StepsAlike other) : interval.slopesAt = other.slopesAt := by
  unfold Interval.slopesAt
  rw [alike.dynamics]

theorem StepsAlike.sweep {interval other : Interval α nx nu} (alike : interval.StepsAlike other) :
    interval.sweep = other.sweep := by
  unfold Interval.sweep
  rw [alike.slopesAt, alike.step]

theorem StepsAlike.stageState {interval other : Interval α nx nu}
    (alike : interval.StepsAlike other) : interval.stageState = other.stageState := by
  unfold Interval.stageState
  rw [alike.slopesAt, alike.step]

theorem StepsAlike.differentiatedSweep {interval other : Interval α nx nu}
    (alike : interval.StepsAlike other) :
    interval.differentiatedSweep = other.differentiatedSweep := by
  unfold Interval.differentiatedSweep chainedAt
  rw [alike.slopesAt, alike.step, alike.dynamics]

/-- The states of a run do not depend on the cost accrued so far. -/
theorem state_iterate_sweep (interval : Interval α nx nu) (control : Vector α nu) (count : Nat)
    (reached : Propagated α nx) :
    ((interval.sweep control)^[count] reached).state =
      ((interval.sweep control)^[count] ⟨reached.state, 0⟩).state := by
  have passes : Function.Semiconj Propagated.state (interval.sweep control)
      fun state => (interval.sweep control ⟨state, 0⟩).state := fun _ => rfl
  rw [passes.iterate_right count reached, passes.iterate_right count ⟨reached.state, 0⟩]

/-- The points of the later sub-steps are those of a run from the state reached before. -/
theorem stateAt_add (alike : whole.StepsAlike first) (alike' : whole.StepsAlike second)
    (substep : Nat) (stage : Fin 4) :
    whole.stateAt start control (substep + first.substeps) stage =
      second.stateAt (first.endOf start control).state control substep stage := by
  unfold stateAt endOf
  rw [← alike.sweep, ← alike'.sweep, ← alike'.stageState, Function.iterate_add_apply,
    state_iterate_sweep]

/-- **A run in two parts makes the checks of both**: those of the first part, and then those of the
second from the state at the end of the first. -/
theorem isFaultless_iff_parts (alike : whole.StepsAlike first) (alike' : whole.StepsAlike second)
    (parts : whole.substeps = first.substeps + second.substeps)
    (functions : List ModelFunction) :
    whole.IsFaultless functions start control ↔ first.IsFaultless functions start control ∧
      second.IsFaultless functions (first.endOf start control).state control := by
  have before (check : Check) : whole.valuesOf start control check =
      first.valuesOf start control check := by
    unfold valuesOf stateAt
    rw [alike.dynamics, alike.sweep, alike.stageState]
  have after (substep : Nat) (stage : Fin 4) (function : ModelFunction) :
      whole.valuesOf start control ⟨substep + first.substeps, stage, function⟩ =
        second.valuesOf (first.endOf start control).state control ⟨substep, stage, function⟩ := by
    unfold valuesOf
    rw [stateAt_add alike alike', alike'.dynamics]
  constructor
  · intro faultless
    constructor
    · intro check inside listed
      rw [← before]
      exact faultless check (by omega) listed
    · rintro ⟨substep, stage, function⟩ inside listed
      rw [← after]
      exact faultless ⟨substep + first.substeps, stage, function⟩ (by simp only at inside ⊢; omega)
        listed
  · rintro ⟨faultless, faultless'⟩ ⟨substep, stage, function⟩ inside listed
    by_cases early : substep < first.substeps
    · rw [before]
      exact faultless ⟨substep, stage, function⟩ early listed
    · obtain ⟨later, rfl⟩ := Nat.exists_eq_add_of_le' (Nat.not_lt.mp early)
      rw [after]
      exact faultless' ⟨later, stage, function⟩ (by simp only at inside ⊢; omega) listed

end Checks

end Interval

/-! ### Linearity -/

section Real

open Matrix

theorem Dense.toMatrix_injective {m n : Nat} :
    Function.Injective (Dense.toMatrix : Dense ℝ m n → Matrix (Fin m) (Fin n) ℝ) :=
  fun _ _ same => ext_get fun i => ext_get fun j => congrFun (congrFun same i) j

theorem Column.get_injective {n : Nat} : Function.Injective (Vector.get : Vector ℝ n → Fin n → ℝ) :=
  fun _ _ same => ext_get (congrFun same)

/-- Derivatives of a vector are known by their matrices. -/
theorem Tangents.eq_of_toMatrix {left right : Tangents ℝ nx nu}
    (byState : left.byState.toMatrix = right.byState.toMatrix)
    (byControl : left.byControl.toMatrix = right.byControl.toMatrix) : left = right :=
  congrArg₂ Tangents.mk (Dense.toMatrix_injective byState) (Dense.toMatrix_injective byControl)

/-- Derivatives of a number are known by their entries. -/
theorem Cotangents.eq_of_get {left right : Cotangents ℝ nx nu}
    (byState : left.byState.get = right.byState.get)
    (byControl : left.byControl.get = right.byControl.get) : left = right :=
  congrArg₂ Cotangents.mk (Column.get_injective byState) (Column.get_injective byControl)

theorem Tangents.addScaled_after (left right earlier : Tangents ℝ nx nu) (factor : ℝ) :
    (left.addScaled factor right).after earlier =
      (left.after earlier).addScaled factor (right.after earlier) := by
  refine Tangents.eq_of_toMatrix ?_ ?_
  · simp only [after, addScaled, Dense.toMatrix_mul, Dense.toMatrix_add, Dense.toMatrix_scale,
      Matrix.add_mul, Matrix.smul_mul]
  · simp only [after, addScaled, Dense.toMatrix_mul, Dense.toMatrix_add, Dense.toMatrix_scale,
      Matrix.add_mul, Matrix.smul_mul, smul_add]
    abel

theorem Cotangents.addScaled_after (left right : Cotangents ℝ nx nu) (earlier : Tangents ℝ nx nu)
    (factor : ℝ) :
    (left.addScaled factor right).after earlier =
      (left.after earlier).addScaled factor (right.after earlier) := by
  refine Cotangents.eq_of_get ?_ ?_
  · simp only [after, addScaled, Dense.get_applyTransposed_real, Column.get_add_real,
      Column.get_scale_real, mulVec_add, mulVec_smul]
  · simp only [after, addScaled, Dense.get_applyTransposed_real, Column.get_add_real,
      Column.get_scale_real, mulVec_add, mulVec_smul, smul_add]
    abel

theorem Cotangents.add_addScaled (left right other : Cotangents ℝ nx nu) (factor : ℝ) :
    (left.add right).addScaled factor other = left.add (right.addScaled factor other) := by
  refine Cotangents.eq_of_get ?_ ?_ <;>
    simp only [add, addScaled, Column.get_add_real, add_assoc]

namespace Interval

variable (interval : Interval ℝ nx nu) (control : Vector ℝ nu)

/-- **The chain rule at a stage** goes on through an earlier run. -/
theorem chainedAt_after (state : Vector ℝ nx) (tangents earlier : Tangents ℝ nx nu) :
    interval.chainedAt state control (tangents.after earlier) =
      (interval.chainedAt state control tangents).after earlier := by
  refine Differentiated.eq_of_parts rfl (Tangents.eq_of_toMatrix ?_ ?_)
    (Cotangents.eq_of_get ?_ ?_)
  · simp only [chainedAt, Differentiated.after, Tangents.after, Dense.toMatrix_mul,
      Matrix.mul_assoc]
  · simp only [chainedAt, Differentiated.after, Tangents.after, Dense.toMatrix_mul,
      Dense.toMatrix_add, Matrix.mul_add, Matrix.mul_assoc, add_assoc]
  · simp only [chainedAt, Differentiated.after, Tangents.after, Cotangents.after,
      Dense.get_applyTransposed_real, Dense.toMatrix_mul, transpose_mul, mulVec_mulVec]
  · simp only [chainedAt, Differentiated.after, Tangents.after, Cotangents.after,
      Dense.get_applyTransposed_real, Column.get_add_real, Dense.toMatrix_mul, Dense.toMatrix_add,
      transpose_mul, transpose_add, add_mulVec, mulVec_mulVec, add_assoc]

/-- Four stages after an earlier run. -/
theorem combineDifferentiated_followedBy (step : ℝ)
    (first second k1 k2 k3 k4 : Differentiated ℝ nx nu) :
    combineDifferentiated step (first.followedBy second) (k1.after first.tangents)
        (k2.after first.tangents) (k3.after first.tangents) (k4.after first.tangents) =
      first.followedBy (combineDifferentiated step second k1 k2 k3 k4) := by
  refine Differentiated.eq_of_parts (congrArg (Propagated.mk _) (add_assoc _ _ _)) ?_ ?_
  · show _ = (combineDifferentiated step second k1 k2 k3 k4).tangents.after first.tangents
    simp only [combineDifferentiated, Tangents.addScaled_after]
    rfl
  · show _ = first.cotangents.add
      ((combineDifferentiated step second k1 k2 k3 k4).cotangents.after first.tangents)
    simp only [combineDifferentiated, Cotangents.addScaled_after, ← Cotangents.add_addScaled]
    rfl

/-- **A sub-step is linear in what has been accrued**: after an earlier run it gives what it gives
alone, after that run. -/
theorem sweep_followedBy (first second : Differentiated ℝ nx nu) :
    interval.differentiatedSweep control (first.followedBy second) =
      first.followedBy (interval.differentiatedSweep control second) := by
  -- A stage whose tangents are those of the stage before it, after the earlier run.
  have stage (state : Vector ℝ nx) (factor : ℝ) (k : Differentiated ℝ nx nu) :
      interval.chainedAt state control ((second.tangents.after first.tangents).addScaled factor
        (k.after first.tangents).tangents) =
      (interval.chainedAt state control (second.tangents.addScaled factor k.tangents)).after
        first.tangents := by
    rw [← chainedAt_after, Tangents.addScaled_after]
    rfl
  have start := interval.chainedAt_after control second.reached.state second.tangents first.tangents
  unfold differentiatedSweep
  rw [← combineDifferentiated_followedBy]
  simp only [Differentiated.state_followedBy, Differentiated.tangents_followedBy, start, stage,
    Differentiated.reached_after]

/-- An earlier run is what it is before anything follows. -/
theorem followedBy_fresh (first : Differentiated ℝ nx nu) :
    first.followedBy (.fresh first.reached.state) = first := by
  refine Differentiated.eq_of_parts (congrArg (Propagated.mk _) (add_zero _)) ?_ ?_
  · refine Tangents.eq_of_toMatrix ?_ ?_
    · simp only [Differentiated.followedBy, Differentiated.fresh, Tangents.initial,
        Dense.toMatrix_mul, Dense.toMatrix_identity, Matrix.one_mul]
    · simp only [Differentiated.followedBy, Differentiated.fresh, Tangents.initial,
        Dense.toMatrix_mul, Dense.toMatrix_add, Dense.toMatrix_identity, Dense.toMatrix_zero,
        Matrix.one_mul, add_zero]
  · refine Cotangents.eq_of_get ?_ ?_
    · simp only [Differentiated.followedBy, Differentiated.fresh, Cotangents.initial,
        Dense.get_applyTransposed_real, Column.get_add_real, Column.get_zero_real, mulVec_zero,
        add_zero]
    · simp only [Differentiated.followedBy, Differentiated.fresh, Cotangents.initial,
        Dense.get_applyTransposed_real, Column.get_add_real, Column.get_zero_real, mulVec_zero,
        add_zero]

/-- **A run in two parts** is the second part after the first. -/
theorem iterate_followedBy (state : Vector ℝ nx) (a b : ℕ) :
    (interval.differentiatedSweep control)^[a + b] (.fresh state) =
      ((interval.differentiatedSweep control)^[a] (.fresh state)).followedBy
        ((interval.differentiatedSweep control)^[b]
          (.fresh ((interval.differentiatedSweep control)^[a] (.fresh state)).reached.state)) := by
  generalize ends : (interval.differentiatedSweep control)^[a] (.fresh state) = first
  have follows : Function.Semiconj first.followedBy (interval.differentiatedSweep control)
      (interval.differentiatedSweep control) := fun second =>
    (interval.sweep_followedBy control first second).symm
  rw [Nat.add_comm, Function.iterate_add_apply, ends, follows.iterate_right, followedBy_fresh]

end Interval

end Real

end MultipleShooting
