/-
**Where an evaluation has failed.**

In any arithmetic, a failed evaluation of a transcribed problem tells where it has first failed. Its
intervals are evaluated in their order, and each makes its checks in theirs; the initial condition
comes after all intervals.

* `Shooting.Checking`: what a function of the program checks;
* `Shooting.Locates`: a failure names the first check that does not pass, with the point where it
  was made;
* `Shooting.locates_of_evaluate`, `Shooting.locates_of_objective`,
  `Shooting.locates_of_constraints`: the failures of the functions of a shooting problem;
* `transcribeWith_locates`: **the failures of a transcribed problem tell the truth** about where
  they have arisen.
-/
import MultipleShooting.Number.Double
import MultipleShooting.Proofs.Interval.Checks
import MultipleShooting.Proofs.Shooting.Transcription

namespace MultipleShooting

variable {α : Type} [Number α]

/-! ### The initial condition -/

namespace InitialCondition

variable {nx : Nat}

/-- The numbers that are checked when a function of the initial condition is evaluated. -/
def components (initial : InitialCondition α nx) (start : Vector α nx) : ModelFunction → List α
  | .initial => (initial.residual start).toList
  | .initialJacobian => (initial.jacobian start).toList.flatMap Vector.toList
  | _ => []

/-- A function of the initial condition is the first that does not pass its check. -/
structure IsFirstFault (initial : InitialCondition α nx) (functions : List ModelFunction)
    (start : Vector α nx) (function : ModelFunction) : Prop where
  function_mem : function ∈ functions
  undefined : ∃ value ∈ initial.components start function, Number.isFinite value = false
  earlier : ∀ other ∈ functions, other.rank < function.rank →
    ∀ value ∈ initial.components start other, Number.isFinite value = true

end InitialCondition

/-! ### Intervals in their order -/

omit [Number α] in
/-- Intervals fail with the failure of the first one that fails, told to have arisen there. -/
theorem overIntervals_eq_error {β : Type} {n : Nat}
    {operation : (index : Nat) → index < n → Outcome α β} {failure : Failure α}
    (failed : overIntervals n operation = .error failure) :
    ∃ (k : Fin n) (cause : Failure α), operation k k.isLt = .error cause ∧
      cause.inInterval k = failure ∧ ∀ i < k, ∃ answer, operation i i.isLt = .ok answer := by
  obtain ⟨k, here, before⟩ := collect_eq_error.mp failed
  obtain ⟨cause, failedHere, same⟩ := mapError_eq_error.mp here
  refine ⟨k, cause, failedHere, same, fun i below => ?_⟩
  obtain ⟨answer, succeeded⟩ := before i below
  exact ⟨answer, mapError_eq_ok.mp succeeded⟩

namespace Shooting

variable {layout : Layout} {shooting : Shooting α layout} {vector : Vector α layout.size}
  {failure : Failure α}

/-! ### What is checked -/

/-- What a function of the program checks: whether an interval succeeds, and the model functions
that are checked at every stage of an interval and at the start. -/
structure Checking (nk : Nat) where
  succeeds : Fin nk → Prop
  stages : List ModelFunction
  start : List ModelFunction

/-- The checks without derivatives. -/
def valueChecking (shooting : Shooting α layout) (vector : Vector α layout.size)
    (start : List ModelFunction) : Checking layout.nk where
  succeeds k := ∃ reached,
    shooting.interval.propagate (stateOf vector k) (controlOf vector k) = .ok reached
  stages := [.dynamics, .cost]
  start := start

/-- The checks of values and derivatives. -/
def derivativeChecking (shooting : Shooting α layout) (vector : Vector α layout.size) :
    Checking layout.nk where
  succeeds k := ∃ reached,
    shooting.interval.differentiate (stateOf vector k) (controlOf vector k) = .ok reached
  stages := [.dynamics, .cost, .dynamicsJacobian, .costGradient]
  start := [.initial, .initialJacobian]

/-- **A failure tells where an evaluation has first failed**: in an interval, all intervals before
it having succeeded, at the first stage and in the first function that does not pass its check, or
at the start, all intervals having succeeded. -/
inductive Locates (shooting : Shooting α layout) (vector : Vector α layout.size)
    (checking : Checking layout.nk) : Failure α → Prop
  | stage (k : Fin layout.nk) (check : Interval.Check)
      (before : ∀ i < k, checking.succeeds i)
      (first : shooting.interval.IsFirstFault checking.stages (stateOf vector k)
        (controlOf vector k) check) :
      Locates shooting vector checking
        (.evaluation check.function ⟨some k, some check.substep, some (check.stage + 1)⟩
          (shooting.interval.stateAt (stateOf vector k) (controlOf vector k) check.substep
            check.stage).toList (controlOf vector k).toList)
  | start (function : ModelFunction) (all : ∀ k, checking.succeeds k)
      (first : shooting.initial.IsFirstFault checking.start (shooting.start vector) function) :
      Locates shooting vector checking
        (.evaluation function ⟨some 0, none, none⟩ (shooting.start vector).toList [])

/-! ### Failures of the program's functions -/

theorem locates_of_propagateAll {start : List ModelFunction}
    (failed : shooting.propagateAll vector = .error failure) :
    shooting.Locates vector (shooting.valueChecking vector start) failure := by
  obtain ⟨k, cause, here, same, before⟩ := overIntervals_eq_error failed
  obtain ⟨check, first, rfl⟩ := Interval.propagate_eq_error here
  rw [← same]
  exact .stage k check before first

theorem locates_of_differentiateAll (failed : shooting.differentiateAll vector = .error failure) :
    shooting.Locates vector (shooting.derivativeChecking vector) failure := by
  obtain ⟨k, cause, here, same, before⟩ := overIntervals_eq_error failed
  obtain ⟨check, first, rfl⟩ := Interval.differentiate_eq_error here
  rw [← same]
  exact .stage k check before first

theorem constraintsFrom_eq_error {reached : Vector (Vector α layout.nx) layout.nk}
    (failed : shooting.constraintsFrom vector reached = .error failure) :
    (∃ value ∈ shooting.initial.components (shooting.start vector) .initial,
      Number.isFinite value = false) ∧
      failure = initialFailure .initial (shooting.start vector) := by
  simp only [constraintsFrom, initialResidual] at failed
  split_ifs at failed with finite
  cases failed
  rw [Column.isFinite_eq_all] at finite
  exact ⟨exists_not_isFinite finite, rfl⟩

/-- **The objective** fails in an interval only. -/
theorem locates_of_objective (failed : shooting.objective vector = .error failure) :
    shooting.Locates vector (shooting.valueChecking vector []) failure :=
  locates_of_propagateAll (map_eq_error.mp failed)

/-- **The constraints** fail in an interval or in the residual of the initial condition. -/
theorem locates_of_constraints (failed : shooting.constraints vector = .error failure) :
    shooting.Locates vector (shooting.valueChecking vector [.initial]) failure := by
  unfold constraints at failed
  split at failed
  · next other propagated =>
    cases failed
    exact locates_of_propagateAll propagated
  · next ends propagated =>
    obtain ⟨undefined, rfl⟩ := constraintsFrom_eq_error failed
    refine .start .initial (fun k => ⟨_, propagateAll_eq_ok.mp propagated k⟩)
      ⟨List.mem_singleton_self _, undefined, fun other among before => ?_⟩
    rw [List.mem_singleton.mp among] at before
    exact absurd before (lt_irrefl _)

/-- **A whole evaluation** fails in an interval, in the residual of the initial condition or in its
Jacobian. -/
theorem locates_of_evaluate {pattern : Pattern shooting.rows.count layout.size}
    (failed : shooting.evaluate pattern vector = .error failure) :
    shooting.Locates vector (shooting.derivativeChecking vector) failure := by
  rcases bind_eq_error.mp failed with inIntervals | ⟨ends, differentiated, failed⟩
  · exact locates_of_differentiateAll inIntervals
  have all (k : Fin layout.nk) : (shooting.derivativeChecking vector).succeeds k :=
    ⟨_, differentiateAll_eq_ok.mp differentiated k⟩
  rcases bind_eq_error.mp failed with inResidual | ⟨rows, residual, failed⟩
  · obtain ⟨undefined, rfl⟩ := constraintsFrom_eq_error inResidual
    refine .start .initial all ⟨List.mem_cons_self, undefined, fun other among before => ?_⟩
    rcases List.mem_pair.mp among with rfl | rfl
    · exact absurd before (lt_irrefl _)
    · exact absurd before (by decide)
  · obtain ⟨finiteResidual, -⟩ := constraintsFrom_eq_ok.mp residual
    rcases bind_eq_error.mp failed with inJacobian | ⟨_, -, failed⟩
    · simp only [jacobianFrom] at inJacobian
      split_ifs at inJacobian with finite
      cases inJacobian
      rw [Dense.isFinite_eq_all] at finite
      rw [Column.isFinite_eq_all] at finiteResidual
      refine .start .initialJacobian all ⟨List.mem_cons_of_mem _ List.mem_cons_self,
        exists_not_isFinite finite, fun other among before => ?_⟩
      rcases List.mem_pair.mp among with rfl | rfl
      · exact List.all_eq_true.mp finiteResidual
      · exact absurd before (lt_irrefl _)
    · cases failed

end Shooting

/-! ### Transcribed problems -/

/-- **The failures of a transcribed problem tell the truth.** Whatever function of the program fails
at a decision vector, its failure names the interval, the sub-step, the stage and the model function
of the first check that does not pass, with state and control of that check. -/
theorem transcribeWith_locates {horizon : Horizon α} {model : Model α} {nx nu : Nat}
    {dynamics : Dynamics α nx nu} {initial : InitialCondition α nx}
    {transcription : Transcription α}
    (transcribed : transcribeWith horizon model dynamics initial = .ok transcription) :
    ∃ nlp, transcription = ⟨⟨nx, nu, horizon.intervals⟩,
        Shooting.ofHorizon horizon dynamics initial, nlp, horizon.intervalDuration⟩ ∧
      ∀ (vector : Vector α (Layout.mk nx nu horizon.intervals).size) (failure : Failure α),
        let shooting := Shooting.ofHorizon horizon dynamics initial
        (nlp.functions.evaluate vector = .error failure →
          shooting.Locates vector (shooting.derivativeChecking vector) failure) ∧
        (nlp.functions.gradient vector = .error failure →
          shooting.Locates vector (shooting.derivativeChecking vector) failure) ∧
        (nlp.functions.jacobian vector = .error failure →
          shooting.Locates vector (shooting.derivativeChecking vector) failure) ∧
        (nlp.functions.objective vector = .error failure →
          shooting.Locates vector (shooting.valueChecking vector []) failure) ∧
        (nlp.functions.constraints vector = .error failure →
          shooting.Locates vector (shooting.valueChecking vector [.initial]) failure) := by
  obtain ⟨-, -, -, -, pattern, nlp, -, -, isOf, rfl⟩ := transcribeWith_eq_ok.mp transcribed
  refine ⟨nlp, rfl, fun vector failure => ?_⟩
  rw [isOf.functions]
  exact ⟨Shooting.locates_of_evaluate,
    fun failed => Shooting.locates_of_evaluate (map_eq_error.mp failed),
    fun failed => Shooting.locates_of_evaluate (map_eq_error.mp failed),
    Shooting.locates_of_objective, Shooting.locates_of_constraints⟩

namespace reciprocal

/-- A state `x` with `dx/dt = 1 / x` that begins at one, at the cost of the squared control. -/
def model : Model Float :=
  Model.unbounded ["x"] ["u"] [.binary .div (.const 1) (.var "x")]
    (.binary .mul (.var "u") (.var "u")) [.binary .sub (.var "x") (.const 1)]

/-- Three intervals of two sub-steps. -/
def horizon : Horizon Float := ⟨3, 3, 2, false, false⟩

/-- A decision vector whose state is zero at the node after the first interval. -/
def values : List Float := [1, 0.5, 0, 0.25, 1, 0.125, 1]

/-- The failure of the evaluation. -/
def verdict : Option (ModelFunction × EvaluationPlace × List Float × List Float) :=
  match transcribe horizon model with
  | .error _ => none
  | .ok transcription =>
    match transcription.nlp.point values with
    | .error _ => none
    | .ok vector =>
      match transcription.nlp.functions.evaluate vector with
      | .error (.evaluation function place state control) => some (function, place, state, control)
      | _ => none

end reciprocal

/-- Where a state is zero its reciprocal cannot be evaluated, and the failure names the second
interval. -/
theorem transcribeWith_locates_reciprocal : ∃ (dynamics : Dynamics Float 1 1)
    (initial : InitialCondition Float 1) (transcription : Transcription Float),
    transcribeWith reciprocal.horizon reciprocal.model dynamics initial = .ok transcription ∧
      ∃ vector, (Shooting.ofHorizon reciprocal.horizon dynamics initial).Locates vector
        ((Shooting.ofHorizon reciprocal.horizon dynamics initial).derivativeChecking vector)
        (.evaluation .dynamics ⟨some 1, some 0, some 1⟩ [0] [0.25]) := by
  have computed : reciprocal.verdict = some (.dynamics, ⟨some 1, some 0, some 1⟩, [0], [0.25]) := by
    decide +kernel
  rw [reciprocal.verdict] at computed
  split at computed
  · cases computed
  · next transcription transcribed =>
    obtain ⟨dynamics, initial, -, -, transcribed⟩ := transcribe_eq_transcribeWith.mp transcribed
    obtain ⟨nlp, rfl, located⟩ := transcribeWith_locates transcribed
    split at computed
    · cases computed
    · next vector _ =>
      split at computed
      · next failed =>
        cases computed
        exact ⟨dynamics, initial, _, transcribed, vector, (located vector _).1 failed⟩
      · cases computed

end MultipleShooting
