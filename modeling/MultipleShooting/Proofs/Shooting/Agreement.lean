/-
**The shared evaluation and the separate functions.**

In any arithmetic:

* `MayAnswer`: what an operation on all intervals may come to. In their order the first failure is
  reported; where they are evaluated at the same time it may be that of any interval.
* `MayAnswer.eq_ok_iff`: whether the operation succeeds on all intervals, and its answers, do not
  depend on this;
* `NlpFunctions.AgreesAt`: an evaluation that succeeds has the answers of the separate functions,
  and it fails where objective or constraints do;
* `transcribeWith_agrees`: **the functions of a transcribed problem agree at every point**, however
  the intervals are evaluated.
-/
import MultipleShooting.Proofs.Shooting.Rollout

namespace MultipleShooting

variable {α β : Type} [Number α]

/-! ### Intervals evaluated at the same time -/

/-- What an operation on all intervals may come to: the answers in the order of the intervals or the
first failure, and where the intervals may be evaluated at the same time also any other failure. -/
inductive MayAnswer {n : Nat} (operation : (index : Nat) → index < n → Outcome α β) :
    (parallel : Bool) → Outcome α (Vector β n) → Prop
  | inOrder {parallel : Bool} : MayAnswer operation parallel (overIntervals n operation)
  | failure {index : Nat} {below : index < n} {failure : Failure α}
      (failed : operation index below = .error failure) :
      MayAnswer operation true (.error (failure.inInterval index))

omit [Number α] in
theorem overIntervals_eq_ok {n : Nat} {operation : (index : Nat) → index < n → Outcome α β}
    {answers : Vector β n} :
    overIntervals n operation = .ok answers ↔
      ∀ i : Fin n, operation i i.isLt = .ok (answers.get i) := by
  unfold overIntervals
  rw [collect_eq_ok]
  simp only [mapError_eq_ok]

omit [Number α] in
/-- **Success does not depend on the order** in which the intervals are evaluated, and neither do
the answers. -/
theorem MayAnswer.eq_ok_iff {n : Nat} {operation : (index : Nat) → index < n → Outcome α β}
    {parallel : Bool} {outcome : Outcome α (Vector β n)}
    (may : MayAnswer operation parallel outcome) (answers : Vector β n) :
    outcome = .ok answers ↔ overIntervals n operation = .ok answers := by
  cases may with
  | inOrder => exact Iff.rfl
  | @failure index below failure failed =>
    refine iff_of_false (fun same => by cases same) fun succeeded => ?_
    rw [overIntervals_eq_ok.mp succeeded ⟨index, below⟩] at failed
    cases failed

/-! ### Functions that agree -/

/-- **The functions of a program agree at a point**: an evaluation that succeeds has the answers of
the separate functions, and it fails where the objective or the constraints fail. -/
structure NlpFunctions.AgreesAt {n m : Nat} (functions : NlpFunctions α n m)
    (point : Vector α n) : Prop where
  objective : ∀ evaluation, functions.evaluate point = .ok evaluation →
    functions.objective point = .ok evaluation.objective
  constraints : ∀ evaluation, functions.evaluate point = .ok evaluation →
    functions.constraints point = .ok evaluation.constraints
  gradient : ∀ evaluation, functions.evaluate point = .ok evaluation →
    functions.gradient point = .ok evaluation.gradient
  jacobian : ∀ evaluation, functions.evaluate point = .ok evaluation →
    functions.jacobian point = .ok evaluation.jacobian
  fails : ∀ failure, functions.objective point = .error failure ∨
    functions.constraints point = .error failure →
    ∃ cause, functions.evaluate point = .error cause

omit [Number α] in
/-- Functions that share the answers of a successful evaluation fail to evaluate where one of them
fails. -/
theorem NlpFunctions.agreesAt_of_shared {n m : Nat} {functions : NlpFunctions α n m}
    {point : Vector α n}
    (shared : ∀ evaluation, functions.evaluate point = .ok evaluation →
      functions.objective point = .ok evaluation.objective ∧
      functions.constraints point = .ok evaluation.constraints ∧
      functions.gradient point = .ok evaluation.gradient ∧
      functions.jacobian point = .ok evaluation.jacobian) : functions.AgreesAt point where
  objective evaluation evaluated := (shared evaluation evaluated).1
  constraints evaluation evaluated := (shared evaluation evaluated).2.1
  gradient evaluation evaluated := (shared evaluation evaluated).2.2.1
  jacobian evaluation evaluated := (shared evaluation evaluated).2.2.2
  fails failure failed := by
    cases answer : functions.evaluate point with
    | error cause => exact ⟨cause, rfl⟩
    | ok evaluation =>
      obtain ⟨objective, constraints, -⟩ := shared evaluation answer
      rcases failed with failed | failed
      · rw [objective] at failed
        cases failed
      · rw [constraints] at failed
        cases failed

namespace Shooting

variable {layout : Layout} {shooting : Shooting α layout} {vector : Vector α layout.size}
  {pattern : Pattern shooting.rows.count layout.size}

/-- An evaluation that succeeds has the objective of the plain propagation. -/
theorem objective_of_evaluate {evaluation : Evaluation α layout.size shooting.rows.count}
    (evaluated : shooting.evaluate pattern vector = .ok evaluation) :
    shooting.objective vector = .ok evaluation.objective := by
  obtain ⟨ends, reached, -, objective⟩ := evaluate_ends evaluated
  exact objective_eq_ok.mpr ⟨ends, reached, objective.symm⟩

/-- An evaluation that succeeds has the constraints of the plain propagation. -/
theorem constraints_of_evaluate {evaluation : Evaluation α layout.size shooting.rows.count}
    (evaluated : shooting.evaluate pattern vector = .ok evaluation) :
    shooting.constraints vector = .ok evaluation.constraints := by
  obtain ⟨ends, reached, rows, -⟩ := evaluate_ends evaluated
  obtain ⟨-, -, finite, -, -⟩ := evaluate_eq_ok.mp evaluated
  exact constraints_eq_ok.mpr ⟨ends, reached, finite, rows⟩

/-- **The functions of a shooting problem agree.** -/
theorem functions_agreesAt (shooting : Shooting α layout)
    (pattern : Pattern shooting.rows.count layout.size) (vector : Vector α layout.size) :
    (shooting.functions pattern).AgreesAt vector := by
  refine NlpFunctions.agreesAt_of_shared fun evaluation evaluated => ?_
  refine ⟨objective_of_evaluate evaluated, constraints_of_evaluate evaluated, ?_, ?_⟩
  · exact map_eq_ok.mpr ⟨evaluation, evaluated, rfl⟩
  · exact map_eq_ok.mpr ⟨evaluation, evaluated, rfl⟩

/-! ### However the intervals are evaluated -/

/-- What the propagation of all intervals may come to. -/
def MayPropagate (shooting : Shooting α layout) (parallel : Bool) (vector : Vector α layout.size) :
    Outcome α (Vector (Propagated α layout.nx) layout.nk) → Prop :=
  MayAnswer (fun index below => shooting.interval.propagate (stateOf vector ⟨index, below⟩)
    (controlOf vector ⟨index, below⟩)) parallel

/-- What the propagation of all intervals with derivatives may come to. -/
def MayDifferentiate (shooting : Shooting α layout) (parallel : Bool)
    (vector : Vector α layout.size) :
    Outcome α (Vector (Differentiated α layout.nx layout.nu) layout.nk) → Prop :=
  MayAnswer (fun index below => shooting.interval.differentiate (stateOf vector ⟨index, below⟩)
    (controlOf vector ⟨index, below⟩)) parallel

/-- The objective, given what the propagation has come to. -/
def objectiveAfter (ends : Outcome α (Vector (Propagated α layout.nx) layout.nk)) : Outcome α α :=
  ends.map fun ends => totalCost (ends.map Propagated.cost)

/-- The constraints, given what the propagation has come to. -/
def constraintsAfter (shooting : Shooting α layout) (vector : Vector α layout.size)
    (ends : Outcome α (Vector (Propagated α layout.nx) layout.nk)) :
    Outcome α (Vector α shooting.rows.count) :=
  ends.bind fun ends => shooting.constraintsFrom vector (ends.map Propagated.state)

/-- The evaluation, given what the propagation with derivatives has come to. -/
def evaluationAfter (shooting : Shooting α layout)
    (pattern : Pattern shooting.rows.count layout.size) (vector : Vector α layout.size)
    (ends : Outcome α (Vector (Differentiated α layout.nx layout.nu) layout.nk)) :
    Outcome α (Evaluation α layout.size shooting.rows.count) := do
  let ends ← ends
  let constraints ← shooting.constraintsFrom vector (ends.map fun result => result.reached.state)
  let jacobian ← shooting.jacobianFrom pattern vector ends
  return {
    objective := totalCost (ends.map fun result => result.reached.cost)
    gradient := shooting.gradient ends
    constraints := constraints
    jacobian := jacobian }

/-- What calls of the functions may come to at a point, every call propagating the intervals
anew. -/
structure MayBeCalled (shooting : Shooting α layout)
    (pattern : Pattern shooting.rows.count layout.size) (parallel : Bool)
    (vector : Vector α layout.size)
    (called : NlpFunctions α layout.size shooting.rows.count) : Prop where
  objective : ∃ ends, shooting.MayPropagate parallel vector ends ∧
    called.objective vector = objectiveAfter ends
  constraints : ∃ ends, shooting.MayPropagate parallel vector ends ∧
    called.constraints vector = shooting.constraintsAfter vector ends
  gradient : ∃ ends, shooting.MayDifferentiate parallel vector ends ∧
    called.gradient vector = (shooting.evaluationAfter pattern vector ends).map Evaluation.gradient
  jacobian : ∃ ends, shooting.MayDifferentiate parallel vector ends ∧
    called.jacobian vector = (shooting.evaluationAfter pattern vector ends).map Evaluation.jacobian
  evaluate : ∃ ends, shooting.MayDifferentiate parallel vector ends ∧
    called.evaluate vector = shooting.evaluationAfter pattern vector ends

/-- The objective does not depend on how the intervals are propagated. -/
theorem MayPropagate.objective_iff {parallel : Bool}
    {ends : Outcome α (Vector (Propagated α layout.nx) layout.nk)}
    (may : shooting.MayPropagate parallel vector ends) (value : α) :
    objectiveAfter ends = .ok value ↔ shooting.objective vector = .ok value := by
  unfold objectiveAfter Shooting.objective propagateAll
  simp only [map_eq_ok, may.eq_ok_iff]

theorem constraints_eq_after (shooting : Shooting α layout) (vector : Vector α layout.size) :
    shooting.constraints vector =
      shooting.constraintsAfter vector (shooting.propagateAll vector) := by
  unfold Shooting.constraints constraintsAfter
  cases shooting.propagateAll vector <;> rfl

/-- The constraints do not depend on how the intervals are propagated. -/
theorem MayPropagate.constraints_iff {parallel : Bool}
    {ends : Outcome α (Vector (Propagated α layout.nx) layout.nk)}
    (may : shooting.MayPropagate parallel vector ends) (rows : Vector α shooting.rows.count) :
    shooting.constraintsAfter vector ends = .ok rows ↔ shooting.constraints vector = .ok rows := by
  rw [constraints_eq_after]
  exact bind_eq_ok.trans ((exists_congr fun answers =>
    and_congr_left fun _ => may.eq_ok_iff answers).trans bind_eq_ok.symm)

/-- The evaluation does not depend on how the intervals are propagated. -/
theorem MayDifferentiate.evaluate_iff {parallel : Bool}
    {ends : Outcome α (Vector (Differentiated α layout.nx layout.nu) layout.nk)}
    (may : shooting.MayDifferentiate parallel vector ends)
    (evaluation : Evaluation α layout.size shooting.rows.count) :
    shooting.evaluationAfter pattern vector ends = .ok evaluation ↔
      shooting.evaluate pattern vector = .ok evaluation :=
  bind_eq_ok.trans ((exists_congr fun answers =>
    and_congr_left fun _ => may.eq_ok_iff answers).trans bind_eq_ok.symm)

/-- The functions of a shooting problem are what calls in the order of the intervals come to. -/
theorem mayBeCalled_functions (shooting : Shooting α layout)
    (pattern : Pattern shooting.rows.count layout.size) (parallel : Bool)
    (vector : Vector α layout.size) :
    shooting.MayBeCalled pattern parallel vector (shooting.functions pattern) where
  objective := ⟨_, .inOrder, rfl⟩
  constraints := ⟨_, .inOrder, shooting.constraints_eq_after vector⟩
  gradient := ⟨_, .inOrder, rfl⟩
  jacobian := ⟨_, .inOrder, rfl⟩
  evaluate := ⟨_, .inOrder, rfl⟩

/-- **The functions agree however each call evaluates the intervals.** -/
theorem MayBeCalled.agreesAt {parallel : Bool}
    {called : NlpFunctions α layout.size shooting.rows.count}
    (may : shooting.MayBeCalled pattern parallel vector called) : called.AgreesAt vector := by
  obtain ⟨_, mayObjective, objective⟩ := may.objective
  obtain ⟨_, mayConstraints, constraints⟩ := may.constraints
  obtain ⟨_, mayGradient, gradient⟩ := may.gradient
  obtain ⟨_, mayJacobian, jacobian⟩ := may.jacobian
  obtain ⟨_, mayEvaluate, evaluate⟩ := may.evaluate
  refine NlpFunctions.agreesAt_of_shared fun evaluation evaluated => ?_
  have known : shooting.evaluate pattern vector = .ok evaluation :=
    (mayEvaluate.evaluate_iff evaluation).mp (evaluate.symm.trans evaluated)
  refine ⟨objective.trans ?_, constraints.trans ?_, gradient.trans ?_, jacobian.trans ?_⟩
  · exact (mayObjective.objective_iff _).mpr (objective_of_evaluate known)
  · exact (mayConstraints.constraints_iff _).mpr (constraints_of_evaluate known)
  · exact map_eq_ok.mpr ⟨evaluation, (mayGradient.evaluate_iff evaluation).mpr known, rfl⟩
  · exact map_eq_ok.mpr ⟨evaluation, (mayJacobian.evaluate_iff evaluation).mpr known, rfl⟩

end Shooting

/-- Whether intervals may be evaluated at the same time makes no other transcription. -/
theorem transcribeWith_parallel (horizon : Horizon α) (model : Model α) {nx nu nx' : Nat}
    (dynamics : Dynamics α nx nu) (initial : InitialCondition α nx') (parallel : Bool) :
    transcribeWith { horizon with parallel } model dynamics initial =
      transcribeWith horizon model dynamics initial := rfl

/-- **The shared evaluation of a transcribed problem agrees with the separate functions** at every
point and in any arithmetic: what evaluates has the answers of the four functions, and what has no
objective or no constraints does not evaluate. This holds of the functions in the order of the
intervals, of every single call that evaluates intervals at the same time, and of the transcription
over the same horizon with the other setting, which is the same one. -/
theorem transcribeWith_agrees {horizon : Horizon α} {model : Model α} {nx nu nx' : Nat}
    {dynamics : Dynamics α nx nu} {initial : InitialCondition α nx'}
    {transcription : Transcription α}
    (transcribed : transcribeWith horizon model dynamics initial = .ok transcription)
    (parallel : Bool) (vector : Vector α transcription.layout.size) :
    transcribeWith { horizon with parallel } model dynamics initial = .ok transcription ∧
      transcription.nlp.functions.AgreesAt vector ∧
      ∃ pattern, transcription.nlp.functions = transcription.shooting.functions pattern ∧
        ∀ called, transcription.shooting.MayBeCalled pattern parallel vector called →
          called.AgreesAt vector := by
  refine ⟨(transcribeWith_parallel horizon model dynamics initial parallel).trans transcribed, ?_⟩
  cases states_eq_of_transcribeWith transcribed
  obtain ⟨-, -, -, -, pattern, nlp, -, -, isOf, rfl⟩ := transcribeWith_eq_ok.mp transcribed
  refine ⟨?_, pattern, isOf.functions, fun called may => may.agreesAt⟩
  rw [isOf.functions]
  exact Shooting.functions_agreesAt _ pattern vector

/-- The functions of the integrator can be evaluated where it rolls out and agree there, also where
its two intervals are evaluated at the same time. -/
theorem transcribeWith_agrees_integrator : ∃ nlp,
    transcribeWith integrator.horizon integrator.model integrator.dynamics
      Shooting.growth.initial =
        .ok ⟨_, integrator.shooting, nlp, integrator.horizon.intervalDuration⟩ ∧
    (∃ evaluation, nlp.functions.evaluate integrator.vector = .ok evaluation) ∧
    nlp.functions.AgreesAt integrator.vector ∧
    ∃ pattern, ∀ called, integrator.shooting.MayBeCalled pattern true integrator.vector called →
      called.AgreesAt integrator.vector := by
  obtain ⟨nlp, transcribed⟩ := integrator.transcribed
  obtain ⟨-, agrees, pattern, same, together⟩ :=
    transcribeWith_agrees transcribed true integrator.vector
  refine ⟨nlp, transcribed, ?_, agrees, pattern, together⟩
  rw [same]
  exact ⟨_, integrator.shooting.evaluate_real pattern integrator.vector⟩

end MultipleShooting
