/-
**Shooting problems that are quadratic programs.**

Read over the real numbers, a shooting problem whose costs add up to a quadratic objective and whose
rows are affine is a quadratic program. Its derivatives are then those of the program, as soon as
the model functions come with theirs: both are the partial derivatives of the same functions.

* `QuadraticProgram.hasPartial_objective`, `QuadraticProgram.hasPartial_constraints`: the partial
  derivatives of a quadratic program;
* `Nlp.IsOf.evaluatesTo`: **the transcribed problem can be evaluated everywhere**, with the values
  and the derivatives of the quadratic program;
* `transcribe_polynomial`: a polynomial model is transcribed into such a problem.
-/
import MultipleShooting.Proofs.Model.Polynomial
import MultipleShooting.Proofs.Shooting.Transcription
import MultipleShooting.Proofs.Sqp.Quadratic

namespace MultipleShooting

open Matrix

variable {n m : Nat}

/-! ### Partial derivatives of a quadratic program -/

/-- A vector with one component set anew is that vector after a step along the component. -/
theorem get_set_single (point : Vector ℝ n) (i : Fin n) (value : ℝ) :
    (point.set i value i.isLt).get = point.get + Pi.single i (value - point.get i) := by
  funext j
  rw [get_set, Pi.add_apply]
  by_cases same : i = j
  · rw [if_pos (congrArg Fin.val same), same, Pi.single_eq_same, add_sub_cancel]
  · rw [if_neg (mt Fin.ext same), Pi.single_eq_of_ne (Ne.symm same), add_zero]

namespace QuadraticProgram

variable {program : QuadraticProgram n m}

theorem hasPartial_objective (symmetric : program.curvature.IsSymm) (point : Vector ℝ n)
    (i : Fin n) : HasPartial (fun vector => program.objective vector.get) i
      (program.gradient point.get i) point := by
  have line : HasDerivAt (fun value => value - point.get i) 1 (point.get i) :=
    (hasDerivAt_id _).sub_const _
  unfold HasPartial
  simp only [get_set_single, objective_add symmetric, dotProduct_single, single_dotProduct,
    mulVec_single, Pi.smul_apply, MulOpposite.smul_eq_mul_unop, MulOpposite.unop_op, col_apply]
  refine (((line.const_mul _).const_add _).add
    ((line.mul (line.const_mul _)).const_mul _)).congr_deriv ?_
  simp

theorem hasPartial_constraints (point : Vector ℝ n) (r : Fin m) (i : Fin n) :
    HasPartial (fun vector => program.constraints vector.get r) i (program.rows r i) point := by
  have line : HasDerivAt (fun value => value - point.get i) 1 (point.get i) :=
    (hasDerivAt_id _).sub_const _
  unfold HasPartial
  simp only [get_set_single, constraints_add, Pi.add_apply, mulVec_single, Pi.smul_apply,
    MulOpposite.smul_eq_mul_unop, MulOpposite.unop_op, col_apply]
  refine ((line.const_mul _).const_add _).congr_deriv ?_
  simp

end QuadraticProgram

/-! ### Shooting problems -/

variable {layout : Layout} {shooting : Shooting ℝ layout}

/-- The costs of the intervals add up to the objective of a quadratic program, and the rows are its
constraints. -/
structure Shooting.IsQuadratic (shooting : Shooting ℝ layout)
    (program : QuadraticProgram layout.size shooting.rows.count) : Prop where
  objective : ∀ vector : Vector ℝ layout.size,
    totalCost ((shooting.endsOf vector).map Propagated.cost) = program.objective vector.get
  rows : ∀ vector : Vector ℝ layout.size,
    (shooting.constraintsAt vector ((shooting.endsOf vector).map Propagated.state)).get =
      program.constraints vector.get

/-- **The program of a quadratic shooting problem** can be evaluated everywhere, with the values and
the derivatives of the quadratic program. -/
theorem Nlp.IsOf.evaluatesTo {model : Model ℝ} {nlp : Nlp ℝ layout.size shooting.rows.count}
    (isOf : nlp.IsOf model shooting (Pattern.ofPlaces _ _ shooting.places))
    (dynamics : shooting.interval.dynamics.IsDifferentiated)
    (initial : shooting.initial.IsDifferentiated)
    {program : QuadraticProgram layout.size shooting.rows.count}
    (symmetric : program.curvature.IsSymm) (quadratic : shooting.IsQuadratic program) :
    Sqp.EvaluatesTo nlp program := by
  intro vector
  have evaluated := shooting.evaluate_real (Pattern.ofPlaces _ _ shooting.places) vector
  have derives := Shooting.hasDerivatives_evaluationAt dynamics initial vector
  obtain ⟨objective, rows⟩ :=
    shooting.evaluationAt_values (Pattern.ofPlaces _ _ shooting.places) vector
  rw [isOf.functions]
  refine ⟨_, evaluated, objective.trans (quadratic.objective vector), ?_, ?_, ?_⟩
  · funext column
    have slope := derives.gradient column
    simp only [quadratic.objective] at slope
    exact HasDerivAt.unique slope
      (QuadraticProgram.hasPartial_objective symmetric vector column)
  · ext row column
    have slope := derives.jacobian row column
    simp only [quadratic.rows] at slope
    exact HasDerivAt.unique slope
      (QuadraticProgram.hasPartial_constraints vector row column)
  · funext row
    refine (Column.get_sub _ _ row).trans ?_
    have same := (congrArg Vector.get rows).trans (quadratic.rows vector)
    exact congrArg (· - _) (congrFun same row)

/-- **A polynomial model is transcribed** over a valid horizon, and where its costs and rows are
those of a quadratic program, so is everything that the solver is told. -/
theorem transcribe_polynomial {horizon : Horizon ℝ} {model : Model ℝ}
    (consistent : model.IsConsistent) (plain : ∀ name ∈ model.arguments, IsPlain name)
    (polynomial : model.IsPolynomial) (valid : horizon.validate = .ok ()) :
    ∃ dynamics initial nlp, Dynamics.ofModel model = .ok dynamics ∧
      InitialCondition.ofModel model = .ok initial ∧
      transcribe horizon model = .ok ⟨⟨model.stateCount, model.controlCount, horizon.intervals⟩,
        Shooting.ofHorizon horizon dynamics initial, nlp, horizon.intervalDuration⟩ ∧
      nlp.IsOf model (Shooting.ofHorizon horizon dynamics initial) (Pattern.ofPlaces _ _
        (Shooting.ofHorizon horizon dynamics initial).places) ∧
      ∀ program : QuadraticProgram _ _, program.curvature.IsSymm →
        (Shooting.ofHorizon horizon dynamics initial).IsQuadratic program →
          Sqp.EvaluatesTo nlp program := by
  obtain ⟨functions, succeeded⟩ := CompiledDynamics.ofModel_of_isConsistent consistent
  obtain ⟨initial, compiledInitial⟩ := InitialCondition.ofModel_of_isConsistent consistent
  have compiled : Dynamics.ofModel model = .ok functions.toDynamics :=
    map_eq_ok.mpr ⟨functions, succeeded, rfl⟩
  have rowMajor := InitialCondition.isRowMajor_pattern compiledInitial
  obtain ⟨nlp, transcribed⟩ := transcribeWith_real functions.toDynamics initial consistent valid
    rfl rfl rowMajor
  obtain ⟨-, -, -, -, pattern, _, -, patterned, isOf, same⟩ := transcribeWith_eq_ok.mp transcribed
  cases same
  cases patterned.symm.trans
    (Pattern.ofPlaces?_of_isRowMajor (Shooting.isRowMajor_places rowMajor))
  refine ⟨functions.toDynamics, initial, nlp, compiled, compiledInitial,
    transcribe_eq_transcribeWith.mpr ⟨_, _, compiled, compiledInitial, transcribed⟩, isOf, ?_⟩
  intro program symmetric quadratic
  exact isOf.evaluatesTo
    (Dynamics.isDifferentiated_of_isPolynomial consistent plain polynomial compiled)
    (InitialCondition.isDifferentiated_of_isPolynomial consistent polynomial compiledInitial)
    symmetric quadratic

end MultipleShooting
