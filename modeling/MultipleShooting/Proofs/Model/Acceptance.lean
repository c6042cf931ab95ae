/-
**Acceptance of models with bounds given as doubles.**

A model's bounds may be given as doubles, infinities and NaNs among them (`Model.withBounds`).

* `Model.IsAcceptable`: lengths, names, variables, bounds and guesses fit together;
* `Model.validate_withBounds`: **the acceptable models are those that are accepted**, any other is
  refused with a failure of its configuration, and every accepted model has its functions.

The functions are compiled expressions: those of the initial condition compile as soon as the model
is consistent (`InitialCondition.ofModel_of_isConsistent`), and the pattern of its Jacobian lists
places row by row (`InitialCondition.isRowMajor_pattern`).
-/
import MultipleShooting.Proofs.Bound.Double
import MultipleShooting.Proofs.Model.Dynamics

namespace MultipleShooting

/-! ### The initial condition of a model -/

namespace InitialCondition

variable {α : Type} [Number α] {model : Model α} {initial : InitialCondition α model.stateCount}

/-- What it takes for the initial condition of a model to compile. -/
theorem ofModel_eq_ok : ofModel model = .ok initial ↔ ∃ residual jacobian,
    Expr.compileAll model.stateVector model.initial = .ok residual ∧
      SparseFunction.ofFunctions model.stateVector model.initial model.states = .ok jacobian ∧
      initial = ⟨model.initial.length, valuesAt residual model.initial.length,
        jacobian.dense model.initial.length model.stateCount, jacobian.pattern⟩ := by
  simp only [ofModel, bind_eq_ok, CompiledDynamics.compiledAs_eq_ok, pure, Except.pure,
    Except.ok.injEq]
  constructor
  · rintro ⟨residual, compiledResidual, jacobian, compiledJacobian, rfl⟩
    exact ⟨residual, jacobian, compiledResidual, compiledJacobian, rfl⟩
  · rintro ⟨residual, jacobian, compiledResidual, compiledJacobian, rfl⟩
    exact ⟨residual, compiledResidual, jacobian, compiledJacobian, rfl⟩

/-- **The initial condition of a consistent model compiles.** -/
theorem ofModel_of_isConsistent (consistent : model.IsConsistent) :
    ∃ initial, ofModel model = .ok initial := by
  have known : ∀ function ∈ model.initial, function.KnownIn model.stateVector.toList :=
    consistent.initial_known
  obtain ⟨residual, compiledResidual⟩ := Expr.compileAll_of_knownIn known
  obtain ⟨jacobian, compiledJacobian⟩ : ∃ jacobian,
      SparseFunction.ofFunctions model.stateVector model.initial model.states = .ok jacobian :=
    SparseFunction.ofFunctions_of_knownIn known
  exact ⟨_, ofModel_eq_ok.mpr ⟨residual, jacobian, compiledResidual, compiledJacobian, rfl⟩⟩

theorem count_of_ofModel (succeeded : ofModel model = .ok initial) :
    initial.count = model.initial.length := by
  obtain ⟨_, _, -, -, rfl⟩ := ofModel_eq_ok.mp succeeded
  rfl

/-- **The pattern of the Jacobian** lists places row by row. -/
theorem isRowMajor_pattern (succeeded : ofModel model = .ok initial) :
    IsRowMajor initial.count model.stateCount initial.pattern := by
  obtain ⟨_, jacobian, -, compiledJacobian, rfl⟩ := ofModel_eq_ok.mp succeeded
  exact (SparseFunction.isJacobian_of_ofFunctions compiledJacobian).rowMajor

end InitialCondition

namespace Model

/-! ### Refusals -/

/-- **A model is refused** for a fault of its configuration only. -/
theorem isConfiguration_of_validate {α : Type} [Number α] {model : Model α} {failure : Failure α}
    (refused : model.validate = .error failure) : failure.isConfiguration = true := by
  have fault : model.fault? = some failure := by
    unfold validate at refused
    cases found : model.fault? with
    | none =>
      rw [found] at refused
      cases refused
    | some other =>
      rw [found] at refused
      cases refused
      rfl
  unfold fault? at fault
  split_ifs at fault
  · cases fault
    rfl
  · rcases Option.or_eq_some_iff.mp fault with length | ⟨-, other⟩
    · obtain ⟨⟨what, expected, found⟩, -, differ⟩ := List.exists_of_findSome?_eq_some length
      dsimp only at differ
      split_ifs at differ
      cases differ
      rfl
    · obtain ⟨_, -, rfl⟩ := Option.map_eq_some_iff.mp other
      rfl

/-! ### Bounds given as doubles -/

/-- The bounds of a model's variables as doubles. -/
structure DoubleBounds where
  stateLower : List Float
  stateUpper : List Float
  controlLower : List Float
  controlUpper : List Float

variable {model : Model Float} {bounds : DoubleBounds}

/-- The model with bounds given as doubles. -/
def withBounds (model : Model Float) (bounds : DoubleBounds) : Model Float :=
  { model with
    stateLower := bounds.stateLower.map Bound.ofNumber
    stateUpper := bounds.stateUpper.map Bound.ofNumber
    controlLower := bounds.controlLower.map Bound.ofNumber
    controlUpper := bounds.controlUpper.map Bound.ofNumber }

/-- At every position the bounds are numbers in their order and the guess is an ordinary number. -/
def InOrder (lower upper guess : List Float) : Prop :=
  ∀ (i : Nat) (least most value : Float), lower[i]? = some least → upper[i]? = some most →
    guess[i]? = some value → Number.isNaN least = false ∧ Number.isNaN most = false ∧
      least ≤ most ∧ Number.isFinite value = true

theorem mem_boxes {kind : VariableKind} {names : List String} {lower upper : List (Bound Float)}
    {guess : List Float} {box : Box Float} :
    box ∈ boxes kind names lower upper guess ↔ ∃ i : Nat, names[i]? = some box.name ∧
      lower[i]? = some box.lower ∧ upper[i]? = some box.upper ∧ guess[i]? = some box.guess ∧
        kind = box.kind := by
  unfold boxes
  constructor
  · intro among
    obtain ⟨⟨name, low, high, value⟩, listed, rfl⟩ := List.mem_map.mp among
    obtain ⟨i, found⟩ := List.mem_iff_getElem?.mp listed
    obtain ⟨named, rest⟩ := List.getElem?_zip_eq_some.mp found
    obtain ⟨below, rest⟩ := List.getElem?_zip_eq_some.mp rest
    obtain ⟨above, guessed⟩ := List.getElem?_zip_eq_some.mp rest
    exact ⟨i, named, below, above, guessed, rfl⟩
  · rintro ⟨i, named, below, above, guessed, rfl⟩
    refine List.mem_map.mpr ⟨(box.name, box.lower, box.upper, box.guess), ?_, rfl⟩
    refine List.mem_iff_getElem?.mpr ⟨i, ?_⟩
    exact List.getElem?_zip_eq_some.mpr ⟨named, List.getElem?_zip_eq_some.mpr
      ⟨below, List.getElem?_zip_eq_some.mpr ⟨above, guessed⟩⟩⟩

/-- The variables of one kind fit when their bounds and guesses do at every position. -/
theorem forall_boxes_ofNumber {kind : VariableKind} {names : List String}
    {lower upper guess : List Float} (complete : names.length = guess.length) :
    (∀ box ∈ boxes kind names (lower.map Bound.ofNumber) (upper.map Bound.ofNumber) guess,
        Fits box.lower box.upper box.guess) ↔ InOrder lower upper guess := by
  constructor
  · intro every i least most value below above guessed
    have inside : i < names.length := by
      rw [complete]
      exact (List.getElem?_eq_some_iff.mp guessed).1
    obtain ⟨apart, finite⟩ := every
      ⟨kind, names[i], Bound.ofNumber least, Bound.ofNumber most, value⟩
      (mem_boxes.mpr ⟨i, List.getElem?_eq_getElem inside, by rw [List.getElem?_map, below]; rfl,
        by rw [List.getElem?_map, above]; rfl, guessed, rfl⟩)
    obtain ⟨lowerNumber, upperNumber, ordered⟩ := Bound.crossed_ofNumber.mp apart
    exact ⟨lowerNumber, upperNumber, ordered, finite⟩
  · intro ordered box among
    obtain ⟨i, -, below, above, guessed, -⟩ := mem_boxes.mp among
    rw [List.getElem?_map, Option.map_eq_some_iff] at below above
    obtain ⟨least, below, lower_eq⟩ := below
    obtain ⟨most, above, upper_eq⟩ := above
    obtain ⟨lowerNumber, upperNumber, ordered, finite⟩ :=
      ordered i least most box.guess below above guessed
    rw [← lower_eq, ← upper_eq]
    exact ⟨Bound.crossed_ofNumber.mpr ⟨lowerNumber, upperNumber, ordered⟩, finite⟩

/-! ### Acceptance -/

/-- A model whose parts fit together, its bounds being given as doubles: there is a state, every
list has one element for each state or control, names are given and distinct, no expression has a
foreign variable, bounds are numbers in their order and guesses are ordinary numbers. -/
structure IsAcceptable (model : Model Float) (bounds : DoubleBounds) : Prop where
  states : 1 ≤ model.states.length
  dynamics_length : model.dynamics.length = model.states.length
  stateLower_length : bounds.stateLower.length = model.states.length
  stateUpper_length : bounds.stateUpper.length = model.states.length
  stateGuess_length : model.stateGuess.length = model.states.length
  controlLower_length : bounds.controlLower.length = model.controls.length
  controlUpper_length : bounds.controlUpper.length = model.controls.length
  controlGuess_length : model.controlGuess.length = model.controls.length
  named : ∀ name ∈ model.states ++ model.controls, name ≠ ""
  distinct : (model.states ++ model.controls).Nodup
  initial_known : ∀ expr ∈ model.initial, ∀ name, expr.mentions name = true → name ∈ model.states
  dynamics_known : ∀ expr ∈ model.dynamics, ∀ name, expr.mentions name = true →
    name ∈ model.states ∨ name ∈ model.controls
  cost_known : ∀ name, model.cost.mentions name = true →
    name ∈ model.states ∨ name ∈ model.controls
  states_fit : InOrder bounds.stateLower bounds.stateUpper model.stateGuess
  controls_fit : InOrder bounds.controlLower bounds.controlUpper model.controlGuess

theorem forall_allBoxes_withBounds (states : model.states.length = model.stateGuess.length)
    (controls : model.controls.length = model.controlGuess.length) :
    (∀ box ∈ (model.withBounds bounds).allBoxes, Fits box.lower box.upper box.guess) ↔
      InOrder bounds.stateLower bounds.stateUpper model.stateGuess ∧
        InOrder bounds.controlLower bounds.controlUpper model.controlGuess :=
  List.forall_mem_append.trans
    (and_congr (forall_boxes_ofNumber states) (forall_boxes_ofNumber controls))

theorem isConsistent_withBounds :
    (model.withBounds bounds).IsConsistent ↔ model.IsAcceptable bounds := by
  constructor
  · rintro ⟨states, dynamics, stateLower, stateUpper, stateGuess, controlLower, controlUpper,
      controlGuess, named, distinct, initialKnown, dynamicsKnown, costKnown, fit⟩
    obtain ⟨statesFit, controlsFit⟩ :=
      (forall_allBoxes_withBounds stateGuess controlGuess).mp fit
    refine ⟨states, dynamics.symm, ?_, ?_, stateGuess.symm, ?_, ?_, controlGuess.symm, named,
      distinct, initialKnown, fun expr among name occurs => ?_, fun name occurs => ?_, statesFit,
      controlsFit⟩
    · exact (List.length_map ..).symm.trans stateLower.symm
    · exact (List.length_map ..).symm.trans stateUpper.symm
    · exact (List.length_map ..).symm.trans controlLower.symm
    · exact (List.length_map ..).symm.trans controlUpper.symm
    · exact List.mem_append.mp (dynamicsKnown expr among name occurs)
    · exact List.mem_append.mp (costKnown name occurs)
  · intro acceptable
    refine ⟨acceptable.states, acceptable.dynamics_length.symm, ?_, ?_,
      acceptable.stateGuess_length.symm, ?_, ?_, acceptable.controlGuess_length.symm,
      acceptable.named, acceptable.distinct, acceptable.initial_known,
      fun expr among name occurs => ?_, fun name occurs => ?_, ?_⟩
    · exact acceptable.stateLower_length.symm.trans (List.length_map ..).symm
    · exact acceptable.stateUpper_length.symm.trans (List.length_map ..).symm
    · exact acceptable.controlLower_length.symm.trans (List.length_map ..).symm
    · exact acceptable.controlUpper_length.symm.trans (List.length_map ..).symm
    · exact List.mem_append.mpr (acceptable.dynamics_known expr among name occurs)
    · exact List.mem_append.mpr (acceptable.cost_known name occurs)
    · exact (forall_allBoxes_withBounds acceptable.stateGuess_length.symm
        acceptable.controlGuess_length.symm).mpr ⟨acceptable.states_fit, acceptable.controls_fit⟩

/-- **The acceptable models are those that are accepted**, any other being refused for its
configuration, and every accepted model has its dynamics and its initial condition. -/
theorem validate_withBounds (model : Model Float) (bounds : DoubleBounds) :
    ((model.withBounds bounds).validate = .ok () ↔ model.IsAcceptable bounds) ∧
      (∀ failure, (model.withBounds bounds).validate = .error failure →
        failure.isConfiguration = true) ∧
      ((model.withBounds bounds).validate = .ok () →
        (∃ dynamics, Dynamics.ofModel (model.withBounds bounds) = .ok dynamics) ∧
          ∃ initial, InitialCondition.ofModel (model.withBounds bounds) = .ok initial) := by
  refine ⟨validate_eq_ok.trans isConsistent_withBounds,
    fun failure refused => isConfiguration_of_validate refused, fun accepted => ?_⟩
  have consistent := validate_eq_ok.mp accepted
  obtain ⟨compiled, succeeded⟩ := CompiledDynamics.ofModel_of_isConsistent consistent
  exact ⟨⟨compiled.toDynamics, map_eq_ok.mpr ⟨compiled, succeeded, rfl⟩⟩,
    InitialCondition.ofModel_of_isConsistent consistent⟩

/-- States of which the second is not negative, and a control between the given doubles. -/
def controlBetween (least most : Float) : DoubleBounds where
  stateLower := [-(1.0 / 0.0), 0.0]
  stateUpper := [1.0 / 0.0, 1.0 / 0.0]
  controlLower := [least]
  controlUpper := [most]

/-- A control may lie between minus one and one, but not the other way round. -/
theorem validate_withBounds_product :
    (CompiledDynamics.product "y").IsAcceptable (controlBetween (-1.0) 1.0) ∧
      (∃ dynamics, Dynamics.ofModel
        ((CompiledDynamics.product "y").withBounds (controlBetween (-1.0) 1.0)) = .ok dynamics) ∧
      ¬ (CompiledDynamics.product "y").IsAcceptable (controlBetween 1.0 (-1.0)) := by
  have within := validate_withBounds (CompiledDynamics.product "y") (controlBetween (-1.0) 1.0)
  have crossed := validate_withBounds (CompiledDynamics.product "y") (controlBetween 1.0 (-1.0))
  refine ⟨within.1.mp rfl, (within.2.2 rfl).1, fun acceptable => ?_⟩
  cases crossed.1.mpr acceptable

end Model

end MultipleShooting
