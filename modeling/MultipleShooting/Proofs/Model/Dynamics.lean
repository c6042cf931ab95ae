/-
**Compiled dynamics.**

A consistent model compiles (`CompiledDynamics.ofModel_of_isConsistent`), with a Jacobian and a
gradient whose columns belong to the names by which the model is differentiated
(`CompiledDynamics.columns_of_ofModel`). These names are read from a list with commas, so they are
the states and controls exactly when all of those are plain (`Model.derivativeNames_eq_iff`):

* `CompiledDynamics.Differentiates`: the columns are the derivatives by the states and controls;
* `CompiledDynamics.accepted_differentiates_iff`: **every accepted model with given names has such
  columns exactly when the names are plain**.
-/
import MultipleShooting.Model.Dynamics
import MultipleShooting.Number.Double
import MultipleShooting.Proofs.Expr.Jacobian
import MultipleShooting.Proofs.Expr.Symbols
import MultipleShooting.Proofs.Model.Validation

namespace MultipleShooting

variable {α : Type} [Number α] {model : Model α}

/-! ### Names -/

omit [Number α] in
/-- **A model is differentiated by its arguments** exactly when all of them are plain. -/
theorem Model.derivativeNames_eq_iff (named : ∀ name ∈ model.arguments, name ≠ "") :
    model.derivativeNames = model.arguments ↔ ∀ name ∈ model.arguments, IsPlain name :=
  symbolNames_intercalate_iff named

omit [Number α] in
theorem Model.length_arguments : model.arguments.length = model.stateCount + model.controlCount :=
  List.length_append

omit [Number α] in
theorem Model.getElem?_arguments (j : Fin (model.stateCount + model.controlCount)) :
    model.arguments[j.val]? = some (model.argumentVector.get j) := by
  have inside : j.val < model.arguments.length := j.isLt.trans_eq Model.length_arguments.symm
  exact List.getElem?_eq_getElem inside

namespace CompiledDynamics

/-! ### Compilation -/

omit [Number α] in
theorem compiledAs_eq_ok {β : Type} {what : String} {outcome : Except UnknownVariable β}
    {answer : β} : (compiledAs what outcome : Outcome α β) = .ok answer ↔ outcome = .ok answer := by
  cases outcome <;> simp [compiledAs]

/-- What it takes for the expressions of a model to compile. -/
theorem ofModel_eq_ok {compiled : CompiledDynamics α (model.stateCount + model.controlCount)} :
    ofModel model = .ok compiled ↔
      Expr.compileAll model.argumentVector model.dynamics = .ok compiled.rates ∧
      SparseFunction.ofFunctions model.argumentVector model.dynamics model.derivativeNames =
        .ok compiled.jacobian ∧
      model.cost.compile model.argumentVector = .ok compiled.cost ∧
      Expr.compileAll model.argumentVector (Expr.jacobianRow model.derivativeNames model.cost) =
        .ok compiled.gradient := by
  simp only [ofModel, bind_eq_ok, compiledAs_eq_ok, pure, Except.pure, Except.ok.injEq]
  constructor
  · rintro ⟨rates, compiledRates, jacobian, compiledJacobian, cost, compiledCost, gradient,
      compiledGradient, rfl⟩
    exact ⟨compiledRates, compiledJacobian, compiledCost, compiledGradient⟩
  · rintro ⟨compiledRates, compiledJacobian, compiledCost, compiledGradient⟩
    exact ⟨_, compiledRates, _, compiledJacobian, _, compiledCost, _, compiledGradient, rfl⟩

/-- **A consistent model compiles.** -/
theorem ofModel_of_isConsistent (consistent : model.IsConsistent) :
    ∃ compiled, ofModel model = .ok compiled := by
  have rates : ∀ rate ∈ model.dynamics, rate.KnownIn model.argumentVector.toList :=
    consistent.dynamics_known
  have cost : model.cost.KnownIn model.argumentVector.toList := consistent.cost_known
  have cells : ∀ cell ∈ Expr.jacobianRow model.derivativeNames model.cost,
      cell.KnownIn model.argumentVector.toList := by
    intro cell among
    obtain ⟨name, -, rfl⟩ := List.mem_map.mp among
    exact cost.cell name
  obtain ⟨_, compiledRates⟩ := Expr.compileAll_of_knownIn rates
  obtain ⟨_, compiledJacobian⟩ := SparseFunction.ofFunctions_of_knownIn rates
  obtain ⟨_, compiledCost⟩ := cost.compile
  obtain ⟨_, compiledGradient⟩ := Expr.compileAll_of_knownIn cells
  exact ⟨⟨_, _, _, _⟩,
    ofModel_eq_ok.mpr ⟨compiledRates, compiledJacobian, compiledCost, compiledGradient⟩⟩

/-- **The columns belong to the names** by which the model is differentiated. -/
theorem columns_of_ofModel
    {compiled : CompiledDynamics α (model.stateCount + model.controlCount)}
    (succeeded : ofModel model = .ok compiled) :
    compiled.jacobian.IsJacobian model.argumentVector model.dynamics model.derivativeNames ∧
      List.Forall₂ (fun name component =>
        (model.cost.cell name).compile model.argumentVector = .ok component)
        model.derivativeNames compiled.gradient := by
  obtain ⟨-, compiledJacobian, -, compiledGradient⟩ := ofModel_eq_ok.mp succeeded
  refine ⟨SparseFunction.isJacobian_of_ofFunctions compiledJacobian, ?_⟩
  rw [← List.forall₂_map_left_iff (f := model.cost.cell)
    (R := fun cell component => cell.compile model.argumentVector = .ok component)]
  exact Expr.compileAll_eq_ok.mp compiledGradient

/-! ### Derivatives by the arguments -/

/-- Jacobian and gradient have one column for each state and control, all their entries stand in
these columns, and a column has the compiled simplified derivatives by its state or control, those
that are the constant zero being left out. -/
structure Differentiates (model : Model α)
    (compiled : CompiledDynamics α (model.stateCount + model.controlCount)) : Prop where
  rows : compiled.jacobian.rows = model.stateCount
  columns : compiled.jacobian.columns = model.stateCount + model.controlCount
  inside : ∀ entry ∈ compiled.jacobian.entries,
    entry.row < model.stateCount ∧ entry.column < model.stateCount + model.controlCount
  column : ∀ (i : Fin model.stateCount) (j : Fin (model.stateCount + model.controlCount)),
    ∃ rate derivative, model.dynamics[i.val]? = some rate ∧
      (rate.cell (model.argumentVector.get j)).compile model.argumentVector = .ok derivative ∧
      ∀ values, ((compiled.jacobian.dense model.stateCount
        (model.stateCount + model.controlCount) values).get i).get j =
          if (rate.cell (model.argumentVector.get j)).isZero then 0 else derivative values
  components : compiled.gradient.length = model.stateCount + model.controlCount
  component : ∀ j : Fin (model.stateCount + model.controlCount), ∃ derivative,
    (model.cost.cell (model.argumentVector.get j)).compile model.argumentVector = .ok derivative ∧
      compiled.gradient[j.val]? = some derivative

/-- A consistent model with plain names is differentiated by its states and controls. -/
theorem differentiates_of_isPlain (consistent : model.IsConsistent)
    (plain : ∀ name ∈ model.arguments, IsPlain name)
    {compiled : CompiledDynamics α (model.stateCount + model.controlCount)}
    (succeeded : ofModel model = .ok compiled) : compiled.Differentiates model := by
  obtain ⟨jacobian, gradient⟩ := columns_of_ofModel succeeded
  rw [(Model.derivativeNames_eq_iff consistent.named).mpr plain] at jacobian gradient
  have components := gradient.length_eq.symm.trans Model.length_arguments
  refine ⟨jacobian.rows.trans consistent.dynamics_length.symm,
    jacobian.columns.trans Model.length_arguments, fun entry among => ?_, fun i j => ?_, components,
    fun j => ?_⟩
  · have inside := jacobian.rowMajor.inside entry.place (List.mem_map_of_mem among)
    rwa [← consistent.dynamics_length, Model.length_arguments] at inside
  · have below : i.val < model.dynamics.length := consistent.dynamics_length ▸ i.isLt
    obtain ⟨derivative, compiledCell, value⟩ := jacobian.cells i j _ _
      (List.getElem?_eq_getElem below) (Model.getElem?_arguments j)
    exact ⟨_, derivative, List.getElem?_eq_getElem below, compiledCell, value⟩
  · have below : j.val < compiled.gradient.length := j.isLt.trans_eq components.symm
    have belowNames : j.val < model.arguments.length :=
      j.isLt.trans_eq Model.length_arguments.symm
    exact ⟨_, gradient.get belowNames below, List.getElem?_eq_getElem below⟩

/-- The derivative of a variable is one by its own name and zero by any other. -/
theorem compile_cell_var {n : Nat} {arguments : Vector String n} (name other : String) :
    ((Expr.var (α := α) name).cell other).compile arguments =
      .ok fun _ => if name = other then 1 else 0 := by
  by_cases same : name = other
  · simp only [Expr.cell, Expr.mentions, Expr.derivative, same, beq_self_eq_true, if_true]
    rfl
  · simp only [Expr.cell, Expr.mentions, same, beq_eq_false_iff_ne.mpr same, Bool.false_eq_true,
      if_false]
    rfl

/-- With the variable of an argument as cost a consistent model remains one. -/
theorem isConsistent_variable (consistent : model.IsConsistent) {name : String}
    (among : name ∈ model.arguments) : Model.IsConsistent { model with cost := .var name } :=
  { consistent with cost_known := Expr.knownIn_var among }

/-- Names by which every model is differentiated are read back. -/
theorem derivativeNames_eq_of_forall (one : (1 : α) ≠ 0) (consistent : model.IsConsistent)
    (every : ∀ other : Model α, other.states = model.states → other.controls = model.controls →
      other.validate = .ok () →
        ∃ compiled, ofModel other = .ok compiled ∧ compiled.Differentiates other) :
    model.derivativeNames = model.arguments := by
  have complete : model.derivativeNames.length = model.arguments.length := by
    obtain ⟨compiled, succeeded, differentiates⟩ :=
      every model rfl rfl (Model.validate_eq_ok.mpr consistent)
    rw [(columns_of_ofModel succeeded).2.length_eq, differentiates.components,
      Model.length_arguments]
  refine List.ext_getElem complete fun j belowNames below => ?_
  -- The cost is the argument itself, whose derivative is one in its own column only.
  have consistentOther := isConsistent_variable consistent (List.getElem_mem below)
  obtain ⟨compiled, succeeded, differentiates⟩ :=
    every { model with cost := .var model.arguments[j] } rfl rfl
      (Model.validate_eq_ok.mpr consistentOther)
  obtain ⟨derivative, compiledCell, found⟩ :=
    differentiates.component ⟨j, below.trans_eq Model.length_arguments⟩
  have gradient := (columns_of_ofModel succeeded).2
  have belowGradient : j < compiled.gradient.length := gradient.length_eq ▸ belowNames
  have byRead := gradient.get belowNames belowGradient
  rw [compile_cell_var] at byRead compiledCell
  rw [List.getElem?_eq_getElem belowGradient] at found
  have both := ((Except.ok.inj byRead).trans (Option.some.inj found)).trans
    (Except.ok.inj compiledCell).symm
  by_contra differ
  have here := congrFun both (Column.zero _)
  exact one ((if_pos rfl).symm.trans (here.symm.trans (if_neg fun same => differ same.symm)))

/-- **The columns belong to the states and controls of every accepted model** with given names
exactly when all of these are plain. A name with a comma or with a blank at its end is read
differently, and then the cost that has this name alone is differentiated by another one. -/
theorem accepted_differentiates_iff (one : (1 : α) ≠ 0) (valid : model.validate = .ok ()) :
    (∀ other : Model α, other.states = model.states → other.controls = model.controls →
      other.validate = .ok () →
        ∃ compiled, ofModel other = .ok compiled ∧ compiled.Differentiates other) ↔
      ∀ name ∈ model.arguments, IsPlain name := by
  have consistent := Model.validate_eq_ok.mp valid
  constructor
  · intro every
    rw [← Model.derivativeNames_eq_iff consistent.named]
    exact derivativeNames_eq_of_forall one consistent every
  · intro plain other sameStates sameControls validOther
    have consistentOther := Model.validate_eq_ok.mp validOther
    have sameArguments : other.arguments = model.arguments := by
      rw [Model.arguments, sameStates, sameControls, Model.arguments]
    rw [← sameArguments] at plain
    obtain ⟨compiled, succeeded⟩ := ofModel_of_isConsistent consistentOther
    exact ⟨compiled, succeeded, differentiates_of_isPlain consistentOther plain succeeded⟩

/-! ### Names with and without blanks -/

/-- A product of a state and a control as cost, the first state being called as given and growing
with the square of the second. -/
def product (first : String) : Model Float :=
  Model.unbounded [first, "x"] ["u"] [.binary .pow (.var "x") (.const 2.0), .var "u"]
    (.binary .mul (.var "x") (.var "u")) [.var "x"]

theorem product_isConsistent (first : String) (named : first ≠ "") (notState : first ≠ "x")
    (notControl : first ≠ "u") : (product first).IsConsistent := by
  have state : (Expr.var "x" : Expr Float).KnownIn [first, "x", "u"] :=
    Expr.knownIn_var (by simp)
  have control : (Expr.var "u" : Expr Float).KnownIn [first, "x", "u"] :=
    Expr.knownIn_var (by simp)
  refine Model.isConsistent_unbounded (by decide) two_pos rfl ?_ ?_ ?_ ?_ ?_
  · simpa using named
  · simpa using ⟨notState, notControl⟩
  · rw [List.forall_mem_singleton]
    exact Expr.knownIn_var (by simp)
  · rw [List.forall_mem_cons, List.forall_mem_singleton]
    exact ⟨Expr.knownIn_binary.mpr ⟨state, Expr.knownIn_const _⟩, control⟩
  · exact Expr.knownIn_binary.mpr ⟨state, control⟩

/-- Every accepted model in the states `y`, `x` and the control `u` has their columns. -/
theorem accepted_differentiates_product :
    (1 : Float) ≠ 0 ∧ (product "y").validate = .ok () ∧
      ∀ other : Model Float, other.states = ["y", "x"] → other.controls = ["u"] →
        other.validate = .ok () →
          ∃ compiled, ofModel other = .ok compiled ∧ compiled.Differentiates other := by
  have one : (1 : Float) ≠ 0 := by decide
  have valid : (product "y").validate = .ok () :=
    Model.validate_eq_ok.mpr (product_isConsistent "y" (by decide) (by decide) (by decide))
  have plain : ∀ name ∈ (product "y").arguments, IsPlain name := by decide
  exact ⟨one, valid, (accepted_differentiates_iff one valid).mpr plain⟩

/-- A state that is called by a blank is accepted, and the columns are those of `x` and `u` only. -/
theorem not_differentiates_blank :
    (product " ").validate = .ok () ∧ (∃ compiled, ofModel (product " ") = .ok compiled) ∧
      ¬ ∃ compiled, ofModel (product " ") = .ok compiled ∧
        compiled.Differentiates (product " ") := by
  have consistent := product_isConsistent " " (by decide) (by decide) (by decide)
  refine ⟨Model.validate_eq_ok.mpr consistent, ofModel_of_isConsistent consistent, ?_⟩
  rintro ⟨compiled, succeeded, differentiates⟩
  have names : (product " ").derivativeNames = ["x", "u"] := by decide
  have two := (columns_of_ofModel succeeded).2.length_eq
  rw [names, differentiates.components] at two
  cases two

end CompiledDynamics

end MultipleShooting
