/-
**Consistent models.**

`Model.validate_eq_ok`: **a model is accepted exactly when it is consistent**
(`Model.IsConsistent`). Each check of a model has its own equivalence: the lengths of its lists
(`Model.lengthFault?_eq_none`), its names (`Model.nameFault?_eq_none`), the variables of its
expressions (`Model.variableFault?_eq_none`), and its bounds and guesses
(`Model.Box.fault?_eq_none`).
-/
import MultipleShooting.Model.Basic
import MultipleShooting.Proofs.Expr.Variables

namespace MultipleShooting

namespace Model

variable {α : Type} {model : Model α}

/-! ### Checks -/

theorem nameFault?_eq_none {before names : List String} :
    (nameFault? before names : Option (ConfigurationFault α)) = none ↔
      (∀ name ∈ names, name ≠ "" ∧ name ∉ before) ∧ names.Nodup := by
  induction names generalizing before with
  | nil => simp [nameFault?]
  | cons name names ih =>
    unfold nameFault?
    split_ifs with empty repeated
    · simp [empty]
    · simp [repeated]
    · rw [ih, List.forall_mem_cons, List.nodup_cons]
      constructor
      · rintro ⟨others, distinct⟩
        refine ⟨⟨⟨empty, repeated⟩, fun other among => ?_⟩, fun again => ?_, distinct⟩
        · exact ⟨(others other among).1, fun early =>
            (others other among).2 (List.mem_cons_of_mem _ early)⟩
        · exact (others name again).2 List.mem_cons_self
      · rintro ⟨⟨_, others⟩, fresh, distinct⟩
        refine ⟨fun other among => ⟨(others other among).1, fun early => ?_⟩, distinct⟩
        rcases List.mem_cons.mp early with rfl | early
        · exact fresh among
        · exact (others other among).2 early

theorem foreignName?_eq_none {names : List String} {expr : Expr α} :
    foreignName? names expr = none ↔ expr.KnownIn names := by
  simp only [foreignName?, List.find?_eq_none, Expr.mem_variableNames, Bool.not_eq_true',
    Bool.not_eq_false, List.contains_iff_mem, Expr.KnownIn]

theorem foreignPart?_eq_none {names : List String} {exprs : List (Expr α)} :
    foreignPart? names exprs = none ↔ ∀ expr ∈ exprs, expr.KnownIn names := by
  simp only [foreignPart?, List.findSome?_eq_none_iff, Option.map_eq_none_iff,
    foreignName?_eq_none]
  constructor
  · intro known expr among
    obtain ⟨index, inside, rfl⟩ := List.getElem_of_mem among
    exact known (exprs[index], index) (List.mk_mem_zipIdx_iff_getElem?.mpr
      (List.getElem?_eq_getElem inside))
  · rintro known ⟨expr, index⟩ among
    exact known expr (List.mem_of_getElem? (List.mk_mem_zipIdx_iff_getElem?.mp among))

theorem variableFault?_eq_none :
    model.variableFault? = none ↔
      (∀ expr ∈ model.initial, expr.KnownIn model.states) ∧
        (∀ expr ∈ model.dynamics, expr.KnownIn model.arguments) ∧
        model.cost.KnownIn model.arguments := by
  unfold variableFault?
  rw [← foreignPart?_eq_none, ← foreignPart?_eq_none, ← foreignName?_eq_none]
  cases foreignPart? model.states model.initial <;>
    cases foreignPart? model.arguments model.dynamics <;> simp

theorem lengthFault?_eq_none :
    model.lengthFault? = none ↔
      model.stateCount = model.dynamics.length ∧ model.stateCount = model.stateLower.length ∧
        model.stateCount = model.stateUpper.length ∧ model.stateCount = model.stateGuess.length ∧
        model.controlCount = model.controlLower.length ∧
        model.controlCount = model.controlUpper.length ∧
        model.controlCount = model.controlGuess.length := by
  simp [lengthFault?, List.findSome?_eq_none_iff]

/-- Bounds that are numbers and do not cross, and a guess that is an ordinary number. -/
def Fits [Number α] (lower upper : Bound α) (guess : α) : Prop :=
  lower.crossed upper = false ∧ Number.isFinite guess = true

theorem Box.fault?_eq_none [Number α] {box : Box α} :
    box.fault? = none ↔ Fits box.lower box.upper box.guess := by
  unfold Box.fault? Fits
  split_ifs with crossed finite <;> simp_all

/-- The variables of one kind fit when their bounds and guesses do at every position. -/
theorem forall_boxes_fits [Number α] {n : Nat} {kind : VariableKind} {names : List String}
    {lower upper : Vector (Bound α) n} {guess : Vector α n} (complete : names.length = n) :
    (∀ box ∈ boxes kind names lower.toList upper.toList guess.toList,
        Fits box.lower box.upper box.guess) ↔
      ∀ i, Fits (lower.get i) (upper.get i) (guess.get i) := by
  rw [List.forall_mem_iff_forall_getElem]
  simp only [boxes, List.length_map, List.length_zip, Vector.length_toList, List.getElem_map,
    List.getElem_zip, Vector.getElem_toList, complete, min_self]
  exact ⟨fun every i => every i i.isLt, fun every i inside => every ⟨i, inside⟩⟩

/-! ### Consistency -/

/-- A model in which everything fits together. -/
structure IsConsistent [Number α] (model : Model α) : Prop where
  states : 0 < model.stateCount
  dynamics_length : model.stateCount = model.dynamics.length
  stateLower_length : model.stateCount = model.stateLower.length
  stateUpper_length : model.stateCount = model.stateUpper.length
  stateGuess_length : model.stateCount = model.stateGuess.length
  controlLower_length : model.controlCount = model.controlLower.length
  controlUpper_length : model.controlCount = model.controlUpper.length
  controlGuess_length : model.controlCount = model.controlGuess.length
  named : ∀ name ∈ model.arguments, name ≠ ""
  distinct : model.arguments.Nodup
  initial_known : ∀ expr ∈ model.initial, expr.KnownIn model.states
  dynamics_known : ∀ expr ∈ model.dynamics, expr.KnownIn model.arguments
  cost_known : model.cost.KnownIn model.arguments
  boxes : ∀ box ∈ model.allBoxes, Fits box.lower box.upper box.guess

/-- **A model is accepted exactly when it is consistent.** -/
theorem validate_eq_ok [Number α] : model.validate = .ok () ↔ model.IsConsistent := by
  have accepted : model.validate = .ok () ↔ model.fault? = none := by
    unfold validate
    cases model.fault? <;> simp
  rw [accepted]
  unfold fault?
  split_ifs with empty
  · exact iff_of_false (fun passed => by cases passed) fun consistent => consistent.states.ne' empty
  · simp only [Option.or_eq_none_iff, Option.map_eq_none_iff, lengthFault?_eq_none,
      nameFault?_eq_none, variableFault?_eq_none, List.findSome?_eq_none_iff, Box.fault?_eq_none,
      List.not_mem_nil, not_false_eq_true, and_true]
    constructor
    · rintro ⟨⟨dynamics, stateLower, stateUpper, stateGuess, controlLower, controlUpper,
        controlGuess⟩, ⟨named, distinct⟩, ⟨initialKnown, dynamicsKnown, costKnown⟩, boxes⟩
      exact ⟨Nat.pos_of_ne_zero empty, dynamics, stateLower, stateUpper, stateGuess, controlLower,
        controlUpper, controlGuess, named, distinct, initialKnown, dynamicsKnown, costKnown, boxes⟩
    · intro consistent
      exact ⟨⟨consistent.dynamics_length, consistent.stateLower_length,
        consistent.stateUpper_length, consistent.stateGuess_length,
        consistent.controlLower_length, consistent.controlUpper_length,
        consistent.controlGuess_length⟩, ⟨consistent.named, consistent.distinct⟩,
        ⟨consistent.initial_known, consistent.dynamics_known, consistent.cost_known⟩,
        consistent.boxes⟩

/-- A model without bounds is consistent when its names and the variables of its expressions are. -/
theorem isConsistent_unbounded [Number α] {states controls : List String}
    {dynamics initial : List (Expr α)} {cost : Expr α} (zero : Number.isFinite (0 : α) = true)
    (nonempty : 0 < states.length) (complete : states.length = dynamics.length)
    (named : ∀ name ∈ states ++ controls, name ≠ "") (distinct : (states ++ controls).Nodup)
    (initialKnown : ∀ expr ∈ initial, expr.KnownIn states)
    (dynamicsKnown : ∀ expr ∈ dynamics, expr.KnownIn (states ++ controls))
    (costKnown : cost.KnownIn (states ++ controls)) :
    (unbounded states controls dynamics cost initial).IsConsistent := by
  have same {β : Type} (names : List String) (value : β) :
      names.length = (names.map fun _ => value).length := (List.length_map ..).symm
  refine ⟨nonempty, complete, same .., same .., same .., same .., same .., same .., named, distinct,
    initialKnown, dynamicsKnown, costKnown, ?_⟩
  have unboundedBox (kind : VariableKind) (names : List String) : ∀ box ∈ boxes kind names
      (names.map fun _ => Bound.minusInfinity) (names.map fun _ => Bound.plusInfinity)
      (names.map fun _ => (0 : α)), Fits box.lower box.upper box.guess := by
    intro box among
    obtain ⟨⟨name, low, high, guess⟩, listed, rfl⟩ := List.mem_map.mp among
    obtain ⟨lower, listed⟩ := List.of_mem_zip (List.of_mem_zip listed).2
    obtain ⟨upper, guessed⟩ := List.of_mem_zip listed
    obtain ⟨_, _, rfl⟩ := List.mem_map.mp lower
    obtain ⟨_, _, rfl⟩ := List.mem_map.mp upper
    obtain ⟨_, _, rfl⟩ := List.mem_map.mp guessed
    exact ⟨rfl, zero⟩
  intro box among
  rcases List.mem_append.mp among with among | among
  · exact unboundedBox _ _ box among
  · exact unboundedBox _ _ box among

end Model

end MultipleShooting
