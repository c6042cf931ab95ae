/-
**Models but for the sign of zeros.**

Two models whose expressions are the same but for zeros (`Model.Same`) are accepted or refused
alike, with the same failure (`Model.Same.validate_eq`), and texts that are read alike make such
models (`Model.exists_ofTexts`).
-/
import MultipleShooting.Model.Basic
import MultipleShooting.Proofs.Expr.Same
import Mathlib.Data.List.Forall2

namespace MultipleShooting

namespace Model

/-- The same model, with both zeros taken as one in its expressions. -/
structure Same (left right : Model Float) : Prop where
  states : left.states = right.states
  controls : left.controls = right.controls
  dynamics : List.Forall₂ Expr.Same left.dynamics right.dynamics
  cost : Expr.Same left.cost right.cost
  initial : List.Forall₂ Expr.Same left.initial right.initial
  stateLower : left.stateLower = right.stateLower
  stateUpper : left.stateUpper = right.stateUpper
  controlLower : left.controlLower = right.controlLower
  controlUpper : left.controlUpper = right.controlUpper
  stateGuess : left.stateGuess = right.stateGuess
  controlGuess : left.controlGuess = right.controlGuess

/-! ### Validation -/

theorem foreignName?_eq_of_same {names : List String} {expr expr' : Expr Float}
    (same : Expr.Same expr expr') : foreignName? names expr = foreignName? names expr' := by
  rw [foreignName?, same.variableNames_eq, foreignName?]

theorem foreignPart?_eq_of_same {names : List String} {exprs exprs' : List (Expr Float)}
    (same : List.Forall₂ Expr.Same exprs exprs') :
    foreignPart? names exprs = foreignPart? names exprs' := by
  have parts (start : ℕ) : (exprs.zipIdx start).findSome?
        (fun part => (foreignName? names part.1).map (part.2, ·)) =
      (exprs'.zipIdx start).findSome?
        (fun part => (foreignName? names part.1).map (part.2, ·)) := by
    induction same generalizing start with
    | nil => rfl
    | cons first _ ih =>
      rw [List.zipIdx_cons, List.zipIdx_cons, List.findSome?_cons, List.findSome?_cons,
        foreignName?_eq_of_same first, ih]
  exact parts 0

variable {left right : Model Float}

theorem Same.arguments_eq (same : Same left right) : left.arguments = right.arguments := by
  rw [arguments, same.states, same.controls, arguments]

theorem Same.lengthFault?_eq (same : Same left right) :
    left.lengthFault? = right.lengthFault? := by
  unfold lengthFault? stateCount controlCount
  rw [same.states, same.controls, same.dynamics.length_eq, same.stateLower, same.stateUpper,
    same.controlLower, same.controlUpper, same.stateGuess, same.controlGuess]

theorem Same.variableFault?_eq (same : Same left right) :
    left.variableFault? = right.variableFault? := by
  unfold variableFault?
  rw [same.arguments_eq, same.states, foreignPart?_eq_of_same same.initial,
    foreignPart?_eq_of_same same.dynamics, foreignName?_eq_of_same same.cost]

theorem Same.allBoxes_eq (same : Same left right) : left.allBoxes = right.allBoxes := by
  unfold allBoxes
  rw [same.states, same.controls, same.stateLower, same.stateUpper, same.controlLower,
    same.controlUpper, same.stateGuess, same.controlGuess]

/-- **Models that are the same but for zeros are accepted or refused alike.** -/
theorem Same.validate_eq (same : Same left right) : left.validate = right.validate := by
  have fault : left.fault? = right.fault? := by
    unfold fault? stateCount
    rw [same.states, same.arguments_eq, same.lengthFault?_eq, same.variableFault?_eq,
      same.allBoxes_eq]
  rw [validate, fault, validate]

/-! ### Texts -/

/-- Texts that are read alike, and as expressions. -/
def ReadsAs (first second : String) : Prop :=
  ∃ left right : Expr Float, Expr.parse first = .ok left ∧ Expr.parse second = .ok right ∧
    Expr.Same left right

theorem parsePart_eq_ok {text : String} {expr : Expr Float} (read : Expr.parse text = .ok expr) :
    (parsePart text : Outcome Float (Expr Float)) = .ok expr := by
  rw [parsePart, read]

theorem exists_parseParts {first second : List String} (alike : List.Forall₂ ReadsAs first second) :
    ∃ left right : List (Expr Float), parseParts first = .ok left ∧ parseParts second = .ok right ∧
      List.Forall₂ Expr.Same left right := by
  induction alike with
  | nil => exact ⟨[], [], rfl, rfl, .nil⟩
  | cons head _ ih =>
    obtain ⟨left, right, readLeft, readRight, same⟩ := head
    obtain ⟨lefts, rights, readLefts, readRights, others⟩ := ih
    refine ⟨left :: lefts, right :: rights, ?_, ?_, .cons same others⟩
    · rw [parseParts, parsePart_eq_ok readLeft, readLefts]
      rfl
    · rw [parseParts, parsePart_eq_ok readRight, readRights]
      rfl

/-- **Texts that are read alike make models that are the same** but for zeros, whatever bounds and
guesses are then put in. -/
theorem exists_ofTexts (states controls : List String)
    {dynamics dynamics' initial initial' : List String} {cost cost' : String}
    (dynamicsAlike : List.Forall₂ ReadsAs dynamics dynamics')
    (costAlike : ReadsAs cost cost') (initialAlike : List.Forall₂ ReadsAs initial initial') :
    ∃ left right : Model Float, ofTexts states controls dynamics cost initial = .ok left ∧
      ofTexts states controls dynamics' cost' initial' = .ok right ∧
      ∀ revision : Revision Float, Same (revision.apply left) (revision.apply right) := by
  obtain ⟨rates, rates', readRates, readRates', sameRates⟩ := exists_parseParts dynamicsAlike
  obtain ⟨running, running', readRunning, readRunning', sameRunning⟩ := costAlike
  obtain ⟨starts, starts', readStarts, readStarts', sameStarts⟩ := exists_parseParts initialAlike
  refine ⟨unbounded states controls rates running starts,
    unbounded states controls rates' running' starts', ?_, ?_, fun revision => ?_⟩
  · rw [ofTexts, readRates, parsePart_eq_ok readRunning, readStarts]
    rfl
  · rw [ofTexts, readRates', parsePart_eq_ok readRunning', readStarts']
    rfl
  · exact ⟨rfl, rfl, sameRates, sameRunning, sameStarts, rfl, rfl, rfl, rfl, rfl, rfl⟩

end Model

end MultipleShooting
