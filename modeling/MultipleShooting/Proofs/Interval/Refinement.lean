/-
**The propagation with derivatives refines the one without.**

In any arithmetic, the propagation with derivatives makes the checks of the one without and two more
at every stage, after those of the values. The first check that does not pass is then the same for
both, or it is one of those that were added, at an earlier stage.

* `Interval.Check.place`: the sub-step and stage of a check. Two checks are the same as soon as
  neither is made before the other (`Interval.Check.eq_of_not_before`);
* `Interval.IsFirstFault.eq_or_added`: **how the first faults of both propagations are ordered**;
* `Interval.Refines`: one propagation answers and fails as another one does, or fails earlier in a
  derivative;
* `Interval.differentiate_refines`: this holds of the two propagations, for lists of any length as
  start state and control.
-/
import MultipleShooting.Proofs.Interval.Checks

namespace MultipleShooting

variable {α : Type} [Number α] {nx nu : Nat}

/-- A failure is that of one of several functions at a sub-step and stage. -/
def Failure.IsAt (failure : Failure α) (functions : List ModelFunction) (place : ℕ ×ₗ ℕ) : Prop :=
  ∃ function ∈ functions, ∃ state control, failure =
    .evaluation function ⟨none, some (ofLex place).1, some (ofLex place).2⟩ state control

namespace Interval

/-- The functions that only a propagation with derivatives checks. -/
def addedFunctions : List ModelFunction := [.dynamicsJacobian, .costGradient]

variable {interval : Interval α nx nu} {start : Vector α nx} {control : Vector α nu}

/-! ### Sub-steps and stages -/

/-- The sub-step and stage of a check as they are reported, stages counting from one. -/
def Check.place (check : Check) : ℕ ×ₗ ℕ := toLex (check.substep, check.stage.val + 1)

/-- Of two different checks one is made before the other. -/
theorem Check.eq_of_not_before {check other : Check} (notBefore : ¬ check.Before other)
    (notAfter : ¬ other.Before check) : check = other := by
  obtain ⟨substep, stage, function⟩ := check
  obtain ⟨otherSubstep, otherStage, otherFunction⟩ := other
  unfold Before at notBefore notAfter
  simp only at notBefore notAfter
  have sameStep : substep = otherSubstep := by omega
  have sameStage : stage = otherStage := by omega
  have sameRank : function.rank = otherFunction.rank := by omega
  have sameFunction : function = otherFunction := by
    cases function <;> cases otherFunction <;> first | rfl | cases sameRank
  rw [sameStep, sameStage, sameFunction]

/-- The failure of a check is at its place. -/
theorem failureOf_isAt {functions : List ModelFunction} {check : Check}
    (listed : check.function ∈ functions) :
    (interval.failureOf start control check).IsAt functions check.place :=
  ⟨check.function, listed, _, _, rfl⟩

/-- **The first fault with derivatives** is the first fault without them, or that of a derivative at
an earlier sub-step and stage. -/
theorem IsFirstFault.eq_or_added {check other : Check}
    (late : interval.IsFirstFault valueFunctions start control check)
    (early : interval.IsFirstFault derivativeFunctions start control other) :
    other = check ∨ other.function ∈ addedFunctions ∧ other.place < check.place := by
  -- The fault without derivatives is one of those that are met with them.
  have met : check.function ∈ derivativeFunctions := List.mem_append_left addedFunctions
    late.function_mem
  have notBefore : ¬ check.Before other := by
    intro ahead
    obtain ⟨value, among, undefined⟩ := late.undefined
    rw [early.earlier check late.substep_lt met ahead value among] at undefined
    cases undefined
  obtain value | added : other.function ∈ valueFunctions ∨ other.function ∈ addedFunctions :=
    List.mem_append.mp early.function_mem
  · left
    refine Check.eq_of_not_before (fun ahead => ?_) notBefore
    obtain ⟨number, among, undefined⟩ := early.undefined
    rw [late.earlier other early.substep_lt value ahead number among] at undefined
    cases undefined
  · right
    refine ⟨added, ?_⟩
    -- At one and the same stage the value would have been checked before the derivative.
    have later : check.function.rank < other.function.rank := by
      have small : ∀ function ∈ valueFunctions, function.rank < 2 := by decide
      have large : ∀ function ∈ addedFunctions, 2 ≤ function.rank := by decide
      exact (small _ late.function_mem).trans_le (large _ added)
    unfold Check.Before at notBefore
    refine Prod.Lex.toLex_lt_toLex.mpr ?_
    simp only
    omega

/-! ### Both propagations -/

/-- A propagation with derivatives refines one without: its answer has the answer of the other, it
fails with the failure of the other or earlier in a derivative, and it fails in a derivative where
the other one answers. -/
structure Refines (rich : Outcome α (Differentiated α nx nu))
    (plain : Outcome α (Propagated α nx)) : Prop where
  answers : ∀ last, rich = .ok last → plain = .ok last.reached
  fails : ∀ late, plain = .error late → rich = .error late ∨ ∃ early place other,
    rich = .error early ∧ early.IsAt addedFunctions place ∧ late.IsAt valueFunctions other ∧
      place < other
  adds : ∀ last early, plain = .ok last → rich = .error early →
    ∃ place, early.IsAt addedFunctions place

/-- The two propagations from a start state under a control. -/
theorem differentiate_refines_propagate (interval : Interval α nx nu) (start : Vector α nx)
    (control : Vector α nu) :
    Refines (interval.differentiate start control) (interval.propagate start control) where
  answers _ succeeded := propagate_of_differentiate succeeded
  fails late failed := by
    obtain ⟨check, first, rfl⟩ := propagate_eq_error failed
    cases rich : interval.differentiate start control with
    | ok last =>
      rw [propagate_of_differentiate rich] at failed
      cases failed
    | error early =>
      obtain ⟨other, firstOther, rfl⟩ := differentiate_eq_error rich
      obtain rfl | ⟨added, before⟩ := first.eq_or_added firstOther
      · exact .inl rfl
      · exact .inr ⟨_, other.place, check.place, rfl, failureOf_isAt added,
          failureOf_isAt first.function_mem, before⟩
  adds last early succeeded failed := by
    obtain ⟨check, first, rfl⟩ := differentiate_eq_error failed
    have faultless := (propagate_eq_ok.mp succeeded).1
    obtain value | added : check.function ∈ valueFunctions ∨ check.function ∈ addedFunctions :=
      List.mem_append.mp first.function_mem
    · obtain ⟨number, among, undefined⟩ := first.undefined
      rw [faultless check first.substep_lt value number among] at undefined
      cases undefined
    · exact ⟨check.place, failureOf_isAt added⟩

/-- An operation on a start state and a control that are given as lists. -/
def onLists {β : Type} (interval : Interval α nx nu)
    (operation : Vector α nx → Vector α nu → Outcome α β) (state control : List α) :
    Outcome α β := do
  let (start, held) ← interval.arguments state control
  operation start held

omit [Number α] in
/-- What fails before either propagation begins is refined by itself. -/
theorem refines_error (failure : Failure α) :
    Refines (.error failure : Outcome α (Differentiated α nx nu)) (.error failure) where
  answers _ succeeded := by cases succeeded
  fails _ failed := .inl (congrArg Except.error (Except.error.inj failed))
  adds _ _ succeeded := by cases succeeded

/-- **The two propagations agree, failures included**, whatever lists are given as start state and
control. -/
theorem differentiate_refines (interval : Interval α nx nu) (state control : List α) :
    Refines (interval.onLists interval.differentiate state control)
      (interval.onLists interval.propagate state control) := by
  unfold onLists
  cases interval.arguments state control with
  | error failure => exact refines_error failure
  | ok given => exact differentiate_refines_propagate interval given.1 given.2

end Interval

end MultipleShooting
