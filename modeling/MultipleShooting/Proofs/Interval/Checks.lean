/-
**The checks of an interval.**

In any arithmetic, an interval is a total computation with checks: the values of the model functions
are checked sub-step by sub-step, stage by stage and function after function, and the first check
that does not pass decides the failure.

* `afterChecks`: an answer after checks that are made one after the other. It goes with binds
  (`bind_afterChecks`) and with loops (`loop_afterChecks`);
* `Interval.stateAt`: the point of a stage, computed without any check;
* `Interval.propagate_eq_afterChecks`, `Interval.differentiate_eq_afterChecks`: **both propagations
  are the unchecked ones after their checks**;
* `Interval.propagate_eq_ok`, `Interval.differentiate_eq_ok`: a propagation succeeds exactly when
  every check passes (`Interval.IsFaultless`);
* `Interval.propagate_eq_error`, `Interval.differentiate_eq_error`: a propagation that fails names
  the first check that does not pass (`Interval.IsFirstFault`).
-/
import MultipleShooting.Proofs.Interval.Exact

namespace MultipleShooting

variable {α : Type}

/-! ### Checks one after the other -/

section AfterChecks

variable {ι β γ : Type} {checks first second : List ι} {passes : ι → Bool} {failure : ι → Failure α}

/-- An answer after checks in their order, or the failure of the first one that does not pass. -/
def afterChecks (checks : List ι) (passes : ι → Bool) (failure : ι → Failure α) (answer : β) :
    Outcome α β :=
  match checks.find? fun check => !passes check with
  | none => .ok answer
  | some check => .error (failure check)

/-- Checks after checks are all of them. -/
theorem bind_afterChecks {answer : β} {last : γ} {outcome : Outcome α β} {next : β → Outcome α γ}
    (head : outcome = afterChecks first passes failure answer)
    (rest : next answer = afterChecks second passes failure last) :
    (outcome >>= next) = afterChecks (first ++ second) passes failure last := by
  rw [head, afterChecks, afterChecks, List.find?_append]
  cases first.find? fun check => !passes check with
  | none => exact rest
  | some check => rfl

/-- A loop whose body is a total map after checks is the iterated map after the checks of every
turn. -/
theorem loop_afterChecks {σ : Type} (loop : (remaining index : Nat) → σ → Outcome α σ)
    {body : (index : Nat) → σ → Outcome α σ} {total : σ → σ} {turn : Nat → List ι} {origin : σ}
    (done : ∀ index state, loop 0 index state = .ok state)
    (more : ∀ remaining index state,
      loop (remaining + 1) index state = body index state >>= loop remaining (index + 1))
    (step : ∀ index, body index (total^[index] origin) =
      afterChecks (turn index) passes failure (total^[index + 1] origin))
    (remaining index : Nat) :
    loop remaining index (total^[index] origin) =
      afterChecks ((List.range' index remaining).flatMap turn) passes failure
        (total^[index + remaining] origin) := by
  induction remaining generalizing index with
  | zero => exact done index _
  | succ remaining ih =>
    rw [more, List.range'_succ, List.flatMap_cons]
    refine bind_afterChecks (step index) ?_
    rw [ih (index + 1), Nat.add_right_comm, Nat.add_assoc]

/-- A check that fails in an ordered list is the first that does not pass. -/
theorem afterChecks_eq_error {before : ι → ι → Prop} (ordered : checks.Pairwise before)
    (asymmetric : ∀ check other, before check other → ¬ before other check) {answer : β}
    {found : Failure α} (failed : afterChecks checks passes failure answer = .error found) :
    ∃ check ∈ checks, passes check = false ∧
      (∀ other ∈ checks, before other check → passes other = true) ∧ found = failure check := by
  unfold afterChecks at failed
  split at failed
  · cases failed
  · next check hit =>
    cases failed
    obtain ⟨refused, earlier, later, rfl, passed⟩ := List.find?_eq_some_iff_append.mp hit
    refine ⟨check, List.mem_append_right _ List.mem_cons_self, by simpa using refused,
      fun other among ahead => ?_, rfl⟩
    obtain ⟨-, fromHere, -⟩ := List.pairwise_append.mp ordered
    rcases List.mem_append.mp among with among | among
    · simpa using passed other among
    · rcases List.mem_cons.mp among with rfl | among
      · exact absurd ahead (asymmetric _ _ ahead)
      · exact absurd ahead (asymmetric _ _ (List.rel_of_pairwise_cons fromHere among))

/-- An answer is given after checks exactly when all of them pass. -/
theorem afterChecks_eq_ok {answer given : β} :
    afterChecks checks passes failure answer = .ok given ↔
      (∀ check ∈ checks, passes check = true) ∧ given = answer := by
  unfold afterChecks
  split
  · next nothing =>
    have passed : ∀ check ∈ checks, passes check = true := by
      simpa using List.find?_eq_none.mp nothing
    rw [Except.ok.injEq, and_iff_right passed, eq_comm]
  · next check hit =>
    refine iff_of_false (fun same => by cases same) fun passed => ?_
    have refused : passes check = false := by simpa using List.find?_some hit
    rw [passed.1 check (List.mem_of_find?_eq_some hit)] at refused
    cases refused

end AfterChecks

variable [Number α] {nx nu : Nat}

/-! ### Components -/

/-- The numbers that are checked when a model function is evaluated at a point. -/
def Dynamics.components (dynamics : Dynamics α nx nu) (point : Vector α (nx + nu)) :
    ModelFunction → List α
  | .dynamics => (dynamics.rate point).toList
  | .cost => [dynamics.cost point]
  | .dynamicsJacobian => (dynamics.rateJacobian point).toList.flatMap Vector.toList
  | .costGradient => (dynamics.costGradient point).toList
  | .initial => []
  | .initialJacobian => []

theorem Column.isFinite_eq_all {n : Nat} (vector : Vector α n) :
    Column.isFinite vector = vector.toList.all Number.isFinite :=
  Vector.all_toList.symm

theorem Dense.isFinite_eq_all {m n : Nat} (matrix : Dense α m n) :
    Dense.isFinite matrix = (matrix.toList.flatMap Vector.toList).all Number.isFinite := by
  rw [List.all_flatMap, Vector.all_toList, isFinite]
  simp only [Column.isFinite_eq_all]

/-- Numbers that are not all ordinary have one that is not. -/
theorem exists_not_isFinite {values : List α} (undefined : ¬ values.all Number.isFinite = true) :
    ∃ value ∈ values, Number.isFinite value = false := by
  obtain ⟨value, among, notFinite⟩ := List.all_eq_false.mp (Bool.not_eq_true _ ▸ undefined)
  exact ⟨value, among, Bool.not_eq_true _ ▸ notFinite⟩

/-- The place of a model function in the order of the checks. -/
def ModelFunction.rank : ModelFunction → Nat
  | dynamics => 0
  | cost => 1
  | dynamicsJacobian => 2
  | costGradient => 3
  | initial => 4
  | initialJacobian => 5

namespace Interval

/-! ### Stages without checks -/

/-- The point of a stage of a sub-step from a state. -/
def stageState (interval : Interval α nx nu) (control : Vector α nu) (start : Vector α nx)
    (stage : Fin 4) : Vector α nx :=
  let h := interval.step
  let y1 := start
  let y2 := stagePoint start (0.5 * h) (interval.slopesAt y1 control)
  let y3 := stagePoint start (0.5 * h) (interval.slopesAt y2 control)
  let y4 := stagePoint start (1.0 * h) (interval.slopesAt y3 control)
  match stage with
  | 0 => y1
  | 1 => y2
  | 2 => y3
  | 3 => y4

/-- The point of a stage of a sub-step of the interval from its start state. -/
def stateAt (interval : Interval α nx nu) (start : Vector α nx) (control : Vector α nu)
    (substep : Nat) (stage : Fin 4) : Vector α nx :=
  interval.stageState control ((interval.sweep control)^[substep] ⟨start, 0⟩).state stage

/-! ### The order of the checks -/

/-- A check: that of the value of a function at a stage of a sub-step. Stages count from zero. -/
structure Check where
  substep : Nat
  stage : Fin 4
  function : ModelFunction

/-- A check is made before another one: in an earlier sub-step, or in the same one at an earlier
stage, or at the same stage for an earlier function. -/
def Check.Before (check other : Check) : Prop :=
  check.substep < other.substep ∨ check.substep = other.substep ∧
    (check.stage < other.stage ∨ check.stage = other.stage ∧
      check.function.rank < other.function.rank)

theorem Check.Before.asymm {check other : Check} (ahead : check.Before other) :
    ¬ other.Before check := by
  unfold Before at ahead ⊢
  omega

/-- The checks of some functions in one sub-step. -/
def checksIn (functions : List ModelFunction) (substep : Nat) : List Check :=
  (List.finRange 4).flatMap fun stage => functions.map fun function => ⟨substep, stage, function⟩

/-- The checks of some functions in the sub-steps of an interval. -/
def checks (interval : Interval α nx nu) (functions : List ModelFunction) : List Check :=
  (List.range interval.substeps).flatMap (checksIn functions)

omit [Number α] in
theorem mem_checks {interval : Interval α nx nu} {functions : List ModelFunction} {check : Check} :
    check ∈ interval.checks functions ↔
      check.substep < interval.substeps ∧ check.function ∈ functions := by
  simp only [checks, checksIn, List.mem_flatMap, List.mem_map, List.mem_range, List.mem_finRange,
    true_and]
  constructor
  · rintro ⟨substep, inside, stage, function, among, rfl⟩
    exact ⟨inside, among⟩
  · rintro ⟨inside, among⟩
    exact ⟨check.substep, inside, check.stage, check.function, among, rfl⟩

omit [Number α] in
/-- **The checks are made in their order.** -/
theorem pairwise_checks (interval : Interval α nx nu) {functions : List ModelFunction}
    (ordered : functions.Pairwise fun function other => function.rank < other.rank) :
    (interval.checks functions).Pairwise Check.Before := by
  unfold checks
  refine List.pairwise_flatMap.mpr ⟨fun substep _ => ?_, ?_⟩
  · refine List.pairwise_flatMap.mpr ⟨fun stage _ => ?_, ?_⟩
    · exact List.pairwise_map.mpr (ordered.imp fun before => .inr ⟨rfl, .inr ⟨rfl, before⟩⟩)
    · refine (List.pairwise_lt_finRange 4).imp fun before check among other amongOthers => ?_
      obtain ⟨_, -, rfl⟩ := List.mem_map.mp among
      obtain ⟨_, -, rfl⟩ := List.mem_map.mp amongOthers
      exact .inr ⟨rfl, .inl before⟩
  · refine List.pairwise_lt_range.imp fun before check among other amongOthers => ?_
    obtain ⟨_, -, among⟩ := List.mem_flatMap.mp among
    obtain ⟨_, -, amongOthers⟩ := List.mem_flatMap.mp amongOthers
    obtain ⟨_, -, rfl⟩ := List.mem_map.mp among
    obtain ⟨_, -, rfl⟩ := List.mem_map.mp amongOthers
    exact .inl before

/-- The numbers that are checked. -/
def valuesOf (interval : Interval α nx nu) (start : Vector α nx) (control : Vector α nu)
    (check : Check) : List α :=
  interval.dynamics.components (interval.stateAt start control check.substep check.stage ++ control)
    check.function

/-- Whether all numbers that are checked are ordinary ones. -/
def passes (interval : Interval α nx nu) (start : Vector α nx) (control : Vector α nu)
    (check : Check) : Bool :=
  (interval.valuesOf start control check).all Number.isFinite

/-- The failure of a check. -/
def failureOf (interval : Interval α nx nu) (start : Vector α nx) (control : Vector α nu)
    (check : Check) : Failure α :=
  stageFailure check.function check.substep (check.stage + 1)
    (interval.stateAt start control check.substep check.stage) control

/-! ### Propagation -/

/-- The functions that a propagation checks. -/
def valueFunctions : List ModelFunction := [.dynamics, .cost]

/-- The functions that a propagation with derivatives checks. -/
def derivativeFunctions : List ModelFunction :=
  [.dynamics, .cost, .dynamicsJacobian, .costGradient]

variable {interval : Interval α nx nu} {control : Vector α nu} {start : Vector α nx}

theorem slope_eq_afterChecks (substep : Nat) (stage : Fin 4) :
    interval.slope substep (stage + 1) (interval.stateAt start control substep stage) control =
      afterChecks (valueFunctions.map fun function => ⟨substep, stage, function⟩)
        (interval.passes start control) (interval.failureOf start control)
        (interval.slopesAt (interval.stateAt start control substep stage) control) := by
  simp only [slope, afterChecks, valueFunctions, List.map_cons, List.map_nil, List.find?_cons,
    List.find?_nil, passes, valuesOf, Dynamics.components, ← Column.isFinite_eq_all, List.all_cons,
    List.all_nil, Bool.and_true]
  split_ifs with noRate noCost
  · simp only [noRate]
    rfl
  · simp only [noRate, noCost]
    rfl
  · simp only [noRate, noCost]
    rfl

/-- A sub-step is the unchecked one after the checks of its stages. -/
theorem substep_eq_afterChecks (start : Vector α nx) (index : Nat) :
    interval.substep control index ((interval.sweep control)^[index] ⟨start, 0⟩) =
      afterChecks (checksIn valueFunctions index) (interval.passes start control)
        (interval.failureOf start control)
        ((interval.sweep control)^[index + 1] ⟨start, 0⟩) := by
  rw [Function.iterate_succ_apply']
  exact bind_afterChecks (slope_eq_afterChecks index 0) (bind_afterChecks
    (slope_eq_afterChecks index 1) (bind_afterChecks (slope_eq_afterChecks index 2)
      (bind_afterChecks (slope_eq_afterChecks index 3) rfl)))

/-- **A propagation is the unchecked one after its checks.** -/
theorem propagate_eq_afterChecks :
    interval.propagate start control =
      afterChecks (interval.checks valueFunctions) (interval.passes start control)
        (interval.failureOf start control) (interval.endOf start control) := by
  have looped := loop_afterChecks (interval.advance control) (fun _ _ => rfl)
    (fun remaining index state => by
      unfold advance
      cases interval.substep control index state <;> rfl)
    (substep_eq_afterChecks start) interval.substeps 0
  rwa [← List.range_eq_range', Nat.zero_add] at looped

/-! ### Propagation with derivatives -/

theorem differentiatedSlope_eq_afterChecks (substep : Nat) (stage : Fin 4)
    (tangents : Tangents α nx nu) :
    interval.differentiatedSlope substep (stage + 1) (interval.stateAt start control substep stage)
        control tangents =
      afterChecks (derivativeFunctions.map fun function => ⟨substep, stage, function⟩)
        (interval.passes start control) (interval.failureOf start control)
        (interval.chainedAt (interval.stateAt start control substep stage) control tangents) := by
  change _ = afterChecks (valueFunctions.map (Check.mk substep stage) ++
    [⟨substep, stage, .dynamicsJacobian⟩, ⟨substep, stage, .costGradient⟩]) _ _ _
  refine bind_afterChecks (slope_eq_afterChecks substep stage) ?_
  simp only [afterChecks, List.find?_cons, List.find?_nil, passes, valuesOf, Dynamics.components,
    ← Column.isFinite_eq_all, ← Dense.isFinite_eq_all]
  split_ifs with noJacobian noGradient
  · simp only [noJacobian]
    rfl
  · simp only [noJacobian, noGradient]
    rfl
  · simp only [noJacobian, noGradient]
    rfl

/-- Sub-steps with derivatives pass through the states and costs of those without. -/
theorem reached_iterate (count : Nat) (first : Differentiated α nx nu) :
    ((interval.differentiatedSweep control)^[count] first).reached =
      (interval.sweep control)^[count] first.reached := by
  have passes : Function.Semiconj Differentiated.reached (interval.differentiatedSweep control)
      (interval.sweep control) := fun _ => rfl
  exact passes.iterate_right count first

/-- The end with derivatives has the state and the cost of the one without. -/
theorem reached_differentiatedEndOf :
    (interval.differentiatedEndOf start control).reached = interval.endOf start control :=
  reached_iterate _ _

/-- A sub-step with derivatives is the unchecked one after the checks of its stages. -/
theorem differentiatedSubstep_eq_afterChecks (start : Vector α nx) (index : Nat) :
    interval.differentiatedSubstep control index ((interval.differentiatedSweep control)^[index]
        ⟨⟨start, 0⟩, Tangents.initial, Cotangents.initial⟩) =
      afterChecks (checksIn derivativeFunctions index) (interval.passes start control)
        (interval.failureOf start control) ((interval.differentiatedSweep control)^[index + 1]
          ⟨⟨start, 0⟩, Tangents.initial, Cotangents.initial⟩) := by
  have passed : ((interval.differentiatedSweep control)^[index]
      ⟨⟨start, 0⟩, Tangents.initial, Cotangents.initial⟩).reached =
        (interval.sweep control)^[index] ⟨start, 0⟩ := reached_iterate index _
  rw [Function.iterate_succ_apply']
  generalize (interval.differentiatedSweep control)^[index]
    ⟨⟨start, 0⟩, Tangents.initial, Cotangents.initial⟩ = before at passed ⊢
  obtain ⟨reached, tangents, cotangents⟩ := before
  subst passed
  exact bind_afterChecks (differentiatedSlope_eq_afterChecks index 0 _) (bind_afterChecks
    (differentiatedSlope_eq_afterChecks index 1 _) (bind_afterChecks
      (differentiatedSlope_eq_afterChecks index 2 _) (bind_afterChecks
        (differentiatedSlope_eq_afterChecks index 3 _) rfl)))

/-- **A propagation with derivatives is the unchecked one after its checks.** -/
theorem differentiate_eq_afterChecks :
    interval.differentiate start control =
      afterChecks (interval.checks derivativeFunctions) (interval.passes start control)
        (interval.failureOf start control) (interval.differentiatedEndOf start control) := by
  have looped := loop_afterChecks (interval.differentiatedAdvance control) (fun _ _ => rfl)
    (fun remaining index state => by
      unfold differentiatedAdvance
      cases interval.differentiatedSubstep control index state <;> rfl)
    (differentiatedSubstep_eq_afterChecks start) interval.substeps 0
  rwa [← List.range_eq_range', Nat.zero_add] at looped

/-! ### Failures -/

/-- A check is the first of an interval that does not pass: a number that it checks is no ordinary
one, and all numbers of the checks before it are. -/
structure IsFirstFault (interval : Interval α nx nu) (functions : List ModelFunction)
    (start : Vector α nx) (control : Vector α nu) (check : Check) : Prop where
  substep_lt : check.substep < interval.substeps
  function_mem : check.function ∈ functions
  undefined : ∃ value ∈ interval.valuesOf start control check, Number.isFinite value = false
  earlier : ∀ other : Check, other.substep < interval.substeps → other.function ∈ functions →
    other.Before check → ∀ value ∈ interval.valuesOf start control other,
      Number.isFinite value = true

/-- No check of an interval finds a number that is no ordinary one. -/
def IsFaultless (interval : Interval α nx nu) (functions : List ModelFunction)
    (start : Vector α nx) (control : Vector α nu) : Prop :=
  ∀ check : Check, check.substep < interval.substeps → check.function ∈ functions →
    ∀ value ∈ interval.valuesOf start control check, Number.isFinite value = true

/-- An interval gives its answer exactly when no check finds a fault. -/
theorem checks_eq_ok {functions : List ModelFunction} {β : Type} {answer given : β} :
    afterChecks (interval.checks functions) (interval.passes start control)
      (interval.failureOf start control) answer = .ok given ↔
      interval.IsFaultless functions start control ∧ given = answer := by
  refine afterChecks_eq_ok.trans (and_congr_left' ?_)
  simp only [mem_checks, passes, List.all_eq_true, and_imp, IsFaultless]

/-- **A propagation succeeds** exactly when all values that it checks are ordinary numbers. -/
theorem propagate_eq_ok {last : Propagated α nx} :
    interval.propagate start control = .ok last ↔
      interval.IsFaultless valueFunctions start control ∧ last = interval.endOf start control := by
  rw [propagate_eq_afterChecks, checks_eq_ok]

/-- **A propagation with derivatives succeeds** exactly when all values that it checks are ordinary
numbers. -/
theorem differentiate_eq_ok {last : Differentiated α nx nu} :
    interval.differentiate start control = .ok last ↔
      interval.IsFaultless derivativeFunctions start control ∧
        last = interval.differentiatedEndOf start control := by
  rw [differentiate_eq_afterChecks, checks_eq_ok]

theorem exists_isFirstFault {functions : List ModelFunction} {β : Type} {answer : β}
    {failure : Failure α}
    (ordered : functions.Pairwise fun function other => function.rank < other.rank)
    (failed : afterChecks (interval.checks functions) (interval.passes start control)
      (interval.failureOf start control) answer = .error failure) :
    ∃ check, interval.IsFirstFault functions start control check ∧
      failure = interval.failureOf start control check := by
  obtain ⟨check, among, refused, earlier, same⟩ := afterChecks_eq_error
    (interval.pairwise_checks ordered) (fun _ _ => Check.Before.asymm) failed
  obtain ⟨inside, listed⟩ := mem_checks.mp among
  refine ⟨check, ⟨inside, listed, ?_, fun other insideOther listedOther ahead => ?_⟩, same⟩
  · exact exists_not_isFinite (Bool.eq_false_iff.mp refused)
  · exact List.all_eq_true.mp (earlier other (mem_checks.mpr ⟨insideOther, listedOther⟩) ahead)

/-- **A propagation that fails** names the first of its checks that does not pass. -/
theorem propagate_eq_error {failure : Failure α}
    (failed : interval.propagate start control = .error failure) :
    ∃ check, interval.IsFirstFault valueFunctions start control check ∧
      failure = interval.failureOf start control check :=
  exists_isFirstFault (by decide) (propagate_eq_afterChecks.symm.trans failed)

/-- **A propagation with derivatives that fails** names the first of its checks that does not
pass. -/
theorem differentiate_eq_error {failure : Failure α}
    (failed : interval.differentiate start control = .error failure) :
    ∃ check, interval.IsFirstFault derivativeFunctions start control check ∧
      failure = interval.failureOf start control check :=
  exists_isFirstFault (by decide) (differentiate_eq_afterChecks.symm.trans failed)

end Interval

end MultipleShooting
