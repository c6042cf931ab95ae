/-
**What an evaluation of a shooting problem consists of.**

In any arithmetic:

* `Shooting.initialRow`, `Shooting.linkRow`: the rows of the constraints, of which there are no
  others (`Shooting.row_cases`);
* `Shooting.evaluate_eq_ok`, `Shooting.objective_eq_ok`, `Shooting.constraints_eq_ok`: **an
  evaluation succeeds exactly when every interval does** and the initial condition is made of
  ordinary numbers, and its answer is then that of the ends of the intervals;
* `Shooting.evaluate_ends`: the rows and the objective by the ends of the intervals.
-/
import MultipleShooting.Proofs.Interval.Agreement
import MultipleShooting.Proofs.Layout
import MultipleShooting.Shooting

namespace MultipleShooting

namespace Shooting

variable {α : Type} [Number α] {layout : Layout} {shooting : Shooting α layout}

/-! ### Rows -/

/-- The row of a residual of the initial condition. -/
def initialRow (shooting : Shooting α layout) (i : Fin shooting.initial.count) :
    Fin shooting.rows.count :=
  Fin.castAdd (shooting.links * layout.nx) i

/-- The row of the gap of a state after a linked interval. -/
def linkRow (shooting : Shooting α layout) (link : Fin shooting.links) (i : Fin layout.nx) :
    Fin shooting.rows.count :=
  Fin.natAdd shooting.initial.count (finProdFinEquiv (link, i))

/-- The interval of a link. -/
def linked (shooting : Shooting α layout) (link : Fin shooting.links) : Fin layout.nk :=
  link.castLE shooting.links_le

omit [Number α] in
/-- Every row is one of the initial condition or of a link. -/
theorem row_cases (shooting : Shooting α layout) (row : Fin shooting.rows.count) :
    (∃ i, row = shooting.initialRow i) ∨ ∃ link i, row = shooting.linkRow link i := by
  refine Fin.addCases (m := shooting.initial.count) (n := shooting.links * layout.nx)
    (motive := fun row => (∃ i, row = shooting.initialRow i) ∨
      ∃ link i, row = shooting.linkRow link i)
    (fun i => .inl ⟨i, rfl⟩) (fun gap => .inr ?_) row
  obtain ⟨⟨link, i⟩, rfl⟩ := finProdFinEquiv.surjective gap
  exact ⟨link, i, rfl⟩

/-- The constraints with the given states at the ends of the intervals. -/
def constraintsAt (shooting : Shooting α layout) (vector : Vector α layout.size)
    (reached : Vector (Vector α layout.nx) layout.nk) : Vector α shooting.rows.count :=
  shooting.initial.residual (shooting.start vector) ++ shooting.gaps vector reached

@[simp] theorem get_constraintsAt_initialRow (vector : Vector α layout.size)
    (reached : Vector (Vector α layout.nx) layout.nk) (i : Fin shooting.initial.count) :
    (shooting.constraintsAt vector reached).get (shooting.initialRow i) =
      (shooting.initial.residual (shooting.start vector)).get i :=
  get_append_castAdd _ _ i

@[simp] theorem get_constraintsAt_linkRow (vector : Vector α layout.size)
    (reached : Vector (Vector α layout.nx) layout.nk) (link : Fin shooting.links)
    (i : Fin layout.nx) :
    (shooting.constraintsAt vector reached).get (shooting.linkRow link i) =
      (reached.get (shooting.linked link)).get i -
        vector.get (layout.statePlace (shooting.linked link).succ i) := by
  have gap : (shooting.gaps vector reached).get (finProdFinEquiv (link, i)) =
      (reached.get (shooting.linked link)).get i -
        vector.get (layout.statePlace (shooting.linked link).succ i) := by
    unfold gaps
    rw [get_flatten, Vector.get_ofFn, Column.get_sub, Layout.get_state]
    rfl
  exact (get_append_natAdd _ _ _).trans gap

/-! ### Evaluations -/

/-- The states of the first node of an interval. -/
abbrev stateOf (vector : Vector α layout.size) (k : Fin layout.nk) : Vector α layout.nx :=
  layout.state vector k (Layout.node_le k)

/-- The controls of an interval. -/
abbrev controlOf (vector : Vector α layout.size) (k : Fin layout.nk) : Vector α layout.nu :=
  layout.control vector k (Layout.interval_lt k)

/-- The evaluation with the given ends of the intervals. -/
def evaluationAt (shooting : Shooting α layout)
    (pattern : Pattern shooting.rows.count layout.size) (vector : Vector α layout.size)
    (ends : Vector (Differentiated α layout.nx layout.nu) layout.nk) :
    Evaluation α layout.size shooting.rows.count where
  objective := totalCost (ends.map fun result => result.reached.cost)
  gradient := shooting.gradient ends
  constraints := shooting.constraintsAt vector (ends.map fun result => result.reached.state)
  jacobian :=
    ⟨pattern, shooting.jacobianValues (shooting.initial.jacobian (shooting.start vector)) ends⟩

theorem propagateAll_eq_ok {vector : Vector α layout.size}
    {ends : Vector (Propagated α layout.nx) layout.nk} :
    shooting.propagateAll vector = .ok ends ↔ ∀ k,
      shooting.interval.propagate (stateOf vector k) (controlOf vector k) = .ok (ends.get k) := by
  unfold propagateAll overIntervals
  rw [collect_eq_ok]
  simp only [mapError_eq_ok]

theorem differentiateAll_eq_ok {vector : Vector α layout.size}
    {ends : Vector (Differentiated α layout.nx layout.nu) layout.nk} :
    shooting.differentiateAll vector = .ok ends ↔ ∀ k,
      shooting.interval.differentiate (stateOf vector k) (controlOf vector k) =
        .ok (ends.get k) := by
  unfold differentiateAll overIntervals
  rw [collect_eq_ok]
  simp only [mapError_eq_ok]

theorem constraintsFrom_eq_ok {vector : Vector α layout.size}
    {reached : Vector (Vector α layout.nx) layout.nk} {rows : Vector α shooting.rows.count} :
    shooting.constraintsFrom vector reached = .ok rows ↔
      Column.isFinite (shooting.initial.residual (shooting.start vector)) = true ∧
        rows = shooting.constraintsAt vector reached := by
  simp only [constraintsFrom, initialResidual]
  split_ifs with finite
  · simp only [finite, true_and]
    exact ⟨fun same => (Except.ok.inj same).symm, fun same => congrArg Except.ok same.symm⟩
  · simp [finite]

theorem jacobianFrom_eq_ok {pattern : Pattern shooting.rows.count layout.size}
    {vector : Vector α layout.size}
    {ends : Vector (Differentiated α layout.nx layout.nu) layout.nk}
    {jacobian : Compressed α shooting.rows.count layout.size} :
    shooting.jacobianFrom pattern vector ends = .ok jacobian ↔
      Dense.isFinite (shooting.initial.jacobian (shooting.start vector)) = true ∧
        jacobian = ⟨pattern,
          shooting.jacobianValues (shooting.initial.jacobian (shooting.start vector)) ends⟩ := by
  simp only [jacobianFrom]
  split_ifs with finite
  · simp only [finite, true_and, Except.ok.injEq]
    exact eq_comm
  · simp [finite]

/-- **What it takes for an evaluation to succeed**, and what its answer then is. -/
theorem evaluate_eq_ok {pattern : Pattern shooting.rows.count layout.size}
    {vector : Vector α layout.size} {evaluation : Evaluation α layout.size shooting.rows.count} :
    shooting.evaluate pattern vector = .ok evaluation ↔
      ∃ ends : Vector (Differentiated α layout.nx layout.nu) layout.nk,
      (∀ k, shooting.interval.differentiate (stateOf vector k) (controlOf vector k) =
        .ok (ends.get k)) ∧
      Column.isFinite (shooting.initial.residual (shooting.start vector)) = true ∧
      Dense.isFinite (shooting.initial.jacobian (shooting.start vector)) = true ∧
      evaluation = shooting.evaluationAt pattern vector ends := by
  simp only [evaluate, bind_eq_ok, differentiateAll_eq_ok, constraintsFrom_eq_ok,
    jacobianFrom_eq_ok, pure, Except.pure, Except.ok.injEq]
  constructor
  · rintro ⟨ends, reached, _, ⟨finiteResidual, rfl⟩, _, ⟨finiteJacobian, rfl⟩, same⟩
    exact ⟨ends, reached, finiteResidual, finiteJacobian, same.symm⟩
  · rintro ⟨ends, reached, finiteResidual, finiteJacobian, same⟩
    exact ⟨ends, reached, _, ⟨finiteResidual, rfl⟩, _, ⟨finiteJacobian, rfl⟩, same.symm⟩

theorem objective_eq_ok {vector : Vector α layout.size} {value : α} :
    shooting.objective vector = .ok value ↔ ∃ ends : Vector (Propagated α layout.nx) layout.nk,
      (∀ k, shooting.interval.propagate (stateOf vector k) (controlOf vector k) =
        .ok (ends.get k)) ∧
      totalCost (ends.map Propagated.cost) = value := by
  simp only [objective, map_eq_ok, propagateAll_eq_ok]

theorem constraints_eq_ok {vector : Vector α layout.size}
    {rows : Vector α shooting.rows.count} :
    shooting.constraints vector = .ok rows ↔ ∃ ends : Vector (Propagated α layout.nx) layout.nk,
      (∀ k, shooting.interval.propagate (stateOf vector k) (controlOf vector k) =
        .ok (ends.get k)) ∧
      Column.isFinite (shooting.initial.residual (shooting.start vector)) = true ∧
      rows = shooting.constraintsAt vector (ends.map Propagated.state) := by
  unfold constraints
  cases propagated : shooting.propagateAll vector with
  | error failure =>
    refine iff_of_false (fun failed => by cases failed) fun ⟨ends, reached, _⟩ => ?_
    rw [propagateAll_eq_ok.mpr reached] at propagated
    cases propagated
  | ok ends =>
    refine constraintsFrom_eq_ok.trans ⟨fun answered => ⟨ends, propagateAll_eq_ok.mp propagated,
      answered⟩, fun ⟨others, reached, answered⟩ => ?_⟩
    rw [propagateAll_eq_ok.mpr reached] at propagated
    cases propagated
    exact answered

/-- **An evaluation is made of the ends of the intervals**: its rows are the residuals and the gaps,
and its objective is the sum of the costs. -/
theorem evaluate_ends {pattern : Pattern shooting.rows.count layout.size}
    {vector : Vector α layout.size} {evaluation : Evaluation α layout.size shooting.rows.count}
    (evaluated : shooting.evaluate pattern vector = .ok evaluation) :
    ∃ ends : Vector (Propagated α layout.nx) layout.nk,
      (∀ k, shooting.interval.propagate (stateOf vector k) (controlOf vector k) =
        .ok (ends.get k)) ∧
      evaluation.constraints = shooting.constraintsAt vector (ends.map Propagated.state) ∧
      evaluation.objective = totalCost (ends.map Propagated.cost) := by
  obtain ⟨ends, reached, _, _, rfl⟩ := evaluate_eq_ok.mp evaluated
  refine ⟨ends.map Differentiated.reached, ?_, ?_, ?_⟩
  · intro k
    rw [Vector.get_map]
    exact Interval.propagate_of_differentiate (reached k)
  · rw [Vector.map_map]
    rfl
  · rw [Vector.map_map]
    rfl

end Shooting

end MultipleShooting
