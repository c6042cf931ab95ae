/-
**Exact derivatives of a shooting problem.**

Read over the real numbers, the derivatives of a shooting problem whose model functions come with
theirs (`Dynamics.IsDifferentiated`, `InitialCondition.IsDifferentiated`) are exact:

* `Shooting.hasDerivAt_objective`, `Shooting.hasDerivAt_initialRow`, `Shooting.hasDerivAt_linkRow`:
  the rates of objective and rows along a path of decision vectors, interval by interval;
* `Shooting.get_gradient`, `Shooting.get_dense_initialRow`, `Shooting.get_dense_linkRow`: along a
  single component these are the entries of the gradient and of the sparse Jacobian;
* `Shooting.evaluate_derivatives`: **the answer of an evaluation is made of all first partial
  derivatives**, those outside of the places being zero.
-/
import MultipleShooting.Proofs.Interval.Derivative
import MultipleShooting.Proofs.Shooting.Entries
import MultipleShooting.Proofs.Shooting.Gradient

namespace MultipleShooting

/-- The residual comes with its derivatives at every point, and its Jacobian is zero outside of the
listed places, which are those of a matrix row by row. -/
structure InitialCondition.IsDifferentiated {nx : Nat} (initial : InitialCondition ℝ nx) :
    Prop where
  residual : ∀ state i, HasGradient (fun start => (initial.residual start).get i)
    ((initial.jacobian state).get i) state
  listed : ∀ state i j, ((initial.jacobian state).get i).get j ≠ 0 →
    (i.val, j.val) ∈ initial.pattern
  rowMajor : IsRowMajor initial.count nx initial.pattern

namespace Shooting

variable {layout : Layout} {shooting : Shooting ℝ layout}

/-! ### Along a path -/

section Paths

variable {path : ℝ → Vector ℝ layout.size} {velocity : Vector ℝ layout.size} {moment : ℝ}

theorem moves_stateOf (moves : Moves path velocity moment) (node : Nat) (known : node ≤ layout.nk) :
    Moves (fun time => layout.state (path time) node known) (layout.state velocity node known)
      moment := fun i => by
  simp only [Layout.get_state]
  exact moves _

theorem moves_controlOf (moves : Moves path velocity moment) (k : Fin layout.nk) :
    Moves (fun time => controlOf (path time) k) (controlOf velocity k) moment := fun i => by
  simp only [Layout.get_control]
  exact moves _

/-- The end of each interval changes at the rates of its derivatives. -/
theorem follows_endsOf (differentiated : shooting.interval.dynamics.IsDifferentiated)
    (moves : Moves path velocity moment) (k : Fin layout.nk) :
    Interval.Follows (fun time => (shooting.endsOf (path time)).get k)
      ((shooting.differentiatedEndsOf (path moment)).get k)
      (stateOf velocity k) (controlOf velocity k) moment := by
  simp only [endsOf, differentiatedEndsOf, Vector.get_ofFn]
  exact Interval.follows_endOf differentiated (moves_stateOf moves k k.isLt.le)
    (moves_controlOf moves k)

/-- **The objective along a path**: the costs of the intervals add up. -/
theorem hasDerivAt_objective (differentiated : shooting.interval.dynamics.IsDifferentiated)
    (moves : Moves path velocity moment) :
    HasDerivAt (fun time => totalCost ((shooting.endsOf (path time)).map Propagated.cost))
      (∑ k, ((shooting.differentiatedEndsOf (path moment)).get k).cotangents.along
        (stateOf velocity k) (controlOf velocity k)) moment := by
  simp only [totalCost_real, Vector.get_map]
  exact HasDerivAt.fun_sum fun k _ => (follows_endsOf differentiated moves k).cost

/-- **A row of the initial condition along a path.** -/
theorem hasDerivAt_initialRow (differentiated : shooting.initial.IsDifferentiated)
    (moves : Moves path velocity moment) (i : Fin shooting.initial.count) :
    HasDerivAt (fun time => (shooting.initial.residual (shooting.start (path time))).get i)
      (Column.dot ((shooting.initial.jacobian (shooting.start (path moment))).get i)
        (shooting.start velocity)) moment :=
  (moves_stateOf moves 0 (Nat.zero_le _)).along (differentiated.residual _ i)

/-- **A row of a link along a path**: the end of the interval against the next node. -/
theorem hasDerivAt_linkRow (differentiated : shooting.interval.dynamics.IsDifferentiated)
    (moves : Moves path velocity moment) (link : Fin shooting.links) (i : Fin layout.nx) :
    HasDerivAt (fun time => ((shooting.endsOf (path time)).get (shooting.linked link)).state.get i -
        (path time).get (layout.statePlace (shooting.linked link).succ i))
      ((((shooting.differentiatedEndsOf (path moment)).get (shooting.linked link)).tangents.along
          (stateOf velocity (shooting.linked link))
          (controlOf velocity (shooting.linked link))).get i -
        velocity.get (layout.statePlace (shooting.linked link).succ i)) moment :=
  ((follows_endsOf differentiated moves (shooting.linked link)).state i).sub (moves _)

end Paths

/-! ### By a single component -/

section Components

variable {ends : Vector (Differentiated ℝ layout.nx layout.nu) layout.nk}

/-- **The gradient**, component by component. -/
theorem get_gradient (shooting : Shooting ℝ layout) (column : Fin layout.size) :
    (shooting.gradient ends).get column =
      ∑ k, (ends.get k).cotangents.along (stateOf (Column.unit column) k)
        (controlOf (Column.unit column) k) := by
  obtain ⟨node, i, rfl⟩ | ⟨interval, i, rfl⟩ := layout.place_cases column
  · simp only [stateOf, controlOf, Layout.state_unit_statePlace, Layout.control_unit_statePlace]
    refine Fin.lastCases ?_ ?_ node
    · rw [get_gradient_lastPlace]
      refine (Finset.sum_eq_zero ?_).symm
      intro k _
      rw [Fin.val_last, if_neg k.isLt.ne', Cotangents.along_zero_zero]
    · intro k
      rw [get_gradient_statePlace, zero_add, Finset.sum_eq_single k]
      · rw [Fin.val_castSucc, if_pos rfl, Cotangents.along_unit_zero]
      · intro other _ differ
        rw [if_neg fun same => differ (Fin.ext same.symm), Cotangents.along_zero_zero]
      · exact fun absent => absurd (Finset.mem_univ k) absent
  · simp only [stateOf, controlOf, Layout.state_unit_controlPlace,
      Layout.control_unit_controlPlace]
    rw [get_gradient_controlPlace, zero_add, Finset.sum_eq_single interval]
    · rw [if_pos rfl, Cotangents.along_zero_unit]
    · intro other _ differ
      rw [if_neg fun same => differ (Fin.ext same.symm), Cotangents.along_zero_zero]
    · exact fun absent => absurd (Finset.mem_univ interval) absent

variable {vector : Vector ℝ layout.size}

/-- **A row of the initial condition in the sparse Jacobian**, component by component. -/
theorem get_dense_initialRow (differentiated : shooting.initial.IsDifferentiated)
    (i : Fin shooting.initial.count) (column : Fin layout.size) :
    ((shooting.evaluationAt (Pattern.ofPlaces _ _ shooting.places) vector ends).jacobian.dense.get
        (shooting.initialRow i)).get column =
      Column.dot ((shooting.initial.jacobian (shooting.start vector)).get i)
        (shooting.start (Column.unit column)) := by
  by_cases stored : ∃ j, (i.val, j.val) ∈ shooting.initial.pattern ∧
      layout.statePlace 0 j = column
  · obtain ⟨j, listed, rfl⟩ := stored
    simp only [start, Layout.state_unit_statePlace, Fin.val_zero, if_true, Column.dot_unit]
    exact get_jacobianAt_initialRow differentiated.rowMajor listed
  · have zero : ((shooting.jacobianAt vector ends).dense.get (shooting.initialRow i)).get column =
        0 := get_jacobianAt_initialRow_of_absent differentiated.rowMajor fun j listed same =>
      stored ⟨j, listed, same⟩
    refine zero.trans ?_
    obtain ⟨node, j, rfl⟩ | ⟨interval, j, rfl⟩ := layout.place_cases column
    · simp only [start, Layout.state_unit_statePlace]
      by_cases first : node.val = 0
      · -- The column is one of the first states, so the entry is not listed and has to be zero.
        rw [if_pos first, Column.dot_unit]
        by_contra nonzero
        exact stored ⟨j, differentiated.listed _ i j (Ne.symm nonzero),
          congrArg (layout.statePlace · j) (Fin.ext first.symm)⟩
      · rw [if_neg first, Column.dot_zero]
    · simp only [start, Layout.state_unit_controlPlace, Column.dot_zero]

/-- **A row of a link in the sparse Jacobian**, component by component. -/
theorem get_dense_linkRow
    (rowMajor : IsRowMajor shooting.initial.count layout.nx shooting.initial.pattern)
    (link : Fin shooting.links) (i : Fin layout.nx) (column : Fin layout.size) :
    ((shooting.evaluationAt (Pattern.ofPlaces _ _ shooting.places) vector ends).jacobian.dense.get
        (shooting.linkRow link i)).get column =
      ((ends.get (shooting.linked link)).tangents.along
          (stateOf (Column.unit column) (shooting.linked link))
          (controlOf (Column.unit column) (shooting.linked link))).get i -
        (Column.unit column : Vector ℝ layout.size).get
          (layout.statePlace (shooting.linked link).succ i) := by
  have blocks : shooting.HoldsBlocks vector ends (shooting.jacobianAt vector ends).dense :=
    holdsBlocks_jacobianAt rowMajor
  obtain ⟨node, j, rfl⟩ | ⟨interval, j, rfl⟩ := layout.place_cases column
  · simp only [stateOf, controlOf, Layout.state_unit_statePlace, Layout.control_unit_statePlace,
      Column.get_unit, Layout.statePlace_inj]
    by_cases here : node.val = (shooting.linked link).val
    · obtain rfl : node = (shooting.linked link).castSucc := Fin.ext here
      have apart : (shooting.linked link).castSucc ≠ (shooting.linked link).succ :=
        Fin.castSucc_lt_succ.ne
      rw [if_pos here, if_neg fun both => apart both.1, Tangents.along_unit_zero, sub_zero]
      exact blocks.byState link i j
    · rw [if_neg here, Tangents.along_zero_zero, zero_sub]
      by_cases next : node = (shooting.linked link).succ
      · rw [next]
        refine (blocks.byNext link i j).trans ?_
        by_cases diagonal : i = j
        · rw [if_pos diagonal, if_pos ⟨rfl, diagonal.symm⟩]
        · rw [if_neg diagonal, if_neg fun both => diagonal both.2.symm, neg_zero]
      · rw [if_neg fun both => next both.1, neg_zero]
        refine blocks.link_zero link i _ (fun k same => ?_) (fun k same => ?_) (fun k same => ?_)
        · exact here (congrArg Fin.val (layout.statePlace_inj.mp same).1.symm)
        · exact layout.statePlace_ne_controlPlace _ _ _ _ same.symm
        · exact next (layout.statePlace_inj.mp same).1.symm
  · simp only [stateOf, controlOf, Layout.state_unit_controlPlace,
      Layout.control_unit_controlPlace]
    rw [Column.get_unit, if_neg (layout.statePlace_ne_controlPlace _ _ _ _).symm, sub_zero]
    by_cases here : interval.val = (shooting.linked link).val
    · obtain rfl : interval = shooting.linked link := Fin.ext here
      rw [if_pos rfl, Tangents.along_zero_unit]
      exact blocks.byControl link i j
    · rw [if_neg here, Tangents.along_zero_zero]
      refine blocks.link_zero link i _ (fun k same => ?_) (fun k same => ?_) (fun k same => ?_)
      · exact layout.statePlace_ne_controlPlace _ _ _ _ same
      · exact here (congrArg Fin.val (layout.controlPlace_inj.mp same).1.symm)
      · exact layout.statePlace_ne_controlPlace _ _ _ _ same

end Components

/-! ### Evaluations -/

/-- Gradient and Jacobian of an evaluation hold all first partial derivatives of the objective and
of the rows, and the rows have no derivative other than zero outside of the places. -/
structure HasDerivatives (places : List (Nat × Nat)) {n m : Nat} (objective : Vector ℝ n → ℝ)
    (rows : Vector ℝ n → Vector ℝ m) (point : Vector ℝ n) (evaluation : Evaluation ℝ n m) :
    Prop where
  gradient : ∀ column, HasPartial objective column (evaluation.gradient.get column) point
  jacobian : ∀ row column, HasPartial (fun vector => (rows vector).get row) column
    ((evaluation.jacobian.dense.get row).get column) point
  outside : ∀ row column, (row.val, column.val) ∉ places →
    HasPartial (fun vector => (rows vector).get row) column 0 point

/-- An evaluation holds the derivatives of the costs that add up and of the rows. -/
theorem hasDerivatives_evaluationAt (dynamics : shooting.interval.dynamics.IsDifferentiated)
    (initial : shooting.initial.IsDifferentiated) (vector : Vector ℝ layout.size) :
    HasDerivatives shooting.places
      (fun vector => totalCost ((shooting.endsOf vector).map Propagated.cost))
      (fun vector => shooting.constraintsAt vector ((shooting.endsOf vector).map Propagated.state))
      vector (shooting.evaluationAt (Pattern.ofPlaces _ _ shooting.places) vector
        (shooting.differentiatedEndsOf vector)) := by
  have rowMajor := isRowMajor_places initial.rowMajor
  have moves (column : Fin layout.size) := moves_set vector column
  have jacobian (row : Fin shooting.rows.count) (column : Fin layout.size) :
      HasPartial (fun vector => (shooting.constraintsAt vector
          ((shooting.endsOf vector).map Propagated.state)).get row) column
        (((shooting.evaluationAt (Pattern.ofPlaces _ _ shooting.places) vector
          (shooting.differentiatedEndsOf vector)).jacobian.dense.get row).get column) vector := by
    unfold HasPartial
    obtain ⟨i, rfl⟩ | ⟨link, i, rfl⟩ := shooting.row_cases row
    · have rate := hasDerivAt_initialRow initial (moves column) i
      rw [set_get_self] at rate
      simp only [get_constraintsAt_initialRow, get_dense_initialRow initial]
      exact rate
    · have rate := hasDerivAt_linkRow dynamics (moves column) link i
      rw [set_get_self] at rate
      simp only [get_constraintsAt_linkRow, Vector.get_map, get_dense_linkRow initial.rowMajor]
      exact rate
  refine ⟨?_, jacobian, ?_⟩
  · intro column
    have rate := hasDerivAt_objective dynamics (moves column)
    rw [set_get_self, ← get_gradient shooting] at rate
    exact rate
  · intro row column absent
    have zero := jacobian row column
    rwa [evaluationAt, Compressed.get_dense_of_notMem rowMajor length_jacobianValues absent] at zero

/-- **Exact derivatives.** When the model functions come with their true derivatives, every
evaluation of a shooting problem succeeds, and its gradient and its sparse Jacobian hold the partial
derivatives of objective and constraints with respect to every component of the decision vector. -/
theorem evaluate_derivatives (shooting : Shooting ℝ layout)
    (dynamics : shooting.interval.dynamics.IsDifferentiated)
    (initial : shooting.initial.IsDifferentiated) :
    ∃ pattern objective rows,
      Pattern.ofPlaces? shooting.rows.count layout.size shooting.places = some pattern ∧
      (∀ vector, shooting.objective vector = .ok (objective vector)) ∧
      (∀ vector, shooting.constraints vector = .ok (rows vector)) ∧
      ∀ vector, ∃ evaluation, shooting.evaluate pattern vector = .ok evaluation ∧
        HasDerivatives shooting.places objective rows vector evaluation := by
  exact ⟨_, _, _, Pattern.ofPlaces?_of_isRowMajor (isRowMajor_places initial.rowMajor),
    shooting.objective_real, shooting.constraints_real, fun vector =>
      ⟨_, shooting.evaluate_real _ vector, hasDerivatives_evaluationAt dynamics initial vector⟩⟩

/-! ### A growing state -/

namespace growth

/-- A state that grows at the rate of its product with the control, at the cost of its square. -/
noncomputable def dynamics : Dynamics ℝ 1 1 where
  rate point := Vector.ofFn fun _ => point.get 0 * point.get 1
  cost point := point.get 0 * point.get 0
  rateJacobian point := Vector.ofFn fun _ =>
    Column.add (Column.scale (point.get 0) (Column.unit 1))
      (Column.scale (point.get 1) (Column.unit 0))
  costGradient point :=
    Column.add (Column.scale (point.get 0) (Column.unit 0))
      (Column.scale (point.get 0) (Column.unit 0))

/-- The start has to be zero. -/
noncomputable def initial : InitialCondition ℝ 1 where
  count := 1
  residual start := start
  jacobian _ := Dense.identity 1
  pattern := [(0, 0)]

/-- Two intervals of three sub-steps, only the first one being linked. -/
noncomputable def problem : Shooting ℝ ⟨1, 1, 2⟩ :=
  ⟨⟨dynamics, 1, 3⟩, initial, 1, by decide⟩

theorem dynamics_isDifferentiated : problem.interval.dynamics.IsDifferentiated where
  rate point i := by
    simp only [problem, dynamics, Vector.get_ofFn]
    exact hasGradient_mul 0 1 point
  cost point := hasGradient_mul 0 0 point

theorem initial_isDifferentiated : problem.initial.IsDifferentiated where
  residual state i := by
    have row : (problem.initial.jacobian state).get i = Column.unit i :=
      ext_get fun j => (Dense.get_identity i j).trans (Column.get_unit i j).symm
    rw [row]
    exact hasGradient_get i state
  listed state i j _ := by
    have first : i = ⟨0, Nat.one_pos⟩ := Fin.fin_one_eq_zero i
    have second : j = 0 := Fin.fin_one_eq_zero j
    rw [first, second]
    exact List.mem_cons_self
  rowMajor := by
    refine ⟨List.pairwise_singleton _ _, ?_⟩
    intro place among
    rw [List.mem_singleton.mp among]
    exact ⟨Nat.one_pos, Nat.one_pos⟩

end growth

/-- Exact derivatives of a growing state. -/
theorem evaluate_derivatives_growth :
    growth.problem.interval.dynamics.IsDifferentiated ∧
      growth.problem.initial.IsDifferentiated ∧ ∃ pattern objective rows,
        Pattern.ofPlaces? _ _ growth.problem.places = some pattern ∧
        (∀ vector, growth.problem.objective vector = .ok (objective vector)) ∧
        (∀ vector, growth.problem.constraints vector = .ok (rows vector)) ∧
        ∀ vector, ∃ evaluation, growth.problem.evaluate pattern vector = .ok evaluation ∧
          HasDerivatives growth.problem.places objective rows vector evaluation :=
  ⟨growth.dynamics_isDifferentiated, growth.initial_isDifferentiated,
    evaluate_derivatives growth.problem growth.dynamics_isDifferentiated
      growth.initial_isDifferentiated⟩

end Shooting

end MultipleShooting
