/-
**What a converged solution delivers.**

Read over the real numbers and with any solver of linear systems, the trajectory of a problem that
was solved and converged is one of the discrete dynamics (`Problem.solveWith_delivers`): it starts
where the initial condition vanishes within the tolerance, every linked interval ends within the
tolerance of the next node, every sample lies between its bounds, and the objective is the sum of
the costs of the intervals.

The argument follows the data: the answer of a problem is that of its transcription
(`Problem.solveWith_eq_ok`), a run that has converged stopped at a clamped point with small
residuals (`Sqp.converged_residual`), and the rows and blocks of that point are those of the
trajectory.
-/
import MultipleShooting.Proofs.Bound
import MultipleShooting.Proofs.Interval.Quadrature
import MultipleShooting.Proofs.Shooting.Quadratic
import MultipleShooting.Proofs.Sqp.Run
import MultipleShooting.Proofs.Sqp.Settings
import MultipleShooting.Proofs.Trajectory
import MultipleShooting.Solve

namespace MultipleShooting

/-! ### The answer of a problem -/

/-- What it takes for a problem to have an answer. -/
theorem Problem.solveWith_eq_ok {α : Type} [Number α] {linear : LinearSolver α}
    {problem : Problem α} {solved : Solved α} :
    (problem.solveWith linear).answer = .ok solved ↔
      (∃ level, problem.level = .ok level) ∧ ∃ transcription run,
        transcribe problem.horizon problem.model = .ok transcription ∧
        Sqp.solveWith linear problem.settings transcription.nlp = .ok run ∧
        Trajectory.ofVector transcription.layout run.solution.point transcription.duration
          problem.model.states problem.model.controls = .ok solved.trajectory ∧
        solved.solution = run.solution := by
  constructor
  · intro answered
    unfold Problem.solveWith at answered
    split at answered
    · cases answered
    · next level known =>
      split at answered
      · cases answered
      · next transcription transcribed =>
        unfold Problem.solveTranscribed at answered
        split at answered
        · cases answered
        · next run ran =>
          simp only at answered
          split at answered
          · cases answered
          · next trajectory read =>
            cases answered
            exact ⟨⟨level, known⟩, transcription, run, transcribed, ran, read, rfl⟩
  · rintro ⟨⟨level, known⟩, transcription, run, transcribed, ran, read, same⟩
    unfold Problem.solveWith
    rw [known, transcribed]
    simp only [Problem.solveTranscribed, ran, read]
    rw [← same]

/-! ### Converged points -/

/-- Where a run has converged, no constraint differs from its bound by more than the tolerance. -/
theorem Sqp.converged_residual {n m : Nat} {settings : SqpSettings ℝ} {problem : Nlp ℝ n m}
    {progress : Sqp.Progress ℝ n m} (evaluated : progress.iterate.IsEvaluated problem)
    (passed : progress.hasConverged settings problem = true) (row : Fin m) :
    |progress.iterate.evaluation.constraints.get row - problem.rowLower.get row| ≤
      settings.tolerance := by
  have small := abs_residual_le_of_hasConverged passed row
  rwa [evaluated.residual, Column.get_sub] at small

/-- A clamped point lies between bounds that do not cross. -/
theorem Sqp.admits_clamp {n m : Nat} {problem : Nlp ℝ n m}
    (apart : ∀ i, (problem.lower.get i).crossed (problem.upper.get i) = false)
    (point : Vector ℝ n) (i : Fin n) :
    Bound.Admits (problem.lower.get i) (problem.upper.get i)
      ((Sqp.clamp problem point).get i) := by
  unfold Sqp.clamp
  rw [Vector.get_ofFn]
  exact Bound.admits_clamp (apart i) _

/-! ### Feasible trajectories -/

/-- States and controls in blocks, with the ends of the intervals. -/
structure Rollout (nx nu nk : Nat) where
  states : Vector (Vector ℝ nx) (nk + 1)
  controls : Vector (Vector ℝ nu) nk
  ends : Vector (Propagated ℝ nx) nk

/-- What a solved problem delivers: the functions of its model, and states and controls that are the
samples of its trajectory. -/
structure Problem.Delivers (problem : Problem ℝ) (solved : Solved ℝ)
    (dynamics : Dynamics ℝ problem.model.stateCount problem.model.controlCount)
    (initial : InitialCondition ℝ problem.model.stateCount)
    (rollout : Rollout problem.model.stateCount problem.model.controlCount
      problem.horizon.intervals) : Prop where
  dynamics_eq : Dynamics.ofModel problem.model = .ok dynamics
  initial_eq : InitialCondition.ofModel problem.model = .ok initial
  stateNames_eq : solved.trajectory.stateNames = problem.model.states
  controlNames_eq : solved.trajectory.controlNames = problem.model.controls
  /-- Sample `k` of a state is the state at node `k`. -/
  states_eq : solved.trajectory.states =
    List.ofFn fun i => List.ofFn fun k => (rollout.states.get k).get i
  /-- Sample `k` of a control is the control in interval `k`. -/
  controls_eq : solved.trajectory.controls =
    List.ofFn fun i => List.ofFn fun k => (rollout.controls.get k).get i
  /-- Every interval can be propagated from its own first node. -/
  ends_eq : ∀ k, Interval.propagate
    ⟨dynamics, problem.horizon.intervalDuration, problem.horizon.substeps⟩
    (rollout.states.get k.castSucc) (rollout.controls.get k) = .ok (rollout.ends.get k)
  /-- The initial condition vanishes within the tolerance. -/
  start : ∀ i, |(initial.residual (rollout.states.get 0)).get i| ≤ problem.settings.tolerance
  /-- Every linked interval ends within the tolerance of the next node. -/
  links : ∀ k : Fin problem.horizon.intervals,
    k.val + 1 < problem.horizon.intervals ∨ problem.horizon.terminalLink = true →
    ∀ i, |(rollout.ends.get k).state.get i - (rollout.states.get k.succ).get i| ≤
      problem.settings.tolerance
  stateBounds : ∀ k i, ∃ lower upper, problem.model.stateLower[i.val]? = some lower ∧
    problem.model.stateUpper[i.val]? = some upper ∧
    Bound.Admits lower upper ((rollout.states.get k).get i)
  controlBounds : ∀ k i, ∃ lower upper, problem.model.controlLower[i.val]? = some lower ∧
    problem.model.controlUpper[i.val]? = some upper ∧
    Bound.Admits lower upper ((rollout.controls.get k).get i)
  /-- The objective is the sum of the costs of the intervals. -/
  objective_eq : solved.solution.objective = ∑ k, (rollout.ends.get k).cost

/-- Where a run on the program of a shooting problem has converged, the residuals at the start and
the gaps of the links are within the tolerance, and the objective is the sum of the costs. -/
theorem Nlp.IsOf.converged_ends {model : Model ℝ} {settings : SqpSettings ℝ} {layout : Layout}
    {shooting : Shooting ℝ layout} {pattern : Pattern shooting.rows.count layout.size}
    {nlp : Nlp ℝ layout.size shooting.rows.count} (isOf : nlp.IsOf model shooting pattern)
    {progress : Sqp.Progress ℝ layout.size shooting.rows.count}
    (evaluated : progress.iterate.IsEvaluated nlp)
    (passed : progress.hasConverged settings nlp = true) :
    ∃ ends : Vector (Propagated ℝ layout.nx) layout.nk,
      (∀ k, shooting.interval.propagate (Shooting.stateOf progress.iterate.point k)
        (Shooting.controlOf progress.iterate.point k) = .ok (ends.get k)) ∧
      (∀ i, |(shooting.initial.residual (shooting.start progress.iterate.point)).get i| ≤
        settings.tolerance) ∧
      (∀ link i, |(ends.get (shooting.linked link)).state.get i -
        progress.iterate.point.get (layout.statePlace (shooting.linked link).succ i)| ≤
          settings.tolerance) ∧
      progress.iterate.evaluation.objective = ∑ k, (ends.get k).cost := by
  have small := Sqp.converged_residual evaluated passed
  have evaluatedHere := evaluated.evaluated
  rw [isOf.functions] at evaluatedHere
  obtain ⟨ends, propagated, sameRows, sameObjective⟩ := Shooting.evaluate_ends evaluatedHere
  rw [isOf.rowLower, sameRows] at small
  refine ⟨ends, propagated, ?_, ?_, ?_⟩
  · intro i
    have here := small (shooting.initialRow i)
    rwa [Shooting.get_constraintsAt_initialRow, Column.get_zero, sub_zero] at here
  · intro link i
    have here := small (shooting.linkRow link i)
    rwa [Shooting.get_constraintsAt_linkRow, Column.get_zero, sub_zero, Vector.get_map] at here
  · rw [sameObjective, Shooting.totalCost_real]
    simp only [Vector.get_map]

/-- A block of a vector clamped between repeated bounds lies between them. -/
theorem Bound.admits_of_fill {n : Nat} {lowers uppers : List (Bound ℝ)}
    {lower upper : Vector (Bound ℝ) n} (sameLower : lower.toList = lowers)
    (sameUpper : upper.toList = uppers) (i : Fin n) {value : ℝ}
    (admitted : Bound.Admits (lower.get i) (upper.get i) value) :
    ∃ low high, lowers[i.val]? = some low ∧ uppers[i.val]? = some high ∧
      Bound.Admits low high value := by
  subst sameLower sameUpper
  refine ⟨lower.get i, upper.get i, ?_, ?_, admitted⟩
  · rw [toList_eq_ofFn, List.getElem?_ofFn, dif_pos i.isLt]
  · rw [toList_eq_ofFn, List.getElem?_ofFn, dif_pos i.isLt]

/-- The link of an interval that is not the last, or of the last one on demand. -/
theorem lt_linkCount {intervals : Nat} {terminalLink : Bool} (k : Fin intervals)
    (isLinked : k.val + 1 < intervals ∨ terminalLink = true) :
    k.val < linkCount intervals terminalLink := by
  unfold linkCount
  by_cases terminal : terminalLink = true
  · rw [if_pos terminal]
    exact k.isLt
  · rw [if_neg terminal]
    have before := isLinked.resolve_right terminal
    omega

/-- **A converged solution delivers a trajectory of the discrete dynamics** that is feasible within
the tolerance and whose cost is the objective, whatever solver of linear systems was used. -/
theorem Problem.solveWith_delivers (linear : LinearSolver ℝ) (problem : Problem ℝ)
    (solved : Solved ℝ) (answered : (problem.solveWith linear).answer = .ok solved)
    (converged : solved.isConverged = true) :
    ∃ dynamics initial rollout, problem.Delivers solved dynamics initial rollout := by
  obtain ⟨_, transcription, run, transcribed, ran, read, sameSolution⟩ :=
    solveWith_eq_ok.mp answered
  obtain ⟨_, _, dynamics, initial, pattern, nlp, compiled, compiledInitial, _, _, isOf, rfl⟩ :=
    transcribe_eq_ok.mp transcribed
  unfold Solved.isConverged NlpSolution.isConverged at converged
  rw [sameSolution, beq_iff_eq] at converged
  obtain ⟨_, count, last, _, _, evaluated, passed, stopped⟩ :=
    Sqp.solveWith_converged ran converged
  rw [stopped] at read sameSolution
  obtain ⟨_, sameStateNames, sameControlNames, sameStates, sameControls⟩ :=
    Trajectory.ofVector_eq_ok read
  obtain ⟨ends, propagated, start, links, objective⟩ := isOf.converged_ends evaluated passed
  obtain ⟨point, clamped⟩ := evaluated.clamped
  have inside := Sqp.admits_clamp (Nlp.not_crossed_of_boundsCross isOf.apart) point
  rw [← clamped] at inside
  obtain ⟨lowerStates, lowerControls, sameStateLower, sameControlLower, sameLower⟩ := isOf.lower
  obtain ⟨upperStates, upperControls, sameStateUpper, sameControlUpper, sameUpper⟩ := isOf.upper
  rw [sameLower, sameUpper] at inside
  refine ⟨dynamics, initial, ⟨Vector.ofFn fun k => Layout.state _ last.iterate.point k
    (Nat.le_of_lt_succ k.isLt), Vector.ofFn fun k => Layout.control _ last.iterate.point k k.isLt,
    ends⟩, ?_⟩
  constructor
  case dynamics_eq => exact compiled
  case initial_eq => exact compiledInitial
  case stateNames_eq => exact sameStateNames
  case controlNames_eq => exact sameControlNames
  case states_eq =>
    simp only [Vector.get_ofFn, Layout.get_state]
    exact sameStates
  case controls_eq =>
    simp only [Vector.get_ofFn, Layout.get_control]
    exact sameControls
  case ends_eq =>
    intro k
    rw [Vector.get_ofFn, Vector.get_ofFn]
    exact propagated k
  case start =>
    intro i
    rw [Vector.get_ofFn]
    exact start i
  case links =>
    intro k isLinked i
    rw [Vector.get_ofFn, Layout.get_state]
    exact links ⟨k, lt_linkCount k isLinked⟩ i
  case stateBounds =>
    intro k i
    rw [Vector.get_ofFn, Layout.get_state]
    have here := inside (Layout.statePlace _ k i)
    rw [Layout.get_fill_statePlace, Layout.get_fill_statePlace] at here
    exact Bound.admits_of_fill sameStateLower sameStateUpper i here
  case controlBounds =>
    intro k i
    rw [Vector.get_ofFn, Layout.get_control]
    have here := inside (Layout.controlPlace _ k i)
    rw [Layout.get_fill_controlPlace, Layout.get_fill_controlPlace] at here
    exact Bound.admits_of_fill sameControlLower sameControlUpper i here
  case objective_eq =>
    rw [sameSolution]
    exact objective

/-! ### A cruise -/

namespace Problem

/-- How far a control `u` is from one. -/
noncomputable def offPace : Expr ℝ := .binary .sub (.var "u") (.const 1)

/-- The problem of a state `x` that begins at minus one and moves at twice the pace of a control
`u`, at the cost of the squared distance of the pace from one. The guess begins elsewhere, and the
cheapest movement is at the bounds of state and control. -/
noncomputable def cruise : Problem ℝ where
  model := { Model.unbounded ["x"] ["u"] [.binary .add (.var "u") (.var "u")]
      (.binary .mul offPace offPace) [.binary .add (.var "x") (.const 1)] with
    stateLower := [.limit (-1)]
    stateUpper := [.limit 1]
    controlLower := [.limit (-1)]
    controlUpper := [.limit 1] }
  horizon := ⟨1, 2, 3, true, false⟩
  settings := { SqpSettings.standard with regularization := 0 }
  logLevel := none

namespace cruise

theorem model_isConsistent : cruise.model.IsConsistent := by
  have position : (Expr.var "x" : Expr ℝ).KnownIn ["x"] := Expr.knownIn_var (by decide)
  have pace : (Expr.var "u" : Expr ℝ).KnownIn ["x", "u"] := Expr.knownIn_var (by decide)
  have cost : offPace.KnownIn ["x", "u"] := Expr.knownIn_binary.mpr ⟨pace, Expr.knownIn_const 1⟩
  have apart : (Bound.limit (-1 : ℝ)).crossed (.limit 1) = false := by
    simp [Bound.crossed, Bound.isNaN, Bound.exceeds]
  constructor
  case named => decide
  case distinct => decide
  case initial_known =>
    exact List.forall_mem_singleton.mpr
      (Expr.knownIn_binary.mpr ⟨position, Expr.knownIn_const 1⟩)
  case dynamics_known =>
    exact List.forall_mem_singleton.mpr (Expr.knownIn_binary.mpr ⟨pace, pace⟩)
  case cost_known => exact Expr.knownIn_binary.mpr ⟨cost, cost⟩
  case boxes =>
    exact List.forall_mem_cons.mpr ⟨⟨apart, rfl⟩, List.forall_mem_singleton.mpr ⟨apart, rfl⟩⟩
  all_goals decide

theorem model_isPolynomial : cruise.model.IsPolynomial := by
  have cost : offPace.IsPolynomial := ⟨.inr (.inl rfl), trivial, trivial⟩
  constructor
  case dynamics => exact List.forall_mem_singleton.mpr ⟨.inl rfl, trivial, trivial⟩
  case cost => exact ⟨.inr (.inr rfl), cost, cost⟩
  case initial => exact List.forall_mem_singleton.mpr ⟨.inl rfl, trivial, trivial⟩

theorem horizon_valid : cruise.horizon.validate = .ok () :=
  Horizon.validate_real.mpr ⟨one_pos, Nat.two_pos, Nat.succ_pos 2⟩

theorem settings_valid : cruise.settings.validate = .ok () := by
  refine SqpSettings.validate_real.mpr ?_
  simp only [cruise, SqpSettings.standard]
  norm_num

/-! #### The quadratic program -/

section Program

open Matrix

/-- The cost of the paces and the rows of start and links, as functions of the states and the paces
in turn. -/
def program : QuadraticProgram 5 3 where
  curvature := diagonal ![0, 1, 0, 1, 0]
  linear := ![0, -1, 0, -1, 0]
  constant := 1
  rows := !![1, 0, 0, 0, 0; 1, 1, -1, 0, 0; 0, 0, 1, 1, -1]
  offset := ![1, 0, 0]

theorem program_objective (v : Fin 5 → ℝ) : program.objective v =
    (v 1 - 1) * (v 1 - 1) * (1 / 2) + (v 3 - 1) * (v 3 - 1) * (1 / 2) := by
  simp only [QuadraticProgram.objective, program, mulVec_diagonal, dotProduct, Fin.sum_univ_five]
  simp
  ring

theorem program_rows (v : Fin 5 → ℝ) :
    program.rows *ᵥ v = ![v 0, v 0 + v 1 - v 2, v 2 + v 3 - v 4] := by
  ext row
  fin_cases row <;> simp [program, dotProduct, Fin.sum_univ_five] <;> ring

theorem program_constraints (v : Fin 5 → ℝ) :
    program.constraints v = ![v 0 + 1, v 0 + v 1 - v 2, v 2 + v 3 - v 4] := by
  unfold QuadraticProgram.constraints
  rw [program_rows]
  ext row
  fin_cases row <;> simp [program]

/-- Where the rows vanish every movement comes from a pace. -/
theorem program_curves : Sqp.CurvesAlong program.curvature program.rows := by
  intro step along moves
  rw [program_rows] at along
  have start : step 0 = 0 := congrFun along 0
  have first : step 0 + step 1 - step 2 = 0 := congrFun along 1
  have second : step 2 + step 3 - step 4 = 0 := congrFun along 2
  have form : step ⬝ᵥ program.curvature *ᵥ step = step 1 ^ 2 + step 3 ^ 2 := by
    simp only [program, mulVec_diagonal, dotProduct, Fin.sum_univ_five]
    simp
    ring
  have paced : step 1 ≠ 0 ∨ step 3 ≠ 0 := by
    by_contra still
    push Not at still
    have middle : step 2 = 0 := by linarith
    have last : step 4 = 0 := by linarith
    refine moves (funext fun place => ?_)
    fin_cases place
    exacts [start, still.1, middle, still.2, last]
  rw [form]
  rcases paced with paced | paced
  · positivity
  · positivity

theorem program_independent : LinearIndependent ℝ program.rows.row := by
  refine Fintype.linearIndependent_iff.mpr ?_
  intro factors vanishes
  have column (place : Fin 5) : factors 0 * program.rows 0 place +
      factors 1 * program.rows 1 place + factors 2 * program.rows 2 place = 0 := by
    have here := congrFun vanishes place
    rwa [Fin.sum_univ_three] at here
  have first : factors 1 = 0 := by simpa [program] using column 1
  have second : factors 2 = 0 := by simpa [program] using column 3
  have start : factors 0 = 0 := by simpa [program, first] using column 0
  intro row
  fin_cases row
  exacts [start, first, second]

theorem program_regular : program.IsRegular where
  convex := by
    refine posSemidef_diagonal_iff.mpr ?_
    intro place
    fin_cases place <;> simp
  curves := program_curves
  independent := program_independent

/-- The cheapest movement has the pace one everywhere. -/
theorem program_minimiser : program.IsMinimiser 0 ![-1, 1, 0, 1, 1] := by
  have feasible : program.constraints ![-1, 1, 0, 1, 1] = 0 := by
    rw [program_constraints]
    ext row
    fin_cases row <;> simp
  have level : program.gradient ![-1, 1, 0, 1, 1] = 0 := by
    ext place
    fin_cases place <;> simp [QuadraticProgram.gradient, program, mulVec_diagonal]
  have balanced : program.gradient ![-1, 1, 0, 1, 1] + program.rowsᵀ *ᵥ 0 = 0 := by
    rw [level, mulVec_zero, add_zero]
  exact QuadraticProgram.isMinimiser_of_stationary program_regular feasible balanced

end Program

/-! #### The transcription -/

/-- The layout of one state, one control and two intervals. -/
def layout : Layout := ⟨1, 1, 2⟩

/-- The condition at the start. -/
noncomputable def initial : InitialCondition ℝ 1 where
  count := 1
  residual := valuesAt [fun point => point.get ⟨0, Nat.one_pos⟩ + 1] 1
  jacobian := SparseFunction.dense ⟨1, 1, [⟨0, 0, fun _ => 1⟩]⟩ 1 1
  pattern := [(0, 0)]

theorem initial_ofModel : InitialCondition.ofModel cruise.model = .ok initial := by
  have names : cruise.model.states = ["x"] := rfl
  have residuals : cruise.model.initial = [.binary .add (.var "x") (.const 1)] := rfl
  have slope : SparseFunction.nonzero
      (Expr.jacobian [.binary .add (.var "x") (.const (1 : ℝ))] ["x"]) = [⟨0, 0, .const 1⟩] := by
    have row : Expr.jacobian [.binary .add (.var "x") (.const (1 : ℝ))] ["x"] =
        [[.const (1 + 0)]] := rfl
    simp [row, SparseFunction.nonzero, Expr.isZero]
  have found : cruise.model.stateVector.finIdxOf? "x" = some ⟨0, Nat.one_pos⟩ := by
    show (⟨#["x"], rfl⟩ : Vector String 1).finIdxOf? "x" = some 0
    cbv
  simp only [InitialCondition.ofModel, SparseFunction.ofFunctions, names, residuals, slope,
    Expr.compileAll, Expr.compile, found]
  rfl

/-- The shooting problem. -/
noncomputable def shooting (dynamics : Dynamics ℝ 1 1) : Shooting ℝ layout :=
  Shooting.ofHorizon cruise.horizon dynamics initial

theorem duration_eq (dynamics : Dynamics ℝ 1 1) :
    (shooting dynamics).interval.duration = 1 / 2 := by
  show (1 : ℝ) / ((2 : ℕ) : ℝ) = 1 / 2
  norm_num

/-- The state moves at twice the pace of the control. -/
structure IsSteered (dynamics : Dynamics ℝ 1 1) : Prop where
  drifts : dynamics.Drifts fun control => Column.add control control
  cost : ∀ state control : Vector ℝ 1,
    dynamics.cost (state ++ control) = (control.get 0 - 1) * (control.get 0 - 1)

theorem isSteered_of_ofModel {dynamics : Dynamics ℝ 1 1}
    (compiled : Dynamics.ofModel cruise.model = .ok dynamics) : IsSteered dynamics := by
  have found : cruise.model.argumentVector.finIdxOf? "u" = some (1 : Fin 2) := by
    show (⟨#["x", "u"], rfl⟩ : Vector String 2).finIdxOf? "u" = some 1
    cbv
  have pace (state control : Vector ℝ 1) : (Expr.var "u").value
      (Expr.argumentOf cruise.model.argumentVector (state ++ control)) = control.get 0 := by
    show Expr.argumentOf _ _ "u" = _
    unfold Expr.argumentOf
    rw [found]
    exact get_append_natAdd state control 0
  constructor
  · intro state control
    apply ext_get
    intro i
    have rate := (Dynamics.values_of_ofModel compiled (state ++ control)).1 (0 : Fin 1) _ rfl
    rw [Expr.value_add, pace] at rate
    rw [Column.get_add, Fin.fin_one_eq_zero i]
    exact rate
  · intro state control
    refine (Dynamics.values_of_ofModel compiled (state ++ control)).2.trans ?_
    have cost : cruise.model.cost = .binary .mul offPace offPace := rfl
    rw [cost]
    simp [offPace, pace]

section Steered

variable {dynamics : Dynamics ℝ 1 1} (steered : IsSteered dynamics)
include steered

/-- An interval ends where its pace leads. -/
theorem endOf_eq (state control : Vector ℝ 1) :
    (shooting dynamics).interval.endOf state control =
      ⟨Column.add state control, (control.get 0 - 1) * (control.get 0 - 1) * (1 / 2)⟩ := by
  have drifts : (shooting dynamics).interval.dynamics.Drifts fun control =>
    Column.add control control := steered.drifts
  have ends := Interval.endOf_drifted_of_constant drifts three_pos
    (fun state => steered.cost state control) state
  have halves : drifted state (Column.add control control) (1 / 2) = Column.add state control := by
    apply ext_get
    intro i
    simp only [drifted, Column.get_add, Column.get_scale]
    ring
  rw [duration_eq] at ends
  exact ends.trans (congrArg₂ Propagated.mk halves rfl)

theorem get_endsOf (vector : Vector ℝ layout.size) (k : Fin layout.nk) :
    ((shooting dynamics).endsOf vector).get k =
      ⟨Column.add (Shooting.stateOf vector k) (Shooting.controlOf vector k),
        (vector.get (layout.controlPlace k (0 : Fin 1)) - 1) *
          (vector.get (layout.controlPlace k (0 : Fin 1)) - 1) * (1 / 2)⟩ := by
  refine (Vector.get_ofFn _ k).trans ((endOf_eq steered _ _).trans ?_)
  exact congrArg (fun pace : ℝ => Propagated.mk _ ((pace - 1) * (pace - 1) * (1 / 2)))
    (layout.get_control vector ..)

/-- The gap after an interval is what its pace leaves. -/
theorem get_linkRow (vector : Vector ℝ layout.size) (link : Fin (shooting dynamics).links)
    (i : Fin 1) :
    ((shooting dynamics).constraintsAt vector
        (((shooting dynamics).endsOf vector).map Propagated.state)).get
          ((shooting dynamics).linkRow link i) =
      vector.get (layout.statePlace ((shooting dynamics).linked link).castSucc i) +
        vector.get (layout.controlPlace ((shooting dynamics).linked link) i) -
          vector.get (layout.statePlace ((shooting dynamics).linked link).succ i) := by
  refine (Shooting.get_constraintsAt_linkRow ..).trans (congrArg (· - _) ?_)
  rw [Vector.get_map, get_endsOf steered]
  refine (Column.get_add ..).trans ?_
  exact congrArg₂ (fun start pace : ℝ => start + pace) (layout.get_state ..)
    (layout.get_control ..)

theorem isQuadratic : (shooting dynamics).IsQuadratic program := by
  constructor
  · intro vector
    rw [Shooting.totalCost_real]
    simp only [Vector.get_map, get_endsOf steered]
    exact (Fin.sum_univ_two _).trans (program_objective vector.get).symm
  · intro vector
    refine Eq.trans ?_ (program_constraints vector.get).symm
    funext row
    obtain ⟨i, rfl⟩ | ⟨link, i, rfl⟩ := (shooting dynamics).row_cases row
    · have only : i = ⟨0, Nat.one_pos⟩ := Fin.fin_one_eq_zero i
      rw [Shooting.get_constraintsAt_initialRow, only]
      refine (Vector.get_ofFn _ _).trans ?_
      exact congrArg (fun start : ℝ => start + 1) (layout.get_state ..)
    · have only : i = ⟨0, Nat.one_pos⟩ := Fin.fin_one_eq_zero i
      refine (get_linkRow steered vector link i).trans ?_
      rw [only]
      revert link
      exact Fin.forall_fin_two.mpr ⟨rfl, rfl⟩

end Steered

/-- The problem is transcribed into the quadratic program. -/
theorem transcribed : ∃ dynamics nlp pattern,
    transcribe cruise.horizon cruise.model =
        .ok ⟨layout, shooting dynamics, nlp, cruise.horizon.intervalDuration⟩ ∧
      nlp.IsOf cruise.model (shooting dynamics) pattern ∧ Sqp.EvaluatesTo nlp program := by
  obtain ⟨dynamics, _, nlp, compiled, compiledInitial, transcribed, isOf, evaluates⟩ :=
    transcribe_polynomial model_isConsistent (by decide) model_isPolynomial horizon_valid
  cases initial_ofModel.symm.trans compiledInitial
  exact ⟨dynamics, nlp, _, transcribed, isOf, evaluates program program_regular.isSymm
    (isQuadratic (isSteered_of_ofModel compiled))⟩

/-! #### The run -/

/-- The movement at pace one. -/
def steady : Vector ℝ layout.size := #v[-1, 1, 0, 1, 1]

theorem get_steady : steady.get = ![-1, 1, 0, 1, 1] := by
  funext place
  revert place
  show ∀ place : Fin 5, _
  intro place
  fin_cases place <;> rfl

/-- A vector that is the same everywhere. -/
theorem get_filled {β : Type} {values : Vector β layout.size} {value : β}
    (filled : ∃ states controls, states.toList = [value] ∧ controls.toList = [value] ∧
      values = layout.fill states controls) (place : Fin layout.size) :
    values.get place = value := by
  obtain ⟨states, controls, sameStates, sameControls, rfl⟩ := filled
  obtain rfl : states = ⟨#[value], rfl⟩ := Vector.toList_inj.mp sameStates
  obtain rfl : controls = ⟨#[value], rfl⟩ := Vector.toList_inj.mp sameControls
  revert place
  show ∀ place : Fin 5, _
  intro place
  fin_cases place <;> rfl

section Nlp

variable {dynamics : Dynamics ℝ 1 1} {pattern : Pattern (shooting dynamics).rows.count layout.size}
  {nlp : Nlp ℝ layout.size (shooting dynamics).rows.count}
  (isOf : nlp.IsOf cruise.model (shooting dynamics) pattern)
include isOf

/-- A point between the bounds is not clamped. -/
theorem clamp_eq {point : Vector ℝ layout.size}
    (between : ∀ place, -1 ≤ point.get place ∧ point.get place ≤ 1) :
    Sqp.clamp nlp point = point := by
  apply ext_get
  intro place
  unfold Sqp.clamp
  rw [Vector.get_ofFn, get_filled isOf.lower, get_filled isOf.upper]
  exact Bound.clamp_of_between (between place).1 (between place).2

theorem clamp_start : Sqp.clamp nlp nlp.start = nlp.start := by
  refine clamp_eq isOf ?_
  intro place
  rw [get_filled isOf.start]
  norm_num

/-- At the start no variable is frozen. -/
theorem free (gradient : Vector ℝ layout.size) (place : Fin layout.size) :
    (Sqp.frozen nlp nlp.start gradient).get place = false := by
  unfold Sqp.frozen
  rw [Vector.get_ofFn, get_filled isOf.lower, get_filled isOf.upper, get_filled isOf.start]
  simp [Bound.reachedFromAbove, Bound.reachedFromBelow]

theorem get_rowLower : nlp.rowLower.get = 0 := by
  rw [isOf.rowLower]
  exact Column.get_zero_real

/-- The movement at pace one is the only minimiser. -/
theorem eq_steady {point : Vector ℝ layout.size}
    (minimal : program.IsMinimiser nlp.rowLower.get point.get) : point = steady := by
  rw [get_rowLower isOf] at minimal
  exact ext_get (congrFun ((minimal.unique program_minimiser).trans get_steady.symm))

theorem leavesRoom : Sqp.LeavesRoom nlp program := by
  intro point minimal
  rw [eq_steady isOf minimal]
  refine clamp_eq isOf ?_
  rw [get_steady]
  show ∀ place : Fin 5, _
  intro place
  fin_cases place <;> norm_num

/-- At the start the state is not where it has to begin. -/
theorem violated {evaluation : Evaluation ℝ layout.size (shooting dynamics).rows.count}
    (fits : (Sqp.Iterate.of nlp (Sqp.clamp nlp nlp.start) evaluation).Fits nlp program) :
    (Sqp.startOf cruise.settings nlp evaluation).hasConverged cruise.settings nlp = false := by
  rw [← Bool.not_eq_true]
  intro passes
  have small := Sqp.abs_residual_le_of_hasConverged passes (0 : Fin 3)
  have start : nlp.start.get = 0 := funext (get_filled isOf.start)
  have residual : (Sqp.startOf cruise.settings nlp evaluation).iterate.residual.get =
      ![1, 0, 0] := by
    refine fits.residual.trans ?_
    rw [get_rowLower isOf, sub_zero]
    show program.constraints (Sqp.clamp nlp nlp.start).get = _
    rw [clamp_start isOf, start]
    refine (program_constraints 0).trans ?_
    simp
  rw [residual] at small
  simp only [cruise, SqpSettings.standard] at small
  norm_num at small

end Nlp

/-- The run takes one step. -/
theorem answered : ∃ solved, cruise.solve.answer = .ok solved ∧ solved.isConverged = true ∧
    solved.solution.iterations = 1 ∧ solved.solution.point = [-1, 1, 0, 1, 1] := by
  obtain ⟨dynamics, nlp, pattern, transcribed, isOf, evaluates⟩ := transcribed
  have free (evaluation : Evaluation ℝ layout.size (shooting dynamics).rows.count) (place) :
      (Sqp.frozen nlp (Sqp.clamp nlp nlp.start)
        (Sqp.startOf cruise.settings nlp evaluation).gradient).get place = false := by
    rw [clamp_start isOf]
    exact cruise.free isOf _ place
  obtain ⟨evaluation, run, evaluated, ran, converged, ending⟩ := Sqp.solveWith_regular
    Sqp.solvesNonsingular_elimination settings_valid rfl (by decide)
    (isOf.rowLower.trans isOf.rowUpper.symm) evaluates program_regular (leavesRoom isOf)
    fun evaluation _ => free evaluation
  obtain ⟨passes, -⟩ | ⟨next, -, once, point, minimal⟩ := ending
  · obtain ⟨_, same, fits⟩ := evaluates (Sqp.clamp nlp nlp.start)
    cases evaluated.symm.trans same
    rw [violated isOf fits] at passes
    cases passes
  · rw [eq_steady isOf minimal] at point
    obtain ⟨trajectory, read⟩ : ∃ trajectory, Trajectory.ofVector layout run.solution.point
        cruise.horizon.intervalDuration cruise.model.states cruise.model.controls =
          .ok trajectory := by
      rw [point, Trajectory.ofVector, dif_pos Vector.length_toList]
      exact ⟨_, rfl⟩
    refine ⟨⟨trajectory, run.solution⟩, solveWith_eq_ok.mpr ⟨⟨.info, rfl⟩, _, run, transcribed, ran,
      read, rfl⟩, ?_, once, point⟩
    unfold Solved.isConverged NlpSolution.isConverged
    rw [converged]
    rfl

end cruise

/-- The cruise is found in one step, and its trajectory is delivered. -/
theorem solveWith_delivers_cruise : ∃ solved dynamics initial rollout,
    cruise.solve.answer = .ok solved ∧ solved.isConverged = true ∧
      solved.solution.iterations = 1 ∧ solved.solution.point = [-1, 1, 0, 1, 1] ∧
      cruise.Delivers solved dynamics initial rollout := by
  obtain ⟨solved, answered, converged, once, point⟩ := cruise.answered
  obtain ⟨dynamics, initial, rollout, delivers⟩ :=
    solveWith_delivers (fun _ => Elimination.solve) cruise solved answered converged
  exact ⟨solved, dynamics, initial, rollout, answered, converged, once, point, delivers⟩

end Problem

end MultipleShooting
