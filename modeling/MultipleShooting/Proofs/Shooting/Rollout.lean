/-
**Feasible decision vectors are rollouts.**

Single shooting starts somewhere and passes through one interval after the other, each beginning
where the one before it has ended (`Interval.rollout`). Multiple shooting guesses all nodes at once,
and its constraints tie them together again:

* `Shooting.constraints_eq_zero_iff`: over the real numbers the constraints vanish exactly where the
  initial condition does and every linked interval ends at the states of the next node;
* `Shooting.IsJoined.rollout_take`: in any arithmetic the nodes of such a vector are those of its
  rollout, with the costs of the intervals added up on the way;
* `Shooting.IsRollout.eq_of_start`: linked to its end, the rollout is determined by its start and
  its controls;
* `feasible_iff_rollout`: **the feasible vectors of a transcribed problem are the rollouts**, and
  its objective is what they cost.
-/
import MultipleShooting.Proofs.Shooting.Derivative
import MultipleShooting.Proofs.Shooting.Transcription

namespace MultipleShooting

variable {α : Type} [Number α]

/-! ### One interval after the other -/

namespace Interval

variable {nx nu : Nat} {interval : Interval α nx nu}

/-- State and accrued cost after one more interval. -/
def follow (interval : Interval α nx nu) (reached : Propagated α nx) (control : Vector α nu) :
    Outcome α (Propagated α nx) :=
  (interval.propagate reached.state control).map fun next =>
    ⟨next.state, reached.cost + next.cost⟩

/-- State and accrued cost after one interval for each of the controls. -/
def rollout (interval : Interval α nx nu) (start : Vector α nx) (controls : List (Vector α nu)) :
    Outcome α (Propagated α nx) :=
  controls.foldlM interval.follow ⟨start, 0⟩

theorem follow_eq_ok {reached last : Propagated α nx} {control : Vector α nu} :
    interval.follow reached control = .ok last ↔ ∃ next,
      interval.propagate reached.state control = .ok next ∧
        ⟨next.state, reached.cost + next.cost⟩ = last :=
  map_eq_ok

/-- A rollout with a last control passes through the rollout without it. -/
theorem rollout_concat {start : Vector α nx} {controls : List (Vector α nu)}
    {control : Vector α nu} {last : Propagated α nx} :
    interval.rollout start (controls ++ [control]) = .ok last ↔ ∃ reached,
      interval.rollout start controls = .ok reached ∧
        interval.follow reached control = .ok last := by
  unfold rollout
  rw [List.foldlM_append, bind_eq_ok]
  simp only [List.foldlM_cons, List.foldlM_nil, bind_pure]

end Interval

namespace Shooting

variable {layout : Layout} {shooting : Shooting α layout}

/-- The controls of all intervals in their order. -/
def controlsOf (vector : Vector α layout.size) : List (Vector α layout.nu) :=
  List.ofFn (controlOf vector)

omit [Number α] in
theorem take_succ_controlsOf (vector : Vector α layout.size) (k : Fin layout.nk) :
    (controlsOf vector).take (k + 1) = (controlsOf vector).take k ++ [controlOf vector k] := by
  have inside : k.val < (controlsOf vector).length := by
    rw [controlsOf, List.length_ofFn]
    exact k.isLt
  rw [← List.take_append_getElem inside]
  simp only [controlsOf, List.getElem_ofFn]

/-- The states of the node after an interval. -/
def nextOf (vector : Vector α layout.size) (k : Fin layout.nk) : Vector α layout.nx :=
  layout.state vector (k + 1) (Nat.succ_le_of_lt k.isLt)

omit [Number α] in
theorem get_nextOf (vector : Vector α layout.size) (k : Fin layout.nk) (i : Fin layout.nx) :
    (nextOf vector k).get i = vector.get (layout.statePlace k.succ i) :=
  layout.get_state vector _ _ i

/-- The initial condition vanishes, and every linked interval ends at the states of the next
node. -/
structure IsJoined (shooting : Shooting α layout) (vector : Vector α layout.size) : Prop where
  start : shooting.initial.residual (shooting.start vector) = Column.zero _
  links : ∀ link, ∃ cost, shooting.interval.propagate (stateOf vector (shooting.linked link))
    (controlOf vector (shooting.linked link)) =
      .ok ⟨nextOf vector (shooting.linked link), cost⟩

/-- The initial condition vanishes, and the nodes up to the last linked one are those that the
rollout from the first node reaches. -/
structure IsRollout (shooting : Shooting α layout) (vector : Vector α layout.size) : Prop where
  start : shooting.initial.residual (shooting.start vector) = Column.zero _
  nodes : ∀ node (known : node ≤ layout.nk), node ≤ shooting.links → ∃ cost,
    shooting.interval.rollout (shooting.start vector) ((controlsOf vector).take node) =
      .ok ⟨layout.state vector node known, cost⟩

/-! ### The costs on the way -/

/-- The cost of the first intervals. -/
def costBefore (ends : Vector (Propagated α layout.nx) layout.nk) (node : Nat) : α :=
  ((List.ofFn ends.get).take node).foldl (fun sum reached => sum + reached.cost) 0

theorem costBefore_succ (ends : Vector (Propagated α layout.nx) layout.nk) (k : Fin layout.nk) :
    costBefore ends (k + 1) = costBefore ends k + (ends.get k).cost := by
  have inside : k.val < (List.ofFn ends.get).length := by
    rw [List.length_ofFn]
    exact k.isLt
  unfold costBefore
  rw [← List.take_append_getElem inside, List.foldl_append, List.getElem_ofFn]
  rfl

theorem costBefore_all (ends : Vector (Propagated α layout.nx) layout.nk) :
    costBefore ends layout.nk = totalCost (ends.map Propagated.cost) := by
  unfold costBefore totalCost
  rw [List.take_of_length_le (List.length_ofFn).le, ← toList_eq_ofFn, Vector.foldl_toList,
    Vector.foldl_map]

section Ends

variable {vector : Vector α layout.size} {ends : Vector (Propagated α layout.nx) layout.nk}
  (reached : ∀ k, shooting.interval.propagate (stateOf vector k) (controlOf vector k) =
    .ok (ends.get k))

include reached

/-- One more interval after the node from which it starts. -/
theorem rollout_take_succ (k : Fin layout.nk)
    (rolled : shooting.interval.rollout (shooting.start vector) ((controlsOf vector).take k) =
      .ok ⟨stateOf vector k, costBefore ends k⟩) :
    shooting.interval.rollout (shooting.start vector) ((controlsOf vector).take (k + 1)) =
      .ok ⟨(ends.get k).state, costBefore ends (k + 1)⟩ := by
  rw [take_succ_controlsOf, costBefore_succ]
  exact Interval.rollout_concat.mpr
    ⟨_, rolled, Interval.follow_eq_ok.mpr ⟨_, reached k, rfl⟩⟩

/-- **The nodes of joined intervals are those of the rollout.** -/
theorem IsJoined.rollout_take (joined : shooting.IsJoined vector) (node : Nat)
    (known : node ≤ layout.nk) (inside : node ≤ shooting.links) :
    shooting.interval.rollout (shooting.start vector) ((controlsOf vector).take node) =
      .ok ⟨layout.state vector node known, costBefore ends node⟩ := by
  induction node with
  | zero => rfl
  | succ node ih =>
    have rolled := rollout_take_succ reached ⟨node, known⟩
      (ih (Nat.le_of_succ_le known) (Nat.le_of_succ_le inside))
    obtain ⟨cost, passed⟩ := joined.links ⟨node, inside⟩
    have same := Except.ok.inj ((reached ⟨node, known⟩).symm.trans passed)
    rw [same] at rolled
    exact rolled

/-- Joined intervals are those of a rollout. -/
theorem isJoined_iff_isRollout : shooting.IsJoined vector ↔ shooting.IsRollout vector := by
  constructor
  · intro joined
    exact ⟨joined.start, fun node known inside =>
      ⟨_, joined.rollout_take reached node known inside⟩⟩
  · intro rollout
    refine ⟨rollout.start, fun link => ⟨(ends.get (shooting.linked link)).cost, ?_⟩⟩
    obtain ⟨_, before⟩ := rollout.nodes link (shooting.linked link).isLt.le link.isLt.le
    obtain ⟨_, after⟩ := rollout.nodes (link + 1) (shooting.linked link).isLt link.isLt
    obtain ⟨_, passed, followed⟩ := Interval.rollout_concat.mp
      ((congrArg _ (take_succ_controlsOf vector (shooting.linked link))).symm.trans after)
    cases before.symm.trans passed
    obtain ⟨next, propagated, same⟩ := Interval.follow_eq_ok.mp followed
    cases (reached (shooting.linked link)).symm.trans propagated
    have ended : (ends.get (shooting.linked link)).state = nextOf vector (shooting.linked link) :=
      (Propagated.mk.inj same).1
    rw [reached, ← ended]

/-- **The objective is the cost of the rollout**, when no interval but the last one may be
unlinked. -/
theorem IsJoined.rollout_objective (joined : shooting.IsJoined vector)
    (almostAll : layout.nk ≤ shooting.links + 1) :
    ∃ last, shooting.interval.rollout (shooting.start vector) (controlsOf vector) =
      .ok ⟨last, totalCost (ends.map Propagated.cost)⟩ := by
  have all : (controlsOf vector).take layout.nk = controlsOf vector :=
    List.take_of_length_le (List.length_ofFn).le
  rw [← costBefore_all, ← all]
  rcases Nat.lt_or_ge shooting.links layout.nk with open_ | closed
  · have rolled := rollout_take_succ reached ⟨shooting.links, open_⟩
      (joined.rollout_take reached shooting.links open_.le le_rfl)
    rw [Nat.le_antisymm almostAll open_]
    exact ⟨_, rolled⟩
  · exact ⟨_, joined.rollout_take reached layout.nk le_rfl closed⟩

end Ends

/-- **Linked to its end, a rollout is determined** by its start and its controls. -/
theorem IsRollout.eq_of_start {vector other : Vector α layout.size}
    (rollout : shooting.IsRollout vector) (rolloutOther : shooting.IsRollout other)
    (linked : layout.nk ≤ shooting.links) (sameStart : shooting.start other = shooting.start vector)
    (sameControls : ∀ k : Fin layout.nk, controlOf other k = controlOf vector k) :
    other = vector := by
  have controls : controlsOf other = controlsOf vector := congrArg List.ofFn (funext sameControls)
  refine layout.ext_blocks ?_ sameControls
  intro node known
  obtain ⟨_, here⟩ := rollout.nodes node known (known.trans linked)
  obtain ⟨_, there⟩ := rolloutOther.nodes node known (known.trans linked)
  rw [sameStart, controls, here] at there
  exact (Propagated.mk.inj (Except.ok.inj there)).1.symm

/-- **The constraints vanish** exactly where the initial condition does and every linked interval
ends at the states of the next node. -/
theorem constraints_eq_zero_iff {shooting : Shooting ℝ layout} {vector : Vector ℝ layout.size}
    {rows : Vector ℝ shooting.rows.count} (known : shooting.constraints vector = .ok rows) :
    rows = Column.zero _ ↔ shooting.IsJoined vector := by
  obtain ⟨ends, reached, -, rfl⟩ := constraints_eq_ok.mp known
  constructor
  · intro vanish
    have vanishes (row : Fin shooting.rows.count) :
        (shooting.constraintsAt vector (ends.map Propagated.state)).get row = 0 := by
      rw [vanish, Column.get_zero]
    refine ⟨ext_get fun i => ?_, fun link => ⟨(ends.get (shooting.linked link)).cost, ?_⟩⟩
    · rw [← get_constraintsAt_initialRow, vanishes, Column.get_zero]
    · have ended : (ends.get (shooting.linked link)).state =
          nextOf vector (shooting.linked link) := by
        refine ext_get fun i => ?_
        have gap := vanishes (shooting.linkRow link i)
        rw [get_constraintsAt_linkRow, Vector.get_map] at gap
        rw [get_nextOf]
        exact sub_eq_zero.mp gap
      rw [reached, ← ended]
  · intro joined
    refine ext_get fun row => ?_
    rw [Column.get_zero]
    obtain ⟨i, rfl⟩ | ⟨link, i, rfl⟩ := shooting.row_cases row
    · rw [get_constraintsAt_initialRow, joined.start, Column.get_zero]
    · obtain ⟨_, passed⟩ := joined.links link
      have ended := Except.ok.inj ((reached (shooting.linked link)).symm.trans passed)
      rw [get_constraintsAt_linkRow, Vector.get_map, ended, get_nextOf, sub_self]

end Shooting

/-! ### Transcribed problems -/

/-- No interval but the last one is left unlinked. -/
theorem le_linkCount_succ (intervals : Nat) (terminalLink : Bool) :
    intervals ≤ linkCount intervals terminalLink + 1 := by
  unfold linkCount
  split_ifs <;> omega

/-- **The feasible vectors of a transcribed problem are the rollouts.** Wherever the constraints are
known, they vanish exactly where the initial condition does and every linked interval ends at the
next node. The nodes are then those of the rollout from the first node, the objective is what the
rollout over all intervals costs, and when the last interval is linked too, the vector is the only
feasible one with its start and its controls. -/
theorem feasible_iff_rollout {horizon : Horizon ℝ} {model : Model ℝ} {nx nu nx' : Nat}
    {dynamics : Dynamics ℝ nx nu} {initial : InitialCondition ℝ nx'}
    {transcription : Transcription ℝ}
    (transcribed : transcribeWith horizon model dynamics initial = .ok transcription) :
    ∃ (sameStates : nx' = nx) (shooting : Shooting ℝ ⟨nx, nu, horizon.intervals⟩) (nlp : _),
      shooting = Shooting.ofHorizon horizon dynamics (sameStates ▸ initial) ∧
      transcription = ⟨_, shooting, nlp, horizon.intervalDuration⟩ ∧
      ∀ vector rows, nlp.functions.constraints vector = .ok rows →
        (rows = Column.zero _ ↔ shooting.IsJoined vector) ∧
        (rows = Column.zero _ ↔ shooting.IsRollout vector) ∧
        (rows = Column.zero _ → ∃ reached,
          shooting.interval.rollout (shooting.start vector) (Shooting.controlsOf vector) =
            .ok reached ∧
          nlp.functions.objective vector = .ok reached.cost) ∧
        (horizon.terminalLink = true → rows = Column.zero _ → ∀ other,
          nlp.functions.constraints other = .ok (Column.zero _) →
          shooting.start other = shooting.start vector →
          (∀ k, Shooting.controlOf other k = Shooting.controlOf vector k) → other = vector) := by
  cases states_eq_of_transcribeWith transcribed
  obtain ⟨-, -, -, -, pattern, nlp, -, -, isOf, rfl⟩ := transcribeWith_eq_ok.mp transcribed
  refine ⟨rfl, _, nlp, rfl, rfl, ?_⟩
  rw [isOf.functions]
  intro vector rows known
  have joined := Shooting.constraints_eq_zero_iff known
  obtain ⟨ends, reached, -⟩ := Shooting.constraints_eq_ok.mp known
  have rollout := joined.trans (Shooting.isJoined_iff_isRollout reached)
  refine ⟨joined, rollout, ?_, ?_⟩
  · intro vanish
    obtain ⟨last, rolled⟩ := (joined.mp vanish).rollout_objective reached (le_linkCount_succ _ _)
    exact ⟨_, rolled, Shooting.objective_eq_ok.mpr ⟨ends, reached, rfl⟩⟩
  · intro terminal vanish other knownOther sameStart sameControls
    obtain ⟨_, reachedOther, -⟩ := Shooting.constraints_eq_ok.mp knownOther
    have joinedOther := (Shooting.constraints_eq_zero_iff knownOther).mp rfl
    have linked : horizon.intervals ≤ linkCount horizon.intervals horizon.terminalLink := by
      rw [linkCount, if_pos terminal]
    exact (rollout.mp vanish).eq_of_start
      ((Shooting.isJoined_iff_isRollout reachedOther).mp joinedOther) linked sameStart sameControls

/-! ### An integrator -/

namespace integrator

/-- The state moves at the rate of the control, at the cost of its square. -/
noncomputable def dynamics : Dynamics ℝ 1 1 where
  rate := Column.last
  cost point := Column.dot (Column.last point) (Column.last point)
  rateJacobian _ := Vector.ofFn fun _ => Column.unit (Fin.last 1)
  costGradient point :=
    Column.add (Column.scale (point.get (Fin.last 1)) (Column.unit (Fin.last 1)))
      (Column.scale (point.get (Fin.last 1)) (Column.unit (Fin.last 1)))

noncomputable def model : Model ℝ :=
  Model.unbounded ["x"] ["u"] [.var "u"] (.binary .mul (.var "u") (.var "u")) [.var "x"]

/-- Two intervals of unit length with one sub-step, both linked. -/
noncomputable def horizon : Horizon ℝ := ⟨(2 : ℕ), 2, 1, true, false⟩

/-- The state starts at zero. -/
noncomputable def shooting : Shooting ℝ ⟨1, 1, 2⟩ :=
  Shooting.ofHorizon horizon dynamics Shooting.growth.initial

/-- The nodes zero, one and two, under a control that is held at one. -/
noncomputable def vector : Vector ℝ (Layout.size ⟨1, 1, 2⟩) :=
  Layout.assemble ⟨1, 1, 2⟩ (Vector.ofFn fun node => Vector.ofFn fun _ => (node.val : ℝ))
    (Vector.ofFn fun _ => Vector.ofFn fun _ => 1)

theorem isConsistent : model.IsConsistent := by
  refine Model.isConsistent_unbounded (Number.isFinite_real 0) Nat.one_pos rfl (by decide)
    (by decide) ?_ ?_ ?_
  · rw [List.forall_mem_singleton]
    exact Expr.knownIn_var (by decide)
  · rw [List.forall_mem_singleton]
    exact Expr.knownIn_var (by decide)
  · exact Expr.knownIn_binary.mpr ⟨Expr.knownIn_var (by decide), Expr.knownIn_var (by decide)⟩

theorem transcribed : ∃ nlp, transcribeWith horizon model dynamics Shooting.growth.initial =
    .ok ⟨⟨1, 1, 2⟩, shooting, nlp, horizon.intervalDuration⟩ := by
  have valid : horizon.validate = .ok () :=
    Horizon.validate_real.mpr ⟨Nat.cast_pos.mpr two_pos, two_pos, one_pos⟩
  exact transcribeWith_real dynamics Shooting.growth.initial isConsistent valid rfl rfl
    Shooting.growth.initial_isDifferentiated.rowMajor

/-- Over an interval the control is added to the state. -/
theorem propagate (state control : Vector ℝ 1) : shooting.interval.propagate state control =
    .ok ⟨Column.add state control, Column.dot control control⟩ := by
  have slope (point : Vector ℝ 1) : shooting.interval.slopesAt point control =
      ⟨control, Column.dot control control⟩ := by
    have held : Column.last (point ++ control) = control :=
      ext_get fun i => (Column.get_last _ i).trans (get_append_natAdd point control i)
    show Propagated.mk (Column.last (point ++ control))
      (Column.dot (Column.last (point ++ control)) (Column.last (point ++ control))) = _
    rw [held]
  have step : shooting.interval.step = 1 := by
    show ((2 : ℕ) : ℝ) / ((2 : ℕ) : ℝ) / ((1 : ℕ) : ℝ) = 1
    norm_num
  rw [Interval.propagate_real]
  refine congrArg Except.ok ?_
  show Interval.sweep shooting.interval control ⟨state, 0⟩ = _
  simp only [Interval.sweep, slope, step, Interval.combine]
  refine congrArg₂ Propagated.mk (ext_get fun i => ?_) ?_
  · simp only [Column.get_add, Column.get_scale]
    norm_num
    ring
  · simp only [weightedSum]
    norm_num
    ring

theorem get_state_vector (node : Nat) (known : node ≤ 2) (i : Fin 1) :
    (Layout.state ⟨1, 1, 2⟩ vector node known).get i = node := by
  rw [vector, Layout.state_assemble, Vector.get_ofFn, Vector.get_ofFn]

theorem get_control_vector (k : Fin 2) (i : Fin 1) :
    (Shooting.controlOf vector k).get i = 1 := by
  rw [vector, Shooting.controlOf, Layout.control_assemble, Vector.get_ofFn, Vector.get_ofFn]

/-- The next node is the node with the control added to it. -/
theorem nextOf_vector (k : Fin 2) :
    Column.add (Shooting.stateOf vector k) (Shooting.controlOf vector k) =
      Shooting.nextOf vector k := by
  refine ext_get fun i => ?_
  rw [Column.get_add, Shooting.stateOf, Shooting.nextOf, get_state_vector, get_state_vector,
    get_control_vector, Nat.cast_succ]

theorem isJoined : shooting.IsJoined vector where
  start := by
    refine ext_get fun i => ?_
    rw [Column.get_zero]
    exact (get_state_vector 0 (Nat.zero_le _) i).trans Nat.cast_zero
  links link := by
    rw [← nextOf_vector]
    exact ⟨_, propagate _ _⟩

end integrator

/-- The rollout of an integrator through zero, one and two. -/
theorem feasible_iff_rollout_integrator : ∃ nlp,
    transcribeWith integrator.horizon integrator.model integrator.dynamics
      Shooting.growth.initial =
        .ok ⟨_, integrator.shooting, nlp, integrator.horizon.intervalDuration⟩ ∧
    nlp.functions.constraints integrator.vector = .ok (Column.zero _) ∧
    integrator.shooting.IsRollout integrator.vector ∧
    (∃ reached, integrator.shooting.interval.rollout
        (integrator.shooting.start integrator.vector) (Shooting.controlsOf integrator.vector) =
          .ok reached ∧
      nlp.functions.objective integrator.vector = .ok reached.cost) ∧
    ∀ other, nlp.functions.constraints other = .ok (Column.zero _) →
      integrator.shooting.start other = integrator.shooting.start integrator.vector →
      (∀ k, Shooting.controlOf other k = Shooting.controlOf integrator.vector k) →
        other = integrator.vector := by
  obtain ⟨nlp, transcribed⟩ := integrator.transcribed
  obtain ⟨-, -, -, -, pattern, _, -, -, isOf, same⟩ := transcribeWith_eq_ok.mp transcribed
  cases same
  have answered := integrator.shooting.constraints_real integrator.vector
  rw [(Shooting.constraints_eq_zero_iff answered).mpr integrator.isJoined] at answered
  have known : nlp.functions.constraints integrator.vector = .ok (Column.zero _) := by
    rw [isOf.functions]
    exact answered
  obtain ⟨_, _, _, rfl, same, parts⟩ := feasible_iff_rollout transcribed
  cases same
  obtain ⟨-, rollout, objective, unique⟩ := parts integrator.vector _ known
  exact ⟨nlp, transcribed, known, rollout.mp rfl, objective rfl, unique rfl rfl⟩

end MultipleShooting
