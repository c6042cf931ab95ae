/-
**Every value of the constraint Jacobian lands in its own place.**

The places are fixed once, and values are listed much later; they meet by their order alone. In any
arithmetic, when the places of the initial condition are listed row by row:

* `Shooting.FixesPattern`: the places make a pattern for all sizes, with as many entries as the
  blocks have, and its offsets are the running sums of the entries in the rows;
* `Shooting.HoldsBlocks`: the dense Jacobian has the derivatives of the initial condition by the
  first states, those of the end of an interval by its states and controls, minus the identity by
  the states of the next node, and zero everywhere else;
* `Shooting.places_fixPattern`: **both hold** of every shooting problem and every evaluation that
  succeeds.
-/
import MultipleShooting.Proofs.Shooting.Exact
import MultipleShooting.Proofs.Shooting.Places

namespace MultipleShooting

/-! ### Offsets -/

namespace Pattern

variable {m n : Nat}

theorem length_runningSums (first : Nat) (values : List Nat) :
    (runningSums first values).length = values.length + 1 := by
  induction values generalizing first with
  | nil => rfl
  | cons value values ih => exact congrArg (· + 1) (ih _)

/-- There is an offset for every row and one for the end of the last. -/
theorem length_offsets (places : List (Nat × Nat)) :
    (ofPlaces m n places).offsets.length = m + 1 := by
  unfold ofPlaces
  rw [length_runningSums, List.length_map, List.length_range]

/-- **The offset of a row** is the sum of the counts of the rows before it. -/
theorem getElem?_offsets (places : List (Nat × Nat)) {row : Nat} (inside : row ≤ m) :
    (ofPlaces m n places).offsets[row]? = some
      ((List.range row).map fun index => places.countP fun place => place.1 == index).sum := by
  have known : row < (ofPlaces m n places).offsets.length := by
    rw [length_offsets]
    exact Nat.lt_succ_of_le inside
  have offset := getD_offsets (n := n) places inside
  rw [List.getD_eq_getElem?_getD, List.getElem?_eq_getElem known, Option.getD_some] at offset
  rw [List.getElem?_eq_getElem known, offset, sum_counts]

end Pattern

namespace Shooting

variable {α : Type} {nx nu : Nat}

/-- The shooting problem over a number of intervals, the last of which is linked on demand. -/
def ofParts (interval : Interval α nx nu) (initial : InitialCondition α nx) (nk : Nat)
    (terminalLink : Bool) : Shooting α ⟨nx, nu, nk⟩ where
  interval := interval
  initial := initial
  links := linkCount nk terminalLink
  links_le := linkCount_le nk terminalLink

variable {layout : Layout} {shooting : Shooting α layout}

/-! ### Counts -/

theorem length_linkPlaces (link : Fin shooting.links) (i : Fin layout.nx) :
    (shooting.linkPlaces link i).length = layout.nx + layout.nu + 1 := by
  rw [linkPlaces, List.length_map, linkColumns, List.length_append, List.length_append,
    List.length_ofFn, List.length_ofFn, List.length_singleton]

/-- **The number of places.** -/
theorem length_places (shooting : Shooting α layout) : shooting.places.length =
    shooting.initial.pattern.length +
      shooting.links * layout.nx * (layout.nx + layout.nu + 1) := by
  have ofLink (link : Fin shooting.links) :
      ((List.finRange layout.nx).flatMap (shooting.linkPlaces link)).length =
        layout.nx * (layout.nx + layout.nu + 1) := by
    rw [List.length_flatMap, List.map_congr_left fun i _ => length_linkPlaces link i,
      List.map_const', List.sum_replicate, List.length_finRange, smul_eq_mul]
  rw [places_eq, List.length_append, List.length_flatMap,
    List.map_congr_left fun link _ => ofLink link, List.map_const', List.sum_replicate,
    List.length_finRange, smul_eq_mul, Nat.mul_assoc]

/-- **The pattern of the constraint Jacobian**: its rows are those of both layouts, its places are
listed row by row inside of the matrix, and the offsets of its rows are running sums. -/
structure FixesPattern (shooting : Shooting α layout) (terminalLink : Bool)
    (pattern : Pattern shooting.rows.count layout.size) : Prop where
  rows : (Rows.make shooting.initial.count layout.nx layout.nk terminalLink : Outcome α Rows) =
    .ok shooting.rows
  pattern_eq : Pattern.ofPlaces? shooting.rows.count layout.size shooting.places = some pattern
  rowMajor : IsRowMajor shooting.rows.count layout.size shooting.places
  length : shooting.places.length = shooting.initial.pattern.length +
    (if terminalLink then layout.nk else layout.nk - 1) * layout.nx *
      (layout.nx + layout.nu + 1)
  columns : pattern.places = shooting.places.map (·.2)
  offsets_length : pattern.offsets.length = shooting.rows.count + 1
  offsets : ∀ row ≤ shooting.rows.count, pattern.offsets[row]? = some
    ((List.range row).map fun index => shooting.places.countP fun place => place.1 == index).sum

/-- Places of the initial condition that are listed row by row fix the pattern. -/
theorem fixesPattern_ofParts {interval : Interval α nx nu} {initial : InitialCondition α nx}
    {nk : Nat} (positive : 0 < nk) (terminalLink : Bool)
    (rowMajor : IsRowMajor initial.count nx initial.pattern) :
    (ofParts interval initial nk terminalLink).FixesPattern terminalLink
      (Pattern.ofPlaces _ _ (ofParts interval initial nk terminalLink).places) where
  rows := if_neg positive.ne'
  pattern_eq := Pattern.ofPlaces?_of_isRowMajor (isRowMajor_places rowMajor)
  rowMajor := isRowMajor_places rowMajor
  length := length_places _
  columns := rfl
  offsets_length := Pattern.length_offsets _
  offsets _ inside := Pattern.getElem?_offsets _ inside

/-! ### Values -/

section Values

variable [Number α]

/-- The Jacobian of the constraints with the given ends of the intervals. -/
def jacobianAt (shooting : Shooting α layout) (vector : Vector α layout.size)
    (ends : Vector (Differentiated α layout.nx layout.nu) layout.nk) :
    Compressed α shooting.rows.count layout.size :=
  (shooting.evaluationAt (Pattern.ofPlaces _ _ shooting.places) vector ends).jacobian

variable {vector : Vector α layout.size}
  {ends : Vector (Differentiated α layout.nx layout.nu) layout.nk}
  (rowMajor : IsRowMajor shooting.initial.count layout.nx shooting.initial.pattern)

include rowMajor

/-- A listed derivative of the initial condition stands in its place. -/
theorem get_jacobianAt_initialRow {i : Fin shooting.initial.count} {j : Fin layout.nx}
    (listed : (i.val, j.val) ∈ shooting.initial.pattern) :
    ((shooting.jacobianAt vector ends).dense.get (shooting.initialRow i)).get
        (layout.statePlace 0 j) =
      ((shooting.initial.jacobian (shooting.start vector)).get i).get j :=
  Compressed.get_dense_of_mem (isRowMajor_places rowMajor) length_jacobianValues
    (stored_initialRow listed)

/-- A row of the initial condition is zero elsewhere. -/
theorem get_jacobianAt_initialRow_of_absent {i : Fin shooting.initial.count}
    {column : Fin layout.size}
    (absent : ∀ j, (i.val, j.val) ∈ shooting.initial.pattern → layout.statePlace 0 j ≠ column) :
    ((shooting.jacobianAt vector ends).dense.get (shooting.initialRow i)).get column = 0 := by
  refine Compressed.get_dense_of_notMem (isRowMajor_places rowMajor) length_jacobianValues ?_
  intro among
  obtain ⟨j, listed, same⟩ := (mem_places_initialRow rowMajor).mp among
  exact absent j listed same

/-- An entry of a link's row stands in its place. -/
theorem get_jacobianAt_linkRow {link : Fin shooting.links} {i : Fin layout.nx}
    {column : Fin layout.size} {value : α}
    (among : (column, value) ∈
      shooting.linkEntries link i (ends.get (shooting.linked link)).tangents) :
    ((shooting.jacobianAt vector ends).dense.get (shooting.linkRow link i)).get column = value :=
  Compressed.get_dense_of_mem (isRowMajor_places rowMajor) length_jacobianValues
    (stored_linkRow among)

/-- A link's row is zero elsewhere. -/
theorem get_jacobianAt_linkRow_of_absent {link : Fin shooting.links} {i : Fin layout.nx}
    {column : Fin layout.size} (absent : column ∉ shooting.linkColumns link i) :
    ((shooting.jacobianAt vector ends).dense.get (shooting.linkRow link i)).get column = 0 :=
  Compressed.get_dense_of_notMem (isRowMajor_places rowMajor) length_jacobianValues
    fun among => absent ((mem_places_linkRow rowMajor).mp among)

omit rowMajor in
/-- **The blocks of a Jacobian**, given the ends of the intervals: in the rows of the initial
condition its listed derivatives by the first states; in the rows of a link the derivatives of the
end of its interval by states and controls and minus the identity by the states of the next node;
and zero everywhere else. -/
structure HoldsBlocks (shooting : Shooting α layout) (vector : Vector α layout.size)
    (ends : Vector (Differentiated α layout.nx layout.nu) layout.nk)
    (jacobian : Dense α shooting.rows.count layout.size) : Prop where
  initial : ∀ i j, (i.val, j.val) ∈ shooting.initial.pattern →
    (jacobian.get (shooting.initialRow i)).get (layout.statePlace 0 j) =
      ((shooting.initial.jacobian (shooting.start vector)).get i).get j
  byState : ∀ link i j, (jacobian.get (shooting.linkRow link i)).get
      (layout.statePlace (shooting.linked link).castSucc j) =
    ((ends.get (shooting.linked link)).tangents.byState.get i).get j
  byControl : ∀ link i j, (jacobian.get (shooting.linkRow link i)).get
      (layout.controlPlace (shooting.linked link) j) =
    ((ends.get (shooting.linked link)).tangents.byControl.get i).get j
  byNext : ∀ link i j, (jacobian.get (shooting.linkRow link i)).get
      (layout.statePlace (shooting.linked link).succ j) = if i = j then -1 else 0
  initial_zero : ∀ i column,
    (∀ j, (i.val, j.val) ∈ shooting.initial.pattern → layout.statePlace 0 j ≠ column) →
    (jacobian.get (shooting.initialRow i)).get column = 0
  link_zero : ∀ link i column,
    (∀ j, layout.statePlace (shooting.linked link).castSucc j ≠ column) →
    (∀ j, layout.controlPlace (shooting.linked link) j ≠ column) →
    (∀ j, layout.statePlace (shooting.linked link).succ j ≠ column) →
    (jacobian.get (shooting.linkRow link i)).get column = 0

/-- **Every value lands in its own place.** -/
theorem holdsBlocks_jacobianAt :
    shooting.HoldsBlocks vector ends (shooting.jacobianAt vector ends).dense where
  initial _ _ listed := get_jacobianAt_initialRow rowMajor listed
  byState _ _ j := get_jacobianAt_linkRow rowMajor
    (List.mem_append_left _ (List.mem_append_left _ (List.mem_ofFn.mpr ⟨j, rfl⟩)))
  byControl _ _ j := get_jacobianAt_linkRow rowMajor
    (List.mem_append_left _ (List.mem_append_right _ (List.mem_ofFn.mpr ⟨j, rfl⟩)))
  byNext link i j := by
    by_cases diagonal : i = j
    · rw [if_pos diagonal, ← diagonal]
      exact get_jacobianAt_linkRow rowMajor (List.mem_append_right _ List.mem_cons_self)
    · rw [if_neg diagonal]
      refine get_jacobianAt_linkRow_of_absent rowMajor fun among => ?_
      obtain ⟨k, same⟩ | ⟨k, same⟩ | same := mem_linkColumns.mp among
      · have nodes := congrArg Fin.val (layout.statePlace_inj.mp same).1
        rw [Fin.val_castSucc, Fin.val_succ] at nodes
        omega
      · exact layout.statePlace_ne_controlPlace _ _ _ _ same.symm
      · exact diagonal (layout.statePlace_inj.mp same).2.symm
  initial_zero _ _ absent := get_jacobianAt_initialRow_of_absent rowMajor absent
  link_zero link i column noState noControl noNext := by
    refine get_jacobianAt_linkRow_of_absent rowMajor fun among => ?_
    obtain ⟨k, same⟩ | ⟨k, same⟩ | same := mem_linkColumns.mp among
    · exact noState k same
    · exact noControl k same
    · exact noNext i same.symm

end Values

/-- **The fixed pattern is valid and every value lands in its own place.** For all numbers of
states, controls and initial conditions, at least one interval, with and without terminal link, and
whenever the places of the initial condition are listed row by row, the places of the constraint
Jacobian make a pattern, and the Jacobian of every evaluation that succeeds has this pattern, a
value for each of its places, and the derivatives of the intervals at states and controls of the
vector for blocks. -/
theorem places_fixPattern [Number α] (interval : Interval α nx nu)
    (initial : InitialCondition α nx) {nk : Nat} (positive : 0 < nk) (terminalLink : Bool)
    (rowMajor : IsRowMajor initial.count nx initial.pattern) :
    ∃ pattern, (ofParts interval initial nk terminalLink).FixesPattern terminalLink pattern ∧
      ∀ vector evaluation,
        (ofParts interval initial nk terminalLink).evaluate pattern vector = .ok evaluation →
        evaluation.jacobian.pattern = pattern ∧
        evaluation.jacobian.values.length =
          (ofParts interval initial nk terminalLink).places.length ∧
        ∃ ends, (∀ k : Fin nk,
            interval.differentiate (stateOf vector k) (controlOf vector k) = .ok (ends.get k)) ∧
          (ofParts interval initial nk terminalLink).HoldsBlocks vector ends
            evaluation.jacobian.dense := by
  refine ⟨_, fixesPattern_ofParts positive terminalLink rowMajor, ?_⟩
  intro vector evaluation evaluated
  obtain ⟨ends, reached, -, -, rfl⟩ := evaluate_eq_ok.mp evaluated
  exact ⟨rfl, length_jacobianValues, ends, reached, holdsBlocks_jacobianAt rowMajor⟩

/-! ### A drifting state -/

namespace drift

/-- Two states that grow at a rate of their own size, without a control and at no cost. -/
noncomputable def interval : Interval ℝ 2 0 where
  dynamics := {
    rate := Column.first
    cost := fun _ => 0
    rateJacobian := fun _ => Dense.identity 2
    costGradient := fun _ => Column.zero 2 }
  duration := 1
  substeps := 1

/-- The second state is zero at the start. -/
noncomputable def initial : InitialCondition ℝ 2 where
  count := 1
  residual start := Vector.ofFn fun _ => start.get (Fin.last 1)
  jacobian _ := Vector.ofFn fun _ => Column.unit (Fin.last 1)
  pattern := [(0, 1)]

theorem initial_rowMajor : IsRowMajor initial.count 2 initial.pattern := by
  refine ⟨List.pairwise_singleton _ _, ?_⟩
  intro place among
  rw [List.mem_singleton.mp among]
  exact ⟨Nat.one_pos, Nat.one_lt_two⟩

/-- Two linked intervals. -/
noncomputable abbrev problem : Shooting ℝ ⟨2, 0, 2⟩ := ofParts interval initial 2 true

end drift

/-- Two intervals of the drifting state have a valid pattern of thirteen places, and every vector
has a Jacobian with its values in their places. -/
theorem places_fixPattern_drift :
    0 < 2 ∧ IsRowMajor drift.initial.count 2 drift.initial.pattern ∧
      ∃ pattern, drift.problem.FixesPattern true pattern ∧ drift.problem.places.length = 13 ∧
        ∀ vector, ∃ evaluation ends, drift.problem.evaluate pattern vector = .ok evaluation ∧
          drift.problem.HoldsBlocks vector ends evaluation.jacobian.dense := by
  refine ⟨Nat.two_pos, drift.initial_rowMajor, ?_⟩
  obtain ⟨pattern, fixes, holds⟩ :=
    places_fixPattern drift.interval drift.initial Nat.two_pos true drift.initial_rowMajor
  refine ⟨pattern, fixes, fixes.length, ?_⟩
  intro vector
  have evaluated := drift.problem.evaluate_real pattern vector
  obtain ⟨-, -, ends, -, blocks⟩ := holds vector _ evaluated
  exact ⟨_, ends, evaluated, blocks⟩

end Shooting

end MultipleShooting
