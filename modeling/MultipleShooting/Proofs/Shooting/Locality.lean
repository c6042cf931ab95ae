/-
**What an interval reads and writes.**

A property of two runs, in any arithmetic and of every transcribed problem, whatever places its
initial condition lists:

* `Shooting.initial_rows_lt`: a valid pattern has no place of the initial condition in the rows of
  the links;
* `Shooting.IsLocal`: of two evaluations, **a link's rows are decided by its interval and the next
  node**, an interval's part of the gradient by the interval, the rows of the initial condition by
  the first node;
* `Shooting.HasFreeEnd`: without terminal link, **no result depends on the last node**, and the
  derivatives by its states are zero;
* `transcribeWith_isLocal`: every transcribed problem has both properties.
-/
import MultipleShooting.Proofs.Linear.Rows
import MultipleShooting.Proofs.Shooting.Agreement
import MultipleShooting.Proofs.Shooting.Entries
import MultipleShooting.Proofs.Shooting.Gradient

namespace MultipleShooting

/-- Two loops, one within the other, as a single one. -/
theorem flatMap_range_mul {β : Type} (f : Nat → Nat → List β) (m : Nat) {n : Nat} (wide : 0 < n) :
    ((List.range (m * n)).flatMap fun j => f (j / n) (j % n)) =
      (List.range m).flatMap fun i => (List.range n).flatMap (f i) := by
  induction m with
  | zero => rw [Nat.zero_mul]; rfl
  | succ m ih =>
    rw [Nat.succ_mul, List.range_add, List.range_succ, List.flatMap_append, List.flatMap_append, ih,
      List.flatMap_map, List.flatMap_singleton]
    refine congrArg (_ ++ ·) (List.flatMap_congr fun i among => ?_)
    have inside := List.mem_range.mp among
    rw [Nat.add_comm, Nat.add_mul_div_right _ _ wide, Nat.div_eq_of_lt inside, Nat.zero_add,
      Nat.add_mul_mod_self_right, Nat.mod_eq_of_lt inside]

namespace Shooting

variable {α : Type} {layout : Layout} {shooting : Shooting α layout}

/-! ### The rows of the links -/

/-- The places as those of the initial condition and a block for every row of the links. -/
theorem places_eq_blocks (shooting : Shooting α layout) (wide : 0 < layout.nx) :
    shooting.initial.pattern ++ (List.range' 0 (shooting.links * layout.nx)).flatMap
      (fun j => shooting.rowPlaces (j / layout.nx) (j % layout.nx)) = shooting.places := by
  rw [← List.range_eq_range', flatMap_range_mul _ _ wide, places_eq_rowPlaces]

/-- The row of a link begins with the first state of its interval. -/
theorem head?_rowPlaces (shooting : Shooting α layout) (wide : 0 < layout.nx)
    (link component : Nat) : (shooting.rowPlaces link component).head? =
      some ((shooting.rows.linkBlock link).start + component, link * layout.stride) := by
  simp [rowPlaces, Layout.stateBlock, List.head?_range', wide.ne']

/-- The row of a link ends with a state of the next node. -/
theorem getLast?_rowPlaces (shooting : Shooting α layout) (link component : Nat) :
    (shooting.rowPlaces link component).getLast? = some
      ((shooting.rows.linkBlock link).start + component,
        (link + 1) * layout.stride + component) := by
  simp [rowPlaces, Layout.stateBlock]

/-- Every row of a link begins in the states of its interval, which is not beyond the end of the row
before it. -/
theorem restarts_rowPlaces (shooting : Shooting α layout) (wide : 0 < layout.nx) :
    Restarts shooting.initial.count
      fun j => shooting.rowPlaces (j / layout.nx) (j % layout.nx) where
  filled j := by simp [rowPlaces]
  rows j place among := by
    obtain ⟨column, -, rfl⟩ := List.mem_map.mp among
    have split := Nat.div_add_mod' j layout.nx
    show shooting.initial.count + j / layout.nx * layout.nx + j % layout.nx = _
    omega
  meets j last ends first begins := by
    rw [getLast?_rowPlaces, Option.mem_some_iff] at ends
    rw [head?_rowPlaces shooting wide, Option.mem_some_iff] at begins
    have next : (j + 1) / layout.nx ≤ j / layout.nx + 1 :=
      (Nat.div_le_div_right (by omega)).trans_eq (Nat.add_div_right j wide)
    have ordered := Nat.mul_le_mul_right layout.stride next
    rw [← begins, ← ends]
    show (j + 1) / layout.nx * layout.stride ≤ _
    omega

/-- **The places of the initial condition keep to its rows**, or else they make no pattern with
those of the links. -/
theorem initial_rows_lt {pattern : Pattern shooting.rows.count layout.size} (wide : 0 < layout.nx)
    (valid : Pattern.ofPlaces? shooting.rows.count layout.size shooting.places = some pattern) :
    ∀ place ∈ shooting.initial.pattern, place.1 < shooting.initial.count := by
  obtain ⟨-, inRows, ordered⟩ := Pattern.of_ofPlaces?_eq_some valid
  refine (shooting.restarts_rowPlaces wide).rows_lt inRows ordered rfl
    (shooting.places_eq_blocks wide) ?_
  intro last _ first begins
  rw [head?_rowPlaces shooting wide, Option.mem_some_iff] at begins
  rw [← begins, Nat.zero_div, Nat.zero_mul]
  exact Nat.zero_le _

/-! ### The rows of the Jacobian -/

section Rows

variable [Number α] {vector other : Vector α layout.size}
  {ends others : Vector (Differentiated α layout.nx layout.nu) layout.nk}

/-- The stored entries of the Jacobian with their columns. -/
theorem zip_jacobianAt : (shooting.jacobianAt vector ends).pattern.places.zip
      (shooting.jacobianAt vector ends).values =
    (shooting.entriesAt (shooting.initial.jacobian (shooting.start vector)) ends).map
      fun entry => (entry.1.2, entry.2) := by
  rw [← zip_places_jacobianValues, ← Compressed.zip_columns]
  rfl

/-- A row of the Jacobian as the part of the entries that belongs to it. -/
theorem row_jacobianAt (index : Nat) : (shooting.jacobianAt vector ends).row index =
    (Pattern.ofPlaces shooting.rows.count layout.size shooting.places).rowOf index
      ((shooting.entriesAt (shooting.initial.jacobian (shooting.start vector)) ends).map
        fun entry => (entry.1.2, entry.2)) :=
  congrArg (Pattern.rowOf _ index) zip_jacobianAt

/-- The rows of the entries are those of the places. -/
theorem map_row_entriesAt {initialJacobian : Dense α shooting.initial.count layout.nx} :
    (shooting.entriesAt initialJacobian ends).map (fun entry => entry.1.1) =
      shooting.places.map (·.1) := by
  have entries : (shooting.entriesAt initialJacobian ends).map Prod.fst = shooting.places :=
    map_fst_entriesAt
  rw [← entries, List.map_map]
  rfl

/-- The entries of the links are sorted by their rows. -/
theorem sorted_linkEntriesAt : (shooting.linkEntriesAt ends).Pairwise
    fun entry next => entry.1.1 ≤ next.1.1 := by
  have places : (shooting.linkEntriesAt ends).map Prod.fst = _ := map_fst_linkEntriesAt
  have increases := shooting.linkPlaces_increases
  rw [← places, List.pairwise_map] at increases
  exact increases.imp fun ordered => by omega

/-- The entries of a link's rows depend on its own interval only. -/
theorem filter_linkEntriesAt_congr {link : Fin shooting.links}
    (same : ends.get (shooting.linked link) = others.get (shooting.linked link))
    (i : Fin layout.nx) :
    ((shooting.linkEntriesAt ends).filter
        fun entry => entry.1.1 == (shooting.linkRow link i).val) =
      (shooting.linkEntriesAt others).filter
        fun entry => entry.1.1 == (shooting.linkRow link i).val := by
  have absent {of : Fin shooting.links} (apart : of ≠ link) (j : Fin layout.nx)
      (ends : Vector (Differentiated α layout.nx layout.nu) layout.nk) :
      ((shooting.linkEntries of j (ends.get (shooting.linked of)).tangents).map fun entry =>
        (((shooting.linkRow of j).val, entry.1.val), entry.2)).filter
          (fun entry => entry.1.1 == (shooting.linkRow link i).val) = [] := by
    refine List.filter_eq_nil_iff.mpr ?_
    intro entry among here
    obtain ⟨_, -, rfl⟩ := List.mem_map.mp among
    exact apart (linkRow_inj.mp (Fin.ext (beq_iff_eq.mp here))).1
  unfold linkEntriesAt
  rw [List.filter_flatMap, List.filter_flatMap]
  refine List.flatMap_congr fun of _ => ?_
  by_cases own : of = link
  · rw [own, same]
  · rw [List.filter_flatMap, List.filter_flatMap]
    refine List.flatMap_congr fun j _ => ?_
    rw [absent own, absent own]

/-- **The row of the initial condition** does not depend on the intervals. -/
theorem row_initialRow_congr (sameStart : shooting.start vector = shooting.start other)
    (i : Fin shooting.initial.count) :
    (shooting.jacobianAt vector ends).row (shooting.initialRow i) =
      (shooting.jacobianAt other others).row (shooting.initialRow i) := by
  have later (ends : Vector (Differentiated α layout.nx layout.nu) layout.nk) :
      ∀ entry ∈ shooting.linkEntriesAt ends, (shooting.initialRow i).val < entry.1.1 := by
    intro entry among
    obtain ⟨link, -, among⟩ := List.mem_flatMap.mp among
    obtain ⟨j, -, among⟩ := List.mem_flatMap.mp among
    obtain ⟨_, -, rfl⟩ := List.mem_map.mp among
    exact initialRow_lt_linkRow i link j
  rw [row_jacobianAt, row_jacobianAt, entriesAt, entriesAt,
    Pattern.rowOf_before (fun entry => entry.1.1) (shooting.initialRow i).isLt _ map_row_entriesAt
      (later ends),
    Pattern.rowOf_before (fun entry => entry.1.1) (shooting.initialRow i).isLt _ map_row_entriesAt
      (later others), sameStart]

/-- **The row of a link** depends on its own interval only. -/
theorem row_linkRow_congr
    (keeps : ∀ place ∈ shooting.initial.pattern, place.1 < shooting.initial.count)
    {link : Fin shooting.links}
    (same : ends.get (shooting.linked link) = others.get (shooting.linked link))
    (i : Fin layout.nx) :
    (shooting.jacobianAt vector ends).row (shooting.linkRow link i) =
      (shooting.jacobianAt other others).row (shooting.linkRow link i) := by
  have earlier (jacobian : Dense α shooting.initial.count layout.nx) :
      ∀ entry ∈ shooting.initial.pattern.map fun place => (place, initialValue jacobian place),
        entry.1.1 < (shooting.linkRow link i).val := by
    intro entry among
    obtain ⟨place, listed, rfl⟩ := List.mem_map.mp among
    rw [val_linkRow]
    exact Nat.lt_of_lt_of_le (keeps place listed) (by omega)
  rw [row_jacobianAt, row_jacobianAt, entriesAt, entriesAt,
    Pattern.rowOf_after (fun entry => entry.1.1) (shooting.linkRow link i).isLt _ map_row_entriesAt
      (earlier _) sorted_linkEntriesAt,
    Pattern.rowOf_after (fun entry => entry.1.1) (shooting.linkRow link i).isLt _ map_row_entriesAt
      (earlier _) sorted_linkEntriesAt, filter_linkEntriesAt_congr same]

end Rows

end Shooting

/-! ### Two evaluations -/

variable {α : Type} [Number α]

/-- Two evaluations have the same constraint in a row, and the same entries in that row of the
Jacobian. -/
structure Evaluation.SharesRow {n m : Nat} (left right : Evaluation α n m) (row : Fin m) :
    Prop where
  constraints : left.constraints.get row = right.constraints.get row
  stored : left.jacobian.row row = right.jacobian.row row
  dense : left.jacobian.dense.get row = right.jacobian.dense.get row

theorem Compressed.get_dense_congr {m n : Nat} {left right : Compressed α m n} {row : Fin m}
    (stored : left.row row = right.row row) : left.dense.get row = right.dense.get row := by
  unfold dense
  rw [Vector.get_ofFn, Vector.get_ofFn, stored]

namespace Shooting

variable {layout : Layout} {shooting : Shooting α layout} {vector other : Vector α layout.size}

/-- **The blocks of two evaluations**: the rows of a link are the same where states and controls of
its interval and the states of the next node are, the gradient by states and controls of an interval
where these are, and the rows of the initial condition where the states of the first node are. -/
structure IsLocal (shooting : Shooting α layout) (vector other : Vector α layout.size)
    (left right : Evaluation α layout.size shooting.rows.count) : Prop where
  link : ∀ link : Fin shooting.links,
    stateOf vector (shooting.linked link) = stateOf other (shooting.linked link) →
    controlOf vector (shooting.linked link) = controlOf other (shooting.linked link) →
    nextOf vector (shooting.linked link) = nextOf other (shooting.linked link) →
    ∀ i, left.SharesRow right (shooting.linkRow link i)
  gradient : ∀ k : Fin layout.nk, stateOf vector k = stateOf other k →
    controlOf vector k = controlOf other k →
    (∀ i, left.gradient.get (layout.statePlace k.castSucc i) =
      right.gradient.get (layout.statePlace k.castSucc i)) ∧
    ∀ i, left.gradient.get (layout.controlPlace k i) = right.gradient.get (layout.controlPlace k i)
  initial : shooting.start vector = shooting.start other →
    ∀ i, left.SharesRow right (shooting.initialRow i)

/-- **Two evaluations that succeed are local**, as the interval of a block is all that is read for
it. -/
theorem isLocal_of_evaluate {pattern : Pattern shooting.rows.count layout.size}
    (wide : 0 < layout.nx)
    (valid : Pattern.ofPlaces? shooting.rows.count layout.size shooting.places = some pattern)
    {left right : Evaluation α layout.size shooting.rows.count}
    (evaluated : shooting.evaluate pattern vector = .ok left)
    (evaluatedOther : shooting.evaluate pattern other = .ok right) :
    shooting.IsLocal vector other left right := by
  have keeps := initial_rows_lt wide valid
  obtain ⟨rfl, -, -⟩ := Pattern.of_ofPlaces?_eq_some valid
  obtain ⟨ends, reached, -, -, rfl⟩ := evaluate_eq_ok.mp evaluated
  obtain ⟨others, reachedOther, -, -, rfl⟩ := evaluate_eq_ok.mp evaluatedOther
  have sameEnd {k : Fin layout.nk} (states : stateOf vector k = stateOf other k)
      (controls : controlOf vector k = controlOf other k) : ends.get k = others.get k := by
    have here := reached k
    rw [states, controls, reachedOther k] at here
    exact (Except.ok.inj here).symm
  refine ⟨?_, ?_, ?_⟩
  · intro link states controls next i
    have same := sameEnd states controls
    have stored : (shooting.jacobianAt vector ends).row (shooting.linkRow link i) =
        (shooting.jacobianAt other others).row (shooting.linkRow link i) :=
      row_linkRow_congr keeps same i
    refine ⟨?_, stored, Compressed.get_dense_congr stored⟩
    have target := congrArg (·.get i) next
    simp only [get_nextOf] at target
    simp only [evaluationAt, get_constraintsAt_linkRow, Vector.get_map, same, target]
  · intro k states controls
    have same := sameEnd states controls
    refine ⟨fun i => ?_, fun i => ?_⟩
    · simp only [evaluationAt, get_gradient_statePlace, same]
    · simp only [evaluationAt, get_gradient_controlPlace, same]
  · intro start i
    have stored : (shooting.jacobianAt vector ends).row (shooting.initialRow i) =
        (shooting.jacobianAt other others).row (shooting.initialRow i) :=
      row_initialRow_congr start i
    refine ⟨?_, stored, Compressed.get_dense_congr stored⟩
    simp only [evaluationAt, get_constraintsAt_initialRow, start]

/-! ### The last node -/

/-- Two vectors agree on all states and controls, but for the states of the last node. -/
def AgreeBeforeEnd (vector other : Vector α layout.size) : Prop :=
  ∀ place, (∀ i, layout.statePlace (Fin.last layout.nk) i ≠ place) →
    vector.get place = other.get place

omit [Number α] in
theorem AgreeBeforeEnd.state (agree : AgreeBeforeEnd vector other) {node : Nat}
    (before : node < layout.nk) :
    layout.state vector node before.le = layout.state other node before.le := by
  refine ext_get fun i => ?_
  rw [Layout.get_state, Layout.get_state]
  refine agree _ fun j same => ?_
  have nodes := congrArg Fin.val (layout.statePlace_inj.mp same).1
  exact before.ne' nodes

omit [Number α] in
theorem AgreeBeforeEnd.control (agree : AgreeBeforeEnd vector other) (k : Fin layout.nk) :
    controlOf vector k = controlOf other k := by
  refine ext_get fun i => ?_
  rw [Layout.get_control, Layout.get_control]
  exact agree _ fun j => layout.statePlace_ne_controlPlace _ j k i

omit [Number α] in
/-- No interval reads the last node. -/
theorem AgreeBeforeEnd.intervals {β : Type} (agree : AgreeBeforeEnd vector other)
    (operation : Vector α layout.nx → Vector α layout.nu → β) :
    (fun (index : Nat) (below : index < layout.nk) =>
      operation (stateOf vector ⟨index, below⟩) (controlOf vector ⟨index, below⟩)) =
      fun index below =>
        operation (stateOf other ⟨index, below⟩) (controlOf other ⟨index, below⟩) := by
  funext index below
  rw [agree.control]
  exact congrArg (operation · _) (agree.state below)

/-- Two vectors run alike: whatever the propagation of one may come to, in the order of the
intervals or not, the other may come to, and then both have the same results. -/
structure RunAlike (shooting : Shooting α layout) (vector other : Vector α layout.size) :
    Prop where
  propagateAll : shooting.propagateAll vector = shooting.propagateAll other
  differentiateAll : shooting.differentiateAll vector = shooting.differentiateAll other
  mayPropagate : ∀ parallel,
    shooting.MayPropagate parallel vector = shooting.MayPropagate parallel other
  mayDifferentiate : ∀ parallel,
    shooting.MayDifferentiate parallel vector = shooting.MayDifferentiate parallel other
  constraintsAfter : shooting.constraintsAfter vector = shooting.constraintsAfter other
  evaluationAfter : ∀ pattern,
    shooting.evaluationAfter pattern vector = shooting.evaluationAfter pattern other

/-- The constraints read the last node through the last link only. -/
theorem AgreeBeforeEnd.constraintsFrom (agree : AgreeBeforeEnd vector other)
    (unlinked : shooting.links < layout.nk) (reached : Vector (Vector α layout.nx) layout.nk) :
    shooting.constraintsFrom vector reached = shooting.constraintsFrom other reached := by
  have start : shooting.start vector = shooting.start other := agree.state (by omega)
  have gaps : shooting.gaps vector reached = shooting.gaps other reached := by
    unfold Shooting.gaps
    refine congrArg (fun blocks => (Vector.ofFn blocks).flatten) (funext fun link => ?_)
    have before : link.val + 1 < layout.nk := Nat.lt_of_le_of_lt link.isLt unlinked
    exact congrArg (Column.sub _) (agree.state before)
  unfold Shooting.constraintsFrom initialResidual
  rw [start, gaps]

/-- **Vectors that differ in an unlinked last node run alike.** -/
theorem AgreeBeforeEnd.runAlike (agree : AgreeBeforeEnd vector other)
    (unlinked : shooting.links < layout.nk) : shooting.RunAlike vector other := by
  have start : shooting.start vector = shooting.start other := agree.state (by omega)
  have propagate := agree.intervals shooting.interval.propagate
  have differentiate := agree.intervals shooting.interval.differentiate
  refine ⟨congrArg (overIntervals _) propagate, congrArg (overIntervals _) differentiate, ?_, ?_,
    ?_, ?_⟩
  · exact fun parallel => congrArg (MayAnswer · parallel) propagate
  · exact fun parallel => congrArg (MayAnswer · parallel) differentiate
  · funext ends
    unfold Shooting.constraintsAfter
    simp only [agree.constraintsFrom unlinked]
  · intro pattern
    funext ends
    unfold Shooting.evaluationAfter jacobianFrom
    simp only [agree.constraintsFrom unlinked, start]

/-- **The last node is free**: results and failures of all functions are the same for vectors that
differ in it alone, and the derivatives by its states are zero. -/
structure HasFreeEnd (shooting : Shooting α layout)
    (functions : NlpFunctions α layout.size shooting.rows.count) : Prop where
  runAlike : ∀ vector other, AgreeBeforeEnd vector other → shooting.RunAlike vector other
  objective : ∀ vector other, AgreeBeforeEnd vector other →
    functions.objective vector = functions.objective other
  gradient : ∀ vector other, AgreeBeforeEnd vector other →
    functions.gradient vector = functions.gradient other
  constraints : ∀ vector other, AgreeBeforeEnd vector other →
    functions.constraints vector = functions.constraints other
  jacobian : ∀ vector other, AgreeBeforeEnd vector other →
    functions.jacobian vector = functions.jacobian other
  evaluate : ∀ vector other, AgreeBeforeEnd vector other →
    functions.evaluate vector = functions.evaluate other
  gradient_zero : ∀ vector gradient, functions.gradient vector = .ok gradient →
    ∀ i, gradient.get (layout.statePlace (Fin.last layout.nk) i) = 0
  jacobian_zero : ∀ vector jacobian, functions.jacobian vector = .ok jacobian →
    ∀ row i, (jacobian.dense.get row).get (layout.statePlace (Fin.last layout.nk) i) = 0

/-- Nothing but zeros is stored in the columns of an unlinked last node. -/
theorem entriesAt_lastPlace {initialJacobian : Dense α shooting.initial.count layout.nx}
    {ends : Vector (Differentiated α layout.nx layout.nu) layout.nk}
    (unlinked : shooting.links < layout.nk) (i : Fin layout.nx) :
    ∀ entry ∈ shooting.entriesAt initialJacobian ends,
      entry.1.2 = (layout.statePlace (Fin.last layout.nk) i).val → entry.2 = 0 := by
  intro entry among same
  rcases List.mem_append.mp among with among | among
  · obtain ⟨place, -, rfl⟩ := List.mem_map.mp among
    have beyond : layout.nx ≤ place.2 := by
      have width : layout.stride = layout.nx + layout.nu := rfl
      have divided : 1 ≤ layout.nk := by omega
      have ordered := Nat.mul_le_mul_right layout.stride divided
      have column : place.2 = layout.nk * layout.stride + i := same
      omega
    show initialValue initialJacobian place = 0
    unfold initialValue
    cases initialJacobian[place.1]? with
    | none => rfl
    | some cells => simp [Vector.getElem?_eq_none beyond]
  · obtain ⟨link, -, among⟩ := List.mem_flatMap.mp among
    obtain ⟨j, -, among⟩ := List.mem_flatMap.mp among
    obtain ⟨stored, listed, rfl⟩ := List.mem_map.mp among
    have known : stored.1 ∈ (shooting.linkEntries link j
        (ends.get (shooting.linked link)).tangents).map Prod.fst := List.mem_map_of_mem listed
    have column : stored.1 = layout.statePlace (Fin.last layout.nk) i := Fin.ext same
    rw [map_fst_linkEntries, column] at known
    obtain ⟨k, here⟩ | ⟨k, here⟩ | here := mem_linkColumns.mp known
    · exact absurd (layout.statePlace_inj.mp here).1 (Fin.castSucc_ne_last _)
    · exact absurd here.symm (layout.statePlace_ne_controlPlace _ _ _ _)
    · have node : layout.nk = link.val + 1 := congrArg Fin.val (layout.statePlace_inj.mp here).1
      omega

/-- **Without a link to it the last node is free.** -/
theorem hasFreeEnd_functions {pattern : Pattern shooting.rows.count layout.size}
    (valid : Pattern.ofPlaces? shooting.rows.count layout.size shooting.places = some pattern)
    (unlinked : shooting.links < layout.nk) :
    shooting.HasFreeEnd (shooting.functions pattern) := by
  obtain ⟨rfl, -, -⟩ := Pattern.of_ofPlaces?_eq_some valid
  have evaluate (vector other : Vector α layout.size) (agree : AgreeBeforeEnd vector other) :
      shooting.evaluate (Pattern.ofPlaces _ _ shooting.places) vector =
        shooting.evaluate (Pattern.ofPlaces _ _ shooting.places) other := by
    have alike := agree.runAlike unlinked
    show shooting.evaluationAfter _ vector (shooting.differentiateAll vector) =
      shooting.evaluationAfter _ other (shooting.differentiateAll other)
    rw [alike.differentiateAll, alike.evaluationAfter]
  refine ⟨fun _ _ agree => agree.runAlike unlinked, ?_, ?_, ?_, ?_, evaluate, ?_, ?_⟩
  · intro vector other agree
    exact congrArg objectiveAfter (agree.runAlike unlinked).propagateAll
  · intro vector other agree
    exact congrArg (Except.map Evaluation.gradient) (evaluate vector other agree)
  · intro vector other agree
    have alike := agree.runAlike unlinked
    show shooting.constraints vector = shooting.constraints other
    rw [constraints_eq_after, constraints_eq_after, alike.propagateAll, alike.constraintsAfter]
  · intro vector other agree
    exact congrArg (Except.map Evaluation.jacobian) (evaluate vector other agree)
  · intro vector gradient answered i
    obtain ⟨evaluation, evaluated, rfl⟩ := map_eq_ok.mp answered
    obtain ⟨ends, -, -, -, rfl⟩ := evaluate_eq_ok.mp evaluated
    exact shooting.get_gradient_lastPlace i
  · intro vector jacobian answered row i
    obtain ⟨evaluation, evaluated, rfl⟩ := map_eq_ok.mp answered
    obtain ⟨ends, -, -, -, rfl⟩ := evaluate_eq_ok.mp evaluated
    refine (Compressed.get_dense_of_zero ?_ row :
      ((shooting.jacobianAt vector ends).dense.get row).get _ = 0)
    intro entry among same
    rw [zip_jacobianAt] at among
    obtain ⟨stored, listed, rfl⟩ := List.mem_map.mp among
    exact entriesAt_lastPlace unlinked i stored listed same

end Shooting

/-- **Blocks are local in every transcribed problem.** Of two evaluations that succeed, the rows of
a link and the gradient of an interval are decided by the blocks of the interval, and by those of
the next node for the link. Without terminal link, vectors that differ in the states of the last
node only have the same results of all functions, values or failures, and the derivatives by these
states are zero. -/
theorem transcribeWith_isLocal {horizon : Horizon α} {model : Model α} {nx nu nx' : Nat}
    {dynamics : Dynamics α nx nu} {initial : InitialCondition α nx'}
    {transcription : Transcription α}
    (transcribed : transcribeWith horizon model dynamics initial = .ok transcription) :
    (∀ vector other left right, transcription.nlp.functions.evaluate vector = .ok left →
      transcription.nlp.functions.evaluate other = .ok right →
      transcription.shooting.IsLocal vector other left right) ∧
    (horizon.terminalLink = false →
      transcription.shooting.HasFreeEnd transcription.nlp.functions) := by
  cases states_eq_of_transcribeWith transcribed
  obtain ⟨validModel, validHorizon, sameStates, -, pattern, nlp, -, valid, isOf, rfl⟩ :=
    transcribeWith_eq_ok.mp transcribed
  have wide : 0 < nx := sameStates ▸ (Model.validate_eq_ok.mp validModel).states
  rw [isOf.functions]
  constructor
  · intro vector other left right evaluated evaluatedOther
    exact Shooting.isLocal_of_evaluate wide valid evaluated evaluatedOther
  · intro unlinked
    refine Shooting.hasFreeEnd_functions valid ?_
    have divided := (Horizon.validate_eq_ok.mp validHorizon).2.2.1
    show linkCount horizon.intervals horizon.terminalLink < horizon.intervals
    rw [unlinked]
    exact Nat.sub_lt divided Nat.one_pos

/-- An integrator over two intervals, the second one not being linked to the last node. Every vector
evaluates, blocks are local and the last node is free, so that two vectors which differ in it have
one evaluation. -/
theorem transcribeWith_isLocal_integrator : ∃ transcription,
    transcribeWith { integrator.horizon with terminalLink := false } integrator.model
      integrator.dynamics Shooting.growth.initial = .ok transcription ∧
    (∀ vector, ∃ evaluation, transcription.nlp.functions.evaluate vector = .ok evaluation) ∧
    (∀ vector other left right, transcription.nlp.functions.evaluate vector = .ok left →
      transcription.nlp.functions.evaluate other = .ok right →
      transcription.shooting.IsLocal vector other left right) ∧
    transcription.shooting.HasFreeEnd transcription.nlp.functions ∧
    ∃ vector other, vector ≠ other ∧ Shooting.AgreeBeforeEnd vector other ∧
      transcription.nlp.functions.evaluate vector = transcription.nlp.functions.evaluate other := by
  have valid : Horizon.validate { integrator.horizon with terminalLink := false } = .ok () :=
    Horizon.validate_real.mpr ⟨Nat.cast_pos.mpr two_pos, two_pos, one_pos⟩
  obtain ⟨nlp, transcribed⟩ := transcribeWith_real integrator.dynamics Shooting.growth.initial
    integrator.isConsistent valid rfl rfl Shooting.growth.initial_isDifferentiated.rowMajor
  obtain ⟨-, -, -, -, pattern, _, -, -, isOf, same⟩ := transcribeWith_eq_ok.mp transcribed
  cases same
  obtain ⟨blocks, free⟩ := transcribeWith_isLocal transcribed
  let last := Layout.statePlace ⟨1, 1, 2⟩ (Fin.last 2) ⟨0, Nat.one_pos⟩
  have agree : Shooting.AgreeBeforeEnd (Column.zero _) (Column.unit last : Vector ℝ _) := by
    intro place apart
    rw [Column.get_zero, Column.get_unit, if_neg (apart _)]
  have differ : Column.zero _ ≠ (Column.unit last : Vector ℝ _) := fun same => by
    have component := congrArg (·.get last) same
    simp only [Column.get_zero, Column.get_unit, if_true] at component
    exact zero_ne_one component
  refine ⟨_, transcribed, fun vector => ?_, blocks, free rfl, _, _, differ, agree,
    (free rfl).evaluate _ _ agree⟩
  rw [isOf.functions]
  exact ⟨_, Shooting.evaluate_real _ pattern vector⟩

end MultipleShooting
