/-
**A trajectory loses nothing of its decision vector.**

Reading a vector of the right length with names of the right numbers succeeds, and any other reading
is refused as a fault of configuration (`Trajectory.ofVector_of_fits`,
`Trajectory.isConfiguration_of_ofVector`). What has been read has the components of the vector for
samples (`Trajectory.IsReadFrom`). The blocks in turn, row by row, are the vector again
(`Trajectory.rejoined_eq`), so no two vectors have the same trajectory.

* `Trajectory.ofVector_recovers`: **layout, filling and reading are inverse to each other** for all
  sizes.
-/
import MultipleShooting.Number.Double
import MultipleShooting.Proofs.Layout.Tiling
import MultipleShooting.Proofs.Trajectory

namespace MultipleShooting

namespace Trajectory

variable {α : Type} {layout : Layout}

/-! ### Rows -/

/-- Rows and series of samples are exchanged. -/
theorem samples_ofFn {n count : Nat} (sample : Fin n → Fin count → α) :
    samples count (List.ofFn fun i => List.ofFn fun k => sample i k) =
      List.ofFn fun k => List.ofFn fun i => sample i k := by
  have row (k : Fin count) : (List.ofFn fun i => List.ofFn fun k => sample i k).filterMap
      (fun values => values[k.val]?) = List.ofFn fun i => sample i k := by
    rw [List.ofFn_eq_map, List.ofFn_eq_map, List.filterMap_map]
    refine (List.filterMap_congr fun i _ => ?_).trans (congrFun List.filterMap_eq_map _)
    show (List.ofFn fun k => sample i k)[k.val]? = some (sample i k)
    rw [List.getElem?_ofFn, dif_pos k.isLt]
  rw [samples, ← List.map_coe_finRange_eq_range, List.map_map]
  exact (List.map_congr_left fun k _ => row k).trans List.ofFn_eq_map.symm

/-- The vector whose blocks are the rows of states and controls in turn. -/
def rejoined (trajectory : Trajectory α) : List α :=
  (alternate trajectory.stateRows trajectory.controlRows).flatten

/-- What is rejoined depends on the samples and the number of nodes alone. -/
theorem rejoined_congr {trajectory other : Trajectory α}
    (nodes : trajectory.times.length = other.times.length)
    (states : trajectory.states = other.states) (controls : trajectory.controls = other.controls) :
    trajectory.rejoined = other.rejoined := by
  unfold rejoined stateRows controlRows intervals
  rw [nodes, states, controls]

/-- **Rows in turn are the vector.** -/
theorem rejoined_eq {trajectory : Trajectory α} {vector : Vector α layout.size}
    (nodes : trajectory.times.length = layout.nk + 1)
    (states : trajectory.states = List.ofFn fun i => List.ofFn fun node =>
      vector.get (layout.statePlace node i))
    (controls : trajectory.controls = List.ofFn fun i => List.ofFn fun k =>
      vector.get (layout.controlPlace k i)) :
    trajectory.rejoined = vector.toList := by
  have stateRows : trajectory.stateRows =
      ((List.range (layout.nk + 1)).map layout.stateBlock).map (Block.slice vector.toList) := by
    rw [Trajectory.stateRows, nodes, states, samples_ofFn, ← List.map_coe_finRange_eq_range,
      List.map_map, List.map_map, List.ofFn_eq_map]
    refine List.map_congr_left fun node _ => ?_
    show _ = (layout.stateBlock node).slice vector.toList
    rw [layout.slice_stateBlock vector (Nat.le_of_lt_succ node.isLt), toList_eq_ofFn]
    exact congrArg List.ofFn (funext fun i => (layout.get_state vector _ _ i).symm)
  have controlRows : trajectory.controlRows =
      ((List.range layout.nk).map layout.controlBlock).map (Block.slice vector.toList) := by
    rw [Trajectory.controlRows, intervals, nodes, Nat.add_sub_cancel, controls, samples_ofFn,
      ← List.map_coe_finRange_eq_range, List.map_map, List.map_map, List.ofFn_eq_map]
    refine List.map_congr_left fun k _ => ?_
    show _ = (layout.controlBlock k).slice vector.toList
    rw [layout.slice_controlBlock vector k.isLt, toList_eq_ofFn]
    exact congrArg List.ofFn (funext fun i => (layout.get_control vector _ _ i).symm)
  have whole : (⟨0, layout.size⟩ : Block).slice vector.toList = vector.toList := by
    unfold Block.slice
    rw [List.drop_zero, Nat.sub_zero, List.take_of_length_le (by simp)]
  calc trajectory.rejoined
      = (layout.orderedBlocks.map (Block.slice vector.toList)).flatten := by
        rw [rejoined, stateRows, controlRows, ← map_alternate, ← Layout.orderedBlocks_eq]
    _ = layout.orderedBlocks.flatMap (Block.slice vector.toList) := List.flatMap_def.symm
    _ = vector.toList := by rw [layout.tiles_orderedBlocks.flatMap_slice, whole]

/-! ### What is read -/

/-- A vector and lists of names that a layout expects. -/
def Fits (layout : Layout) (vector : List α) (stateNames controlNames : List String) : Prop :=
  vector.length = layout.size ∧ stateNames.length = layout.nx ∧ controlNames.length = layout.nu

/-- **The trajectory has the components of a vector for samples**: those of a state at the nodes,
those of a control in the intervals, and in the profile of a control the first of them twice. Its
rows in turn are the vector. -/
structure IsReadFrom (layout : Layout) (vector : List α) (trajectory : Trajectory α) : Prop where
  nodes : trajectory.times.length = layout.nk + 1
  states_length : trajectory.states.length = layout.nx
  controls_length : trajectory.controls.length = layout.nu
  state : ∀ i < layout.nx, ∃ series, trajectory.states[i]? = some series ∧
    series.length = layout.nk + 1 ∧
    ∀ node ≤ layout.nk, series[node]? = vector[node * (layout.nx + layout.nu) + i]?
  control : ∀ i < layout.nu, ∃ series, trajectory.controls[i]? = some series ∧
    series.length = layout.nk ∧
    ∀ k < layout.nk, series[k]? = vector[k * (layout.nx + layout.nu) + layout.nx + i]?
  profile : 0 < layout.nk → ∀ i < layout.nu, ∃ series,
    trajectory.stepProfile? i = some (trajectory.times, series) ∧ series.length = layout.nk + 1 ∧
    series[0]? = vector[layout.nx + i]? ∧ series[1]? = vector[layout.nx + i]? ∧
    ∀ k < layout.nk, series[k + 1]? = vector[k * (layout.nx + layout.nu) + layout.nx + i]?
  rejoined : trajectory.rejoined = vector

/-- The profile of a control with samples repeats the first of them. -/
theorem stepProfile?_eq {trajectory : Trajectory α} {index : Nat} {first : α} {others : List α}
    (found : trajectory.controls[index]? = some (first :: others)) :
    trajectory.stepProfile? index = some (trajectory.times, first :: first :: others) := by
  rw [stepProfile?, found]

/-- A trajectory whose samples are those of a vector has been read from it. -/
theorem isReadFrom_of_samples {trajectory : Trajectory α} {vector : Vector α layout.size}
    (nodes : trajectory.times.length = layout.nk + 1)
    (states : trajectory.states = List.ofFn fun i => List.ofFn fun node =>
      vector.get (layout.statePlace node i))
    (controls : trajectory.controls = List.ofFn fun i => List.ofFn fun k =>
      vector.get (layout.controlPlace k i)) :
    trajectory.IsReadFrom layout vector.toList := by
  have control (i : Nat) (inside : i < layout.nu) : trajectory.controls[i]? =
      some (List.ofFn fun k => vector.get (layout.controlPlace k ⟨i, inside⟩)) := by
    rw [controls, List.getElem?_ofFn, dif_pos inside]
  have sample (i : Nat) (inside : i < layout.nu) (k : Nat) (known : k < layout.nk) :
      (List.ofFn fun k => vector.get (layout.controlPlace k ⟨i, inside⟩))[k]? =
        vector.toList[k * (layout.nx + layout.nu) + layout.nx + i]? := by
    rw [List.getElem?_ofFn, dif_pos known]
    exact (layout.get_toList vector (layout.controlPlace ⟨k, known⟩ ⟨i, inside⟩)).symm
  refine ⟨nodes, ?_, ?_, ?_, ?_, ?_, rejoined_eq nodes states controls⟩
  · rw [states, List.length_ofFn]
  · rw [controls, List.length_ofFn]
  · intro i inside
    refine ⟨List.ofFn fun node => vector.get (layout.statePlace node ⟨i, inside⟩), ?_,
      List.length_ofFn, fun node known => ?_⟩
    · rw [states, List.getElem?_ofFn, dif_pos inside]
    · rw [List.getElem?_ofFn, dif_pos (Nat.lt_succ_of_le known)]
      exact (layout.get_toList vector
        (layout.statePlace ⟨node, Nat.lt_succ_of_le known⟩ ⟨i, inside⟩)).symm
  · intro i inside
    exact ⟨_, control i inside, List.length_ofFn, sample i inside⟩
  · intro positive i inside
    have found := control i inside
    have samples := sample i inside
    have length : (List.ofFn fun k => vector.get (layout.controlPlace k ⟨i, inside⟩)).length =
        layout.nk := List.length_ofFn
    -- There is an interval, so the series has a first sample.
    cases series : List.ofFn fun k => vector.get (layout.controlPlace k ⟨i, inside⟩) with
    | nil =>
      rw [series] at length
      exact absurd length.symm positive.ne'
    | cons first others =>
      rw [series] at found samples length
      have start := samples 0 positive
      rw [Nat.zero_mul, Nat.zero_add] at start
      exact ⟨_, stepProfile?_eq found, congrArg (· + 1) length, start, start, samples⟩

section Reading

variable [Number α] {vector : List α} {duration : α} {stateNames controlNames : List String}

/-- **A reading that fits succeeds**, and the samples are those of the vector. -/
theorem ofVector_of_fits (fits : Fits layout vector stateNames controlNames) (duration : α) :
    ∃ trajectory, ofVector layout vector duration stateNames controlNames = .ok trajectory := by
  obtain ⟨length, stateLength, controlLength⟩ := fits
  unfold ofVector checkLength
  rw [dif_pos length, if_pos stateLength.symm, if_pos controlLength.symm]
  exact ⟨_, rfl⟩

/-- **A reading that does not fit** is refused as a fault of configuration. -/
theorem isConfiguration_of_ofVector (unfit : ¬ Fits layout vector stateNames controlNames)
    (duration : α) : ∃ failure,
      ofVector layout vector duration stateNames controlNames = .error failure ∧
        failure.isConfiguration = true := by
  unfold ofVector checkLength
  by_cases length : vector.length = layout.size
  · rw [dif_pos length]
    by_cases stateLength : layout.nx = stateNames.length
    · rw [if_pos stateLength]
      by_cases controlLength : layout.nu = controlNames.length
      · exact absurd ⟨length, stateLength.symm, controlLength.symm⟩ unfit
      · rw [if_neg controlLength]
        exact ⟨_, rfl, rfl⟩
    · rw [if_neg stateLength]
      exact ⟨_, rfl, rfl⟩
  · rw [dif_neg length]
    exact ⟨_, rfl, rfl⟩

/-- What a reading has come to has been read from the vector. -/
theorem isReadFrom_of_ofVector {trajectory : Trajectory α}
    (read : ofVector layout vector duration stateNames controlNames = .ok trajectory) :
    trajectory.IsReadFrom layout vector := by
  by_cases fits : Fits layout vector stateNames controlNames
  · obtain ⟨vector, rfl⟩ := exists_toList_eq fits.1.symm
    obtain ⟨times, -, -, states, controls⟩ := ofVector_eq_ok read
    refine isReadFrom_of_samples ?_ states controls
    rw [times, List.length_map, List.length_range]
  · obtain ⟨failure, refused, -⟩ := isConfiguration_of_ofVector fits duration
    rw [refused] at read
    cases read

end Reading

/-! ### Recovery -/

/-- **Layout, filling and reading lose and duplicate nothing**, for all numbers of states, controls
and intervals. The blocks are laid out one after the other and tile the vector; a filled vector is
the one with the given blocks everywhere; a vector and names that fit are read into a trajectory
whose samples are the components of the vector and which gives the vector back, so that different
vectors have different samples; and all else is refused as a fault of configuration. -/
theorem ofVector_recovers [Number α] (layout : Layout) :
    layout.IsLaidOut ∧
      (∀ {β : Type} (states : Vector β layout.nx) (controls : Vector β layout.nu)
        (vector : Vector β layout.size), vector = layout.fill states controls ↔
          (∀ node known, layout.state vector node known = states) ∧
            ∀ interval known, layout.control vector interval known = controls) ∧
      ∀ (vector : List α) (duration : α) (stateNames controlNames : List String),
        (Fits layout vector stateNames controlNames → ∃ trajectory,
          ofVector layout vector duration stateNames controlNames = .ok trajectory ∧
            trajectory.IsReadFrom layout vector ∧
            ∀ other duration stateNames controlNames otherTrajectory,
              ofVector layout other duration stateNames controlNames = .ok otherTrajectory →
              otherTrajectory.states = trajectory.states →
              otherTrajectory.controls = trajectory.controls → other = vector) ∧
        (¬ Fits layout vector stateNames controlNames → ∃ failure,
          ofVector layout vector duration stateNames controlNames = .error failure ∧
            failure.isConfiguration = true) := by
  refine ⟨layout.isLaidOut, fun _ _ vector => layout.eq_fill_iff vector, ?_⟩
  intro vector duration stateNames controlNames
  refine ⟨fun fits => ?_, fun unfit => isConfiguration_of_ofVector unfit duration⟩
  obtain ⟨trajectory, read⟩ := ofVector_of_fits fits duration
  have isRead := isReadFrom_of_ofVector read
  refine ⟨trajectory, read, isRead, ?_⟩
  intro other _ _ _ otherTrajectory otherRead states controls
  have otherIsRead := isReadFrom_of_ofVector otherRead
  calc other = otherTrajectory.rejoined := otherIsRead.rejoined.symm
    _ = trajectory.rejoined :=
      rejoined_congr (otherIsRead.nodes.trans isRead.nodes.symm) states controls
    _ = vector := isRead.rejoined

/-- Two states and a control over two intervals: the eight components are read into series of three,
three and two samples, and seven components are refused. -/
theorem ofVector_recovers_twoIntervals :
    Fits ⟨2, 1, 2⟩ [1.0, 10.0, 0.1, 2.0, 20.0, 0.2, 3.0, (30.0 : Float)] ["c", "T"] ["q"] ∧
      (∃ trajectory, ofVector ⟨2, 1, 2⟩ [1.0, 10.0, 0.1, 2.0, 20.0, 0.2, 3.0, (30.0 : Float)] 0.5
          ["c", "T"] ["q"] = .ok trajectory ∧
        trajectory.IsReadFrom ⟨2, 1, 2⟩ [1.0, 10.0, 0.1, 2.0, 20.0, 0.2, 3.0, (30.0 : Float)]) ∧
      ∃ failure, ofVector ⟨2, 1, 2⟩ [1.0, 10.0, 0.1, 2.0, 20.0, 0.2, (3.0 : Float)] 0.5
          ["c", "T"] ["q"] = .error failure ∧ failure.isConfiguration = true := by
  have fits : Fits ⟨2, 1, 2⟩ [1.0, 10.0, 0.1, 2.0, 20.0, 0.2, 3.0, (30.0 : Float)] ["c", "T"]
      ["q"] := ⟨rfl, rfl, rfl⟩
  have unfit : ¬ Fits ⟨2, 1, 2⟩ [1.0, 10.0, 0.1, 2.0, 20.0, 0.2, (3.0 : Float)] ["c", "T"]
      ["q"] := fun fits => by
    have length : (7 : Nat) = 8 := fits.1
    omega
  obtain ⟨-, -, reads⟩ := ofVector_recovers (α := Float) ⟨2, 1, 2⟩
  obtain ⟨trajectory, read, isRead, -⟩ := (reads _ 0.5 _ _).1 fits
  exact ⟨fits, ⟨trajectory, read, isRead⟩, (reads _ 0.5 _ _).2 unfit⟩

end Trajectory

end MultipleShooting
