/-
**The blocks of a decision vector tile it.**

The single pass that lays the blocks out from running offsets puts each of them where the closed
form says (`Layout.layOut_eq`). One after the other they fill the decision vector without a gap
(`Layout.tiles_orderedBlocks`): their places in order are all places (`Tiles.flatMap_places`), and
the parts of a vector that stand in them make up the vector (`Tiles.flatMap_slice`). States and
controls of a vector are such parts (`Layout.slice_stateBlock`, `Layout.slice_controlBlock`).

* `Layout.IsLaidOut`: all of this in one structure, which holds of every layout
  (`Layout.isLaidOut`);
* `Layout.eq_fill_iff`: a filled vector is the one whose blocks are all the same.
-/
import MultipleShooting.Proofs.Layout

namespace MultipleShooting

/-! ### Blocks one after the other -/

/-- The blocks stand one after the other from `start` to `stop`; any of them may be empty. -/
def Tiles : (start : Nat) → List Block → (stop : Nat) → Prop
  | start, [], stop => start = stop
  | start, block :: others, stop =>
    block.start = start ∧ block.start ≤ block.stop ∧ Tiles block.stop others stop

namespace Block

/-- The places of a block. -/
def places (block : Block) : List Nat := List.range' block.start (block.stop - block.start)

/-- The part of a vector that stands in a block. -/
def slice {β : Type} (vector : List β) (block : Block) : List β :=
  (vector.drop block.start).take (block.stop - block.start)

end Block

namespace Tiles

variable {start stop : Nat} {blocks : List Block}

theorem start_le (tiles : Tiles start blocks stop) : start ≤ stop := by
  induction blocks generalizing start with
  | nil => exact Nat.le_of_eq tiles
  | cons block others ih =>
    obtain ⟨begins, ordered, rest⟩ := tiles
    exact begins ▸ ordered.trans (ih rest)

/-- **The places of the blocks in order** are all places from the first to the last. -/
theorem flatMap_places (tiles : Tiles start blocks stop) :
    blocks.flatMap Block.places = List.range' start (stop - start) := by
  induction blocks generalizing start with
  | nil =>
    cases tiles
    rw [Nat.sub_self]
    rfl
  | cons block others ih =>
    obtain ⟨rfl, ordered, rest⟩ := tiles
    have beyond := rest.start_le
    have width : stop - block.start = (block.stop - block.start) + (stop - block.stop) := by omega
    rw [List.flatMap_cons, ih rest, width, List.range'_append_1.symm]
    unfold Block.places
    congr 2
    omega

/-- **The parts of a vector in the blocks** make up the part from the first place to the last. -/
theorem flatMap_slice {β : Type} (tiles : Tiles start blocks stop) (vector : List β) :
    blocks.flatMap (Block.slice vector) = Block.slice vector ⟨start, stop⟩ := by
  induction blocks generalizing start with
  | nil =>
    cases tiles
    unfold Block.slice
    rw [Nat.sub_self, List.take_zero]
    rfl
  | cons block others ih =>
    obtain ⟨rfl, ordered, rest⟩ := tiles
    have beyond := rest.start_le
    have width : stop - block.start = (block.stop - block.start) + (stop - block.stop) := by omega
    have next : block.stop = block.start + (block.stop - block.start) := by omega
    rw [List.flatMap_cons, ih rest]
    unfold Block.slice
    dsimp only
    rw [width, List.take_add, List.drop_drop, ← next]

end Tiles

/-! ### Lists in turn -/

theorem map_alternate {β γ : Type} (f : β → γ) (left right : List β) :
    (alternate left right).map f = alternate (left.map f) (right.map f) := by
  induction left generalizing right with
  | nil => cases right <;> rfl
  | cons first others ih =>
    cases right with
    | nil => rfl
    | cons second rest =>
      show f first :: f second :: (alternate others rest).map f = _
      rw [ih]
      rfl

section Alternate

variable {β : Type} {left right : List β}

theorem length_alternate : (alternate left right).length = left.length + right.length := by
  induction left generalizing right with
  | nil => cases right <;> simp [alternate]
  | cons first others ih =>
    cases right with
    | nil => rfl
    | cons second rest =>
      show (alternate others rest).length + 1 + 1 = others.length + 1 + (rest.length + 1)
      rw [ih]
      omega

/-- The items of the first list stand at even positions. -/
theorem getElem?_alternate_even (longer : right.length ≤ left.length) {k : Nat}
    (inside : k ≤ right.length) : (alternate left right)[2 * k]? = left[k]? := by
  induction k generalizing left right with
  | zero => cases left <;> cases right <;> simp [alternate] at longer ⊢
  | succ k ih =>
    cases right with
    | nil => cases inside
    | cons second rest =>
      cases left with
      | nil => cases longer
      | cons first others =>
        exact ih (Nat.le_of_succ_le_succ longer) (Nat.le_of_succ_le_succ inside)

/-- The items of the second list stand at odd positions. -/
theorem getElem?_alternate_odd (longer : right.length ≤ left.length) {k : Nat}
    (inside : k < right.length) : (alternate left right)[2 * k + 1]? = right[k]? := by
  induction k generalizing left right with
  | zero => cases left <;> cases right <;> simp [alternate] at longer inside ⊢
  | succ k ih =>
    cases right with
    | nil => cases inside
    | cons second rest =>
      cases left with
      | nil => cases longer
      | cons first others =>
        exact ih (Nat.le_of_succ_le_succ longer) (Nat.lt_of_succ_lt_succ inside)

end Alternate

namespace Layout

variable (layout : Layout)

/-! ### The pass -/

/-- The blocks that are laid out from the first place of a node on. -/
theorem layOutFrom_eq (remaining node : Nat) :
    layout.layOutFrom remaining (node * layout.stride) =
      ⟨(List.range' node (remaining + 1)).map layout.stateBlock,
        (List.range' node remaining).map layout.controlBlock,
        (node + remaining) * layout.stride + layout.nx⟩ := by
  induction remaining generalizing node with
  | zero => rfl
  | succ remaining ih =>
    have next : node * layout.stride + layout.nx + layout.nu = (node + 1) * layout.stride := by
      rw [Nat.succ_mul, Nat.add_assoc]
      rfl
    have last : node + 1 + remaining = node + (remaining + 1) := by omega
    unfold layOutFrom
    dsimp only
    rw [next, ih, last, ← next]
    rfl

/-- **The blocks of the pass** are those of the closed form, and it ends with the vector. -/
theorem layOut_eq : layout.layOut =
    ⟨(List.range (layout.nk + 1)).map layout.stateBlock,
      (List.range layout.nk).map layout.controlBlock, layout.size⟩ := by
  have pass := layout.layOutFrom_eq layout.nk 0
  rw [Nat.zero_mul, Nat.zero_add, ← size_eq_strides] at pass
  rw [layOut, pass, List.range_eq_range', List.range_eq_range']

/-- The blocks of the pass from a place on stand one after the other. -/
theorem tiles_layOutFrom (remaining start : Nat) :
    Tiles start (alternate (layout.layOutFrom remaining start).states
      (layout.layOutFrom remaining start).controls)
        (layout.layOutFrom remaining start).stop := by
  induction remaining generalizing start with
  | zero => exact ⟨rfl, Nat.le_add_right _ _, rfl⟩
  | succ remaining ih =>
    exact ⟨rfl, Nat.le_add_right _ _, rfl, Nat.le_add_right _ _, ih _⟩

/-- **The ordered blocks tile the decision vector.** -/
theorem tiles_orderedBlocks : Tiles 0 layout.orderedBlocks layout.size := by
  have tiles := layout.tiles_layOutFrom layout.nk 0
  have stop : (layout.layOutFrom layout.nk 0).stop = layout.size :=
    congrArg LaidOut.stop layout.layOut_eq
  rwa [stop] at tiles

theorem orderedBlocks_eq : layout.orderedBlocks =
    alternate ((List.range (layout.nk + 1)).map layout.stateBlock)
      ((List.range layout.nk).map layout.controlBlock) := by
  rw [orderedBlocks, layOut_eq]

theorem getElem?_blocks (block : Nat → Block) {count k : Nat} (known : k < count) :
    ((List.range count).map block)[k]? = some (block k) := by
  rw [List.getElem?_map, List.getElem?_range known]
  rfl

/-! ### Views -/

variable {β : Type} (vector : Vector β layout.size)

theorem get_toList (place : Fin layout.size) :
    vector.toList[place.val]? = some (vector.get place) := by
  rw [Vector.getElem?_toList, Vector.getElem?_eq_getElem place.isLt]
  rfl

/-- **The states of a node** are the part of the vector in its block. -/
theorem slice_stateBlock {node : Nat} (known : node ≤ layout.nk) :
    (layout.stateBlock node).slice vector.toList = (layout.state vector node known).toList := by
  refine List.ext_getElem? fun i => ?_
  unfold Block.slice stateBlock
  dsimp only
  rw [Nat.add_sub_cancel_left, List.getElem?_take, List.getElem?_drop]
  split_ifs with inside
  · rw [get_toList _ _ ⟨_, layout.state_lt_size known inside⟩, Vector.getElem?_toList,
      Vector.getElem?_eq_getElem inside]
    exact congrArg some (layout.get_state vector node known ⟨i, inside⟩).symm
  · rw [Vector.getElem?_toList, Vector.getElem?_eq_none (Nat.le_of_not_lt inside)]

/-- **The controls of an interval** are the part of the vector in its block. -/
theorem slice_controlBlock {interval : Nat} (known : interval < layout.nk) :
    (layout.controlBlock interval).slice vector.toList =
      (layout.control vector interval known).toList := by
  refine List.ext_getElem? fun i => ?_
  unfold Block.slice controlBlock
  dsimp only
  rw [Nat.add_sub_cancel_left, List.getElem?_take, List.getElem?_drop]
  split_ifs with inside
  · rw [get_toList _ _ ⟨_, layout.control_lt_size known inside⟩, Vector.getElem?_toList,
      Vector.getElem?_eq_getElem inside]
    exact congrArg some (layout.get_control vector interval known ⟨i, inside⟩).symm
  · rw [Vector.getElem?_toList, Vector.getElem?_eq_none (Nat.le_of_not_lt inside)]

/-! ### Layouts -/

/-- **How the blocks of a decision vector are laid out.** The pass ends with the vector and has put
every block in its place; in order the blocks are those of states and controls in turn, and they
tile the vector; and states and controls of a vector are its parts in their blocks. -/
structure IsLaidOut (layout : Layout) : Prop where
  size_eq : layout.layOut.stop = (layout.nk + 1) * layout.nx + layout.nk * layout.nu
  stop_eq : layout.layOut.stop = layout.size
  states_length : layout.layOut.states.length = layout.nk + 1
  controls_length : layout.layOut.controls.length = layout.nk
  states : ∀ node ≤ layout.nk, layout.layOut.states[node]? = some (layout.stateBlock node) ∧
    layout.stateBlock node =
      ⟨node * (layout.nx + layout.nu), node * (layout.nx + layout.nu) + layout.nx⟩
  controls : ∀ interval < layout.nk,
    layout.layOut.controls[interval]? = some (layout.controlBlock interval) ∧
      (layout.controlBlock interval).start = (layout.stateBlock interval).stop ∧
      (layout.controlBlock interval).stop = (layout.controlBlock interval).start + layout.nu
  ordered_length : layout.orderedBlocks.length = 2 * layout.nk + 1
  ordered_states : ∀ node ≤ layout.nk,
    layout.orderedBlocks[2 * node]? = some (layout.stateBlock node)
  ordered_controls : ∀ interval < layout.nk,
    layout.orderedBlocks[2 * interval + 1]? = some (layout.controlBlock interval)
  tiles : Tiles 0 layout.orderedBlocks layout.size
  places : layout.orderedBlocks.flatMap Block.places = List.range layout.size
  state_view : ∀ {β : Type} (vector : Vector β layout.size) (node : Nat)
    (known : node ≤ layout.nk),
    (layout.state vector node known).toList = (layout.stateBlock node).slice vector.toList
  control_view : ∀ {β : Type} (vector : Vector β layout.size) (interval : Nat)
    (known : interval < layout.nk),
    (layout.control vector interval known).toList =
      (layout.controlBlock interval).slice vector.toList

/-- Every layout is laid out so. -/
theorem isLaidOut : layout.IsLaidOut where
  size_eq := congrArg LaidOut.stop layout.layOut_eq
  stop_eq := congrArg LaidOut.stop layout.layOut_eq
  states_length := by rw [layOut_eq, List.length_map, List.length_range]
  controls_length := by rw [layOut_eq, List.length_map, List.length_range]
  states node known := by
    rw [layOut_eq]
    exact ⟨getElem?_blocks _ (Nat.lt_succ_of_le known), rfl⟩
  controls interval known := by
    rw [layOut_eq]
    exact ⟨getElem?_blocks _ known, rfl, rfl⟩
  ordered_length := by
    rw [orderedBlocks_eq, length_alternate, List.length_map, List.length_map, List.length_range,
      List.length_range]
    omega
  ordered_states node known := by
    rw [orderedBlocks_eq, getElem?_alternate_even (by simp) (by simpa using known),
      getElem?_blocks _ (Nat.lt_succ_of_le known)]
  ordered_controls interval known := by
    rw [orderedBlocks_eq, getElem?_alternate_odd (by simp) (by simpa using known),
      getElem?_blocks _ known]
  tiles := layout.tiles_orderedBlocks
  places := by rw [layout.tiles_orderedBlocks.flatMap_places, Nat.sub_zero, List.range_eq_range']
  state_view vector _ known := (layout.slice_stateBlock vector known).symm
  control_view vector _ known := (layout.slice_controlBlock vector known).symm

/-- **A filled vector** is the one that has the same states at every node and the same controls in
every interval. -/
theorem eq_fill_iff {states : Vector β layout.nx} {controls : Vector β layout.nu} :
    vector = layout.fill states controls ↔
      (∀ node known, layout.state vector node known = states) ∧
        ∀ interval known, layout.control vector interval known = controls := by
  have filledStates (node : Nat) (known : node ≤ layout.nk) :
      layout.state (layout.fill states controls) node known = states := by
    rw [fill, state_assemble, Vector.get_replicate]
  have filledControls (interval : Nat) (known : interval < layout.nk) :
      layout.control (layout.fill states controls) interval known = controls := by
    rw [fill, control_assemble, Vector.get_replicate]
  constructor
  · rintro rfl
    exact ⟨filledStates, filledControls⟩
  · rintro ⟨sameStates, sameControls⟩
    refine layout.ext_blocks ?_ ?_
    · intro node known
      rw [sameStates, filledStates]
    · intro k
      rw [sameControls, filledControls]

end Layout

end MultipleShooting
