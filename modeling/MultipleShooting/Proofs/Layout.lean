/-
**Blocks of a decision vector.**

A decision vector is known by its blocks (`Layout.ext_blocks`): every place belongs to the states of
a node or to the controls of an interval (`Layout.place_cases`), and the blocks of an assembled
vector are those that it was assembled from (`Layout.state_assemble`, `Layout.control_assemble`).
-/
import MultipleShooting.Proofs.Linear.Entries
import MultipleShooting.Layout

namespace MultipleShooting

namespace Layout

theorem interval_lt {layout : Layout} (k : Fin layout.nk) : k.val < layout.nk := k.isLt

/-- Every interval has a first node. -/
theorem node_le {layout : Layout} (k : Fin layout.nk) : k.val ≤ layout.nk := Nat.le_of_lt k.isLt

variable {β : Type} (layout : Layout)

/-- The place of a state of a node. -/
def statePlace (node : Fin (layout.nk + 1)) (i : Fin layout.nx) : Fin layout.size :=
  ⟨node * layout.stride + i, layout.state_lt_size (Nat.le_of_lt_succ node.isLt) i.isLt⟩

/-- The place of a control of an interval. -/
def controlPlace (interval : Fin layout.nk) (i : Fin layout.nu) : Fin layout.size :=
  ⟨interval * layout.stride + layout.nx + i, layout.control_lt_size interval.isLt i.isLt⟩

@[simp] theorem get_state (vector : Vector β layout.size) (node : Nat) (known : node ≤ layout.nk)
    (i : Fin layout.nx) :
    (layout.state vector node known).get i =
      vector.get (layout.statePlace ⟨node, Nat.lt_succ_of_le known⟩ i) :=
  Vector.get_ofFn _ i

@[simp] theorem get_control (vector : Vector β layout.size) (interval : Nat)
    (known : interval < layout.nk) (i : Fin layout.nu) :
    (layout.control vector interval known).get i =
      vector.get (layout.controlPlace ⟨interval, known⟩ i) :=
  Vector.get_ofFn _ i

/-! ### The block of a place -/

/-- The offset of a state from the beginning of its stride. -/
theorem statePlace_divMod (node : Fin (layout.nk + 1)) (i : Fin layout.nx) :
    (layout.statePlace node i).val / layout.stride = node ∧
      (layout.statePlace node i).val % layout.stride = i := by
  have width : layout.stride = layout.nx + layout.nu := rfl
  have below : i.val < layout.stride := by omega
  constructor
  · show (node * layout.stride + i.val) / layout.stride = node
    rw [Nat.add_comm, Nat.add_mul_div_right _ _ (Nat.zero_lt_of_lt below),
      Nat.div_eq_of_lt below, Nat.zero_add]
  · show (node * layout.stride + i.val) % layout.stride = i
    rw [Nat.add_comm, Nat.add_mul_mod_self_right, Nat.mod_eq_of_lt below]

/-- The offset of a control from the beginning of its stride. -/
theorem controlPlace_divMod (interval : Fin layout.nk) (i : Fin layout.nu) :
    (layout.controlPlace interval i).val / layout.stride = interval ∧
      (layout.controlPlace interval i).val % layout.stride = layout.nx + i := by
  have width : layout.stride = layout.nx + layout.nu := rfl
  have below : layout.nx + i.val < layout.stride := by omega
  constructor
  · show (interval * layout.stride + layout.nx + i.val) / layout.stride = interval
    rw [Nat.add_assoc, Nat.add_comm, Nat.add_mul_div_right _ _ (Nat.zero_lt_of_lt below),
      Nat.div_eq_of_lt below, Nat.zero_add]
  · show (interval * layout.stride + layout.nx + i.val) % layout.stride = layout.nx + i
    rw [Nat.add_assoc, Nat.add_comm, Nat.add_mul_mod_self_right, Nat.mod_eq_of_lt below]

/-- **Every place is one of a state or of a control.** -/
theorem place_cases (place : Fin layout.size) :
    (∃ node i, place = layout.statePlace node i) ∨
      ∃ interval i, place = layout.controlPlace interval i := by
  have width : layout.stride = layout.nx + layout.nu := rfl
  have known := layout.node_of_lt_size place.isLt
  have split := Nat.div_add_mod' place.val layout.stride
  have bound := Nat.mod_lt place.val (layout.stride_pos_of_lt_size place.isLt)
  by_cases inState : place.val % layout.stride < layout.nx
  · exact .inl ⟨⟨_, Nat.lt_succ_of_le known.1⟩, ⟨_, inState⟩, Fin.ext split.symm⟩
  · have beyond := Nat.le_of_not_lt inState
    refine .inr ⟨⟨_, known.2 beyond⟩, ⟨place.val % layout.stride - layout.nx, by omega⟩, Fin.ext ?_⟩
    simp only [controlPlace]
    omega

/-- **A vector is known by its blocks.** -/
theorem ext_blocks {vector other : Vector β layout.size}
    (sameStates : ∀ node known, layout.state other node known = layout.state vector node known)
    (sameControls : ∀ k : Fin layout.nk,
      layout.control other k k.isLt = layout.control vector k k.isLt) :
    other = vector := by
  refine ext_get fun place => ?_
  obtain ⟨node, i, rfl⟩ | ⟨k, i, rfl⟩ := layout.place_cases place
  · have same := congrArg (·.get i) (sameStates node (Nat.le_of_lt_succ node.isLt))
    simpa only [get_state] using same
  · have same := congrArg (·.get i) (sameControls k)
    simpa only [get_control] using same

/-! ### Different places -/

theorem statePlace_inj {node other : Fin (layout.nk + 1)} {i j : Fin layout.nx} :
    layout.statePlace node i = layout.statePlace other j ↔ node = other ∧ i = j := by
  constructor
  · intro same
    have here := layout.statePlace_divMod node i
    rw [same, (layout.statePlace_divMod other j).1, (layout.statePlace_divMod other j).2] at here
    exact ⟨Fin.ext here.1.symm, Fin.ext here.2.symm⟩
  · rintro ⟨rfl, rfl⟩
    rfl

theorem controlPlace_inj {interval other : Fin layout.nk} {i j : Fin layout.nu} :
    layout.controlPlace interval i = layout.controlPlace other j ↔ interval = other ∧ i = j := by
  constructor
  · intro same
    have here := layout.controlPlace_divMod interval i
    rw [same, (layout.controlPlace_divMod other j).1,
      (layout.controlPlace_divMod other j).2] at here
    exact ⟨Fin.ext here.1.symm, Fin.ext (by omega)⟩
  · rintro ⟨rfl, rfl⟩
    rfl

theorem statePlace_ne_controlPlace (node : Fin (layout.nk + 1)) (i : Fin layout.nx)
    (interval : Fin layout.nk) (j : Fin layout.nu) :
    layout.statePlace node i ≠ layout.controlPlace interval j := by
  intro same
  have here := (layout.statePlace_divMod node i).2
  rw [same, (layout.controlPlace_divMod interval j).2] at here
  omega

/-! ### Assembled vectors -/

variable (states : Vector (Vector β layout.nx) (layout.nk + 1))
  (controls : Vector (Vector β layout.nu) layout.nk)

@[simp] theorem get_assemble_statePlace (node : Fin (layout.nk + 1)) (i : Fin layout.nx) :
    (layout.assemble states controls).get (layout.statePlace node i) = (states.get node).get i := by
  obtain ⟨quotient, remainder⟩ := layout.statePlace_divMod node i
  unfold assemble
  rw [Vector.get_ofFn]
  simp only [remainder, i.isLt, quotient, dite_true]

@[simp] theorem get_assemble_controlPlace (interval : Fin layout.nk) (i : Fin layout.nu) :
    (layout.assemble states controls).get (layout.controlPlace interval i) =
      (controls.get interval).get i := by
  obtain ⟨quotient, remainder⟩ := layout.controlPlace_divMod interval i
  have beyond : ¬ layout.nx + i.val < layout.nx := by omega
  unfold assemble
  rw [Vector.get_ofFn]
  simp only [remainder, beyond, quotient, dite_false, Nat.add_sub_cancel_left]

/-- The states of an assembled vector. -/
theorem state_assemble (node : Nat) (known : node ≤ layout.nk) :
    layout.state (layout.assemble states controls) node known =
      states.get ⟨node, Nat.lt_succ_of_le known⟩ :=
  ext_get fun i => by rw [get_state, get_assemble_statePlace]

/-- The controls of an assembled vector. -/
theorem control_assemble (interval : Nat) (known : interval < layout.nk) :
    layout.control (layout.assemble states controls) interval known =
      controls.get ⟨interval, known⟩ :=
  ext_get fun i => by rw [get_control, get_assemble_controlPlace]

/-! ### Filled vectors -/

@[simp] theorem get_fill_statePlace (values : Vector β layout.nx) (others : Vector β layout.nu)
    (node : Fin (layout.nk + 1)) (i : Fin layout.nx) :
    (layout.fill values others).get (layout.statePlace node i) = values.get i := by
  unfold fill
  rw [get_assemble_statePlace, Vector.get_replicate]

@[simp] theorem get_fill_controlPlace (values : Vector β layout.nx) (others : Vector β layout.nu)
    (interval : Fin layout.nk) (i : Fin layout.nu) :
    (layout.fill values others).get (layout.controlPlace interval i) = others.get i := by
  unfold fill
  rw [get_assemble_controlPlace, Vector.get_replicate]

/-! ### Blocks of a unit vector -/

section Units

variable {α : Type} [Number α]

/-- The states of a node in a unit vector. -/
theorem state_unit_statePlace (node : Fin (layout.nk + 1)) (i : Fin layout.nx) (other : Nat)
    (known : other ≤ layout.nk) :
    layout.state (Column.unit (layout.statePlace node i) : Vector α layout.size) other known =
      if node.val = other then Column.unit i else Column.zero layout.nx := by
  apply ext_get
  intro j
  rw [get_state, Column.get_unit]
  by_cases here : node.val = other
  · rw [if_pos here, Column.get_unit]
    refine if_congr ?_ rfl rfl
    rw [statePlace_inj]
    exact and_iff_right (Fin.ext here)
  · rw [if_neg here, Column.get_zero, if_neg]
    exact fun same => here (congrArg Fin.val (layout.statePlace_inj.mp same).1)

theorem state_unit_controlPlace (interval : Fin layout.nk) (i : Fin layout.nu) (node : Nat)
    (known : node ≤ layout.nk) :
    layout.state (Column.unit (layout.controlPlace interval i) : Vector α layout.size) node known =
      Column.zero layout.nx := by
  apply ext_get
  intro j
  rw [get_state, Column.get_unit, if_neg (layout.statePlace_ne_controlPlace _ j interval i).symm,
    Column.get_zero]

theorem control_unit_statePlace (node : Fin (layout.nk + 1)) (i : Fin layout.nx) (interval : Nat)
    (known : interval < layout.nk) :
    layout.control (Column.unit (layout.statePlace node i) : Vector α layout.size) interval known =
      Column.zero layout.nu := by
  apply ext_get
  intro j
  rw [get_control, Column.get_unit, if_neg (layout.statePlace_ne_controlPlace node i _ j),
    Column.get_zero]

/-- The controls of an interval in a unit vector. -/
theorem control_unit_controlPlace (interval : Fin layout.nk) (i : Fin layout.nu) (other : Nat)
    (known : other < layout.nk) :
    layout.control (Column.unit (layout.controlPlace interval i) : Vector α layout.size) other
        known =
      if interval.val = other then Column.unit i else Column.zero layout.nu := by
  apply ext_get
  intro j
  rw [get_control, Column.get_unit]
  by_cases here : interval.val = other
  · rw [if_pos here, Column.get_unit]
    refine if_congr ?_ rfl rfl
    rw [controlPlace_inj]
    exact and_iff_right (Fin.ext here)
  · rw [if_neg here, Column.get_zero, if_neg]
    exact fun same => here (congrArg Fin.val (layout.controlPlace_inj.mp same).1)

end Units

end Layout

end MultipleShooting
