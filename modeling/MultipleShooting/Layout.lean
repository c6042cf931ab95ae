/-
**Where states and controls stand in the decision vector.**

A horizon of `nk` intervals has `nk + 1` nodes. The decision vector holds a block of states at every
node and, between two nodes, a block of controls:

```text
v = [x_0, u_0, x_1, u_1, ..., x_{nk-1}, u_{nk-1}, x_nk]
```

The constraints are the residual at the start and one block of rows for each link between an
interval and the node after it.

* `Layout.layOut`: the blocks, laid out in a single pass;
* `Layout.state`, `Layout.control`: the blocks of a decision vector;
* `Layout.assemble`: the decision vector of given blocks, and `Layout.fill` that of blocks that are
  everywhere the same;
* `Rows`: the rows of the constraints.
-/
import MultipleShooting.Failure

namespace MultipleShooting

/-- The places from `start` to before `stop`. -/
structure Block where
  start : Nat
  stop : Nat
deriving Repr, DecidableEq

/-- The items of two lists in turn, those of the longer list at the end. -/
def alternate {β : Type} : List β → List β → List β
  | first :: others, second :: rest => first :: second :: alternate others rest
  | others, [] => others
  | [], rest => rest

/-- The sizes of a decision vector: states, controls and intervals. -/
structure Layout where
  nx : Nat
  nu : Nat
  nk : Nat
deriving Repr, DecidableEq

namespace Layout

/-- The length of the decision vector. -/
def size (layout : Layout) : Nat := (layout.nk + 1) * layout.nx + layout.nk * layout.nu

/-- The distance between the blocks of neighbouring nodes. -/
def stride (layout : Layout) : Nat := layout.nx + layout.nu

/-- The states of a node. -/
def stateBlock (layout : Layout) (node : Nat) : Block :=
  ⟨node * layout.stride, node * layout.stride + layout.nx⟩

/-- The controls of an interval, directly after the states of its first node. -/
def controlBlock (layout : Layout) (interval : Nat) : Block :=
  ⟨interval * layout.stride + layout.nx, interval * layout.stride + layout.nx + layout.nu⟩

/-- The blocks of states and those of controls, and the place after the last of them. -/
structure LaidOut where
  states : List Block
  controls : List Block
  stop : Nat
deriving Repr, DecidableEq

/-- The blocks from a place on, `remaining` intervals before the last node. They are laid out in a
single pass, each beginning where the one before it ends. -/
def layOutFrom (layout : Layout) : (remaining start : Nat) → LaidOut
  | 0, start => ⟨[⟨start, start + layout.nx⟩], [], start + layout.nx⟩
  | remaining + 1, start =>
    let states : Block := ⟨start, start + layout.nx⟩
    let controls : Block := ⟨states.stop, states.stop + layout.nu⟩
    let others := layout.layOutFrom remaining controls.stop
    ⟨states :: others.states, controls :: others.controls, others.stop⟩

/-- All blocks. -/
def layOut (layout : Layout) : LaidOut := layout.layOutFrom layout.nk 0

/-- All blocks in the order in which they stand. -/
def orderedBlocks (layout : Layout) : List Block :=
  alternate layout.layOut.states layout.layOut.controls

/-- The length of the decision vector is that of all strides and a last block of states. -/
theorem size_eq_strides (layout : Layout) :
    layout.size = layout.nk * layout.stride + layout.nx := by
  simp only [size, stride, Nat.add_mul, Nat.mul_add, Nat.one_mul]
  omega

/-- A state of a node stands inside the decision vector. -/
theorem state_lt_size (layout : Layout) {node component : Nat} (known : node ≤ layout.nk)
    (inside : component < layout.nx) :
    node * layout.stride + component < layout.size := by
  have ordered := Nat.mul_le_mul_right layout.stride known
  rw [size_eq_strides]
  omega

/-- A control of an interval stands inside the decision vector. -/
theorem control_lt_size (layout : Layout) {interval component : Nat}
    (known : interval < layout.nk) (inside : component < layout.nu) :
    interval * layout.stride + layout.nx + component < layout.size := by
  have ordered := Nat.mul_le_mul_right layout.stride (Nat.succ_le_of_lt known)
  rw [size_eq_strides]
  simp only [Nat.succ_eq_add_one, Nat.add_mul, Nat.one_mul] at ordered
  have width : layout.stride = layout.nx + layout.nu := rfl
  omega

/-- A decision vector with a place in it has blocks. -/
theorem stride_pos_of_lt_size (layout : Layout) {place : Nat} (inside : place < layout.size) :
    0 < layout.stride := by
  have width : layout.stride = layout.nx + layout.nu := rfl
  rcases Nat.eq_zero_or_pos layout.stride with flat | wide
  · rw [size_eq_strides, flat] at inside
    omega
  · exact wide

variable {β : Type}

/-- The states of a node. -/
def state (layout : Layout) (vector : Vector β layout.size) (node : Nat)
    (known : node ≤ layout.nk) : Vector β layout.nx :=
  Vector.ofFn fun i =>
    vector.get ⟨node * layout.stride + i, layout.state_lt_size known i.isLt⟩

/-- The controls of an interval. -/
def control (layout : Layout) (vector : Vector β layout.size) (interval : Nat)
    (known : interval < layout.nk) : Vector β layout.nu :=
  Vector.ofFn fun i =>
    vector.get ⟨interval * layout.stride + layout.nx + i, layout.control_lt_size known i.isLt⟩

/-- The node or interval to which a place belongs is one of the layout's, an interval if the place
is beyond the states of the node. -/
theorem node_of_lt_size (layout : Layout) {place : Nat} (inside : place < layout.size) :
    place / layout.stride ≤ layout.nk ∧
      (layout.nx ≤ place % layout.stride → place / layout.stride < layout.nk) := by
  have wide := layout.stride_pos_of_lt_size inside
  have width : layout.stride = layout.nx + layout.nu := rfl
  have split := Nat.div_add_mod place layout.stride
  rw [size_eq_strides] at inside
  rw [Nat.mul_comm] at split
  constructor
  · rcases Nat.lt_or_ge layout.nk (place / layout.stride) with beyond | within
    · have ordered := Nat.mul_le_mul_right layout.stride (Nat.succ_le_of_lt beyond)
      simp only [Nat.succ_eq_add_one, Nat.add_mul, Nat.one_mul] at ordered
      omega
    · exact within
  · intro control
    rcases Nat.lt_or_ge (place / layout.stride) layout.nk with within | beyond
    · exact within
    · have ordered := Nat.mul_le_mul_right layout.stride beyond
      omega

/-- The vector with the given states at each node and the given controls in each interval. -/
def assemble (layout : Layout) (states : Vector (Vector β layout.nx) (layout.nk + 1))
    (controls : Vector (Vector β layout.nu) layout.nk) : Vector β layout.size :=
  Vector.ofFn fun place =>
    let known := layout.node_of_lt_size place.isLt
    if inState : place.val % layout.stride < layout.nx then
      (states.get ⟨place.val / layout.stride, Nat.lt_succ_of_le known.1⟩).get
        ⟨place.val % layout.stride, inState⟩
    else
      (controls.get ⟨place.val / layout.stride, known.2 (Nat.le_of_not_lt inState)⟩).get
        ⟨place.val % layout.stride - layout.nx, by
          have bound := Nat.mod_lt place.val (layout.stride_pos_of_lt_size place.isLt)
          have width : layout.stride = layout.nx + layout.nu := rfl
          omega⟩

/-- The vector with the same states at every node and the same controls in every interval. -/
def fill (layout : Layout) (states : Vector β layout.nx) (controls : Vector β layout.nu) :
    Vector β layout.size :=
  layout.assemble (Vector.replicate _ states) (Vector.replicate _ controls)

end Layout

/-- The rows of the constraints: those of the start, and `links` blocks of one row for each
state. -/
structure Rows where
  initial : Nat
  nx : Nat
  links : Nat
deriving Repr, DecidableEq

/-- The number of linked intervals; the last one is linked to the last node only on demand. -/
def linkCount (intervals : Nat) (terminalLink : Bool) : Nat :=
  if terminalLink then intervals else intervals - 1

/-- There are no more links than intervals. -/
theorem linkCount_le (intervals : Nat) (terminalLink : Bool) :
    linkCount intervals terminalLink ≤ intervals := by
  cases terminalLink <;> simp [linkCount]

namespace Rows

/-- The rows of a horizon, which has to have an interval. -/
def make {α : Type} (initial nx nk : Nat) (terminalLink : Bool) : Outcome α Rows :=
  if nk = 0 then .error (.configuration .noConstraintRows)
  else .ok ⟨initial, nx, linkCount nk terminalLink⟩

/-- The number of rows. -/
def count (rows : Rows) : Nat := rows.initial + rows.links * rows.nx

/-- The rows of the start. -/
def initialBlock (rows : Rows) : Block := ⟨0, rows.initial⟩

/-- The rows of a link. -/
def linkBlock (rows : Rows) (link : Nat) : Block :=
  ⟨rows.initial + link * rows.nx, rows.initial + link * rows.nx + rows.nx⟩

end Rows

end MultipleShooting
