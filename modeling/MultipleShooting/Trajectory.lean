/-
**Trajectories.**

A trajectory holds the times of the nodes, the samples of every state at the nodes and the samples
of every control on the intervals.

* `Trajectory.ofVector`: the trajectory that a decision vector describes;
* `Trajectory.stepProfile?`: a control as a step function on the nodes;
* `Trajectory.toCsv`: the table with one record for each node, in which a series that has ended
  leaves an empty field.
-/
import MultipleShooting.Csv
import MultipleShooting.Layout

namespace MultipleShooting

/-- Times of the nodes with named series of states and controls. -/
structure Trajectory (α : Type) where
  times : List α
  stateNames : List String
  controlNames : List String
  states : List (List α)
  controls : List (List α)

namespace Trajectory

variable {α : Type}

/-- The number of intervals. -/
def intervals (trajectory : Trajectory α) : Nat := trajectory.times.length - 1

/-- The series under the first occurrence of a name. -/
def seriesOf? (name : String) : List String → List (List α) → Option (List α)
  | other :: names, series :: others =>
    if other = name then some series else seriesOf? name names others
  | _, _ => none

/-- The samples of a state. -/
def state? (trajectory : Trajectory α) (name : String) : Option (List α) :=
  seriesOf? name trajectory.stateNames trajectory.states

/-- The samples of a control. -/
def control? (trajectory : Trajectory α) (name : String) : Option (List α) :=
  seriesOf? name trajectory.controlNames trajectory.controls

/-- A control as a step function on the nodes: its first sample is repeated, so that every sample is
the control that holds up to its time. -/
def stepProfile? (trajectory : Trajectory α) (index : Nat) : Option (List α × List α) :=
  match trajectory.controls[index]? with
  | some (first :: others) => some (trajectory.times, first :: first :: others)
  | _ => none

/-- Samples of several series at several indices, one row for each index. -/
def samples (count : Nat) (series : List (List α)) : List (List α) :=
  (List.range count).map fun k => series.filterMap fun values => values[k]?

/-- The states at each node. -/
def stateRows (trajectory : Trajectory α) : List (List α) :=
  samples trajectory.times.length trajectory.states

/-- The controls of each interval. -/
def controlRows (trajectory : Trajectory α) : List (List α) :=
  samples trajectory.intervals trajectory.controls

/-! ### Decision vectors -/

/-- The series that each component of a sequence of vectors is. -/
def seriesByComponent {n : Nat} (blocks : List (Vector α n)) : List (List α) :=
  List.ofFn fun i : Fin n => blocks.map fun block => block.get i

/-- The trajectory of a decision vector: every block is copied, nothing is interpolated. -/
def ofVector [Number α] (layout : Layout) (vector : List α) (duration : α)
    (stateNames controlNames : List String) : Outcome α (Trajectory α) :=
  if length : vector.length = layout.size then
    match checkLength "state names" layout.nx stateNames.length with
    | .error failure => .error failure
    | .ok _ =>
      match checkLength "control names" layout.nu controlNames.length with
      | .error failure => .error failure
      | .ok _ =>
        let vector : Vector α layout.size := ⟨vector.toArray, length⟩
        .ok {
          times := (List.range (layout.nk + 1)).map fun k : Nat => (k : α) * duration
          stateNames := stateNames
          controlNames := controlNames
          states := seriesByComponent <|
            List.ofFn fun k : Fin (layout.nk + 1) =>
              layout.state vector k (Nat.le_of_lt_succ k.isLt)
          controls := seriesByComponent <|
            List.ofFn fun k : Fin layout.nk => layout.control vector k k.isLt }
  else .error (.configuration (.solutionLength vector.length layout.size))

/-! ### Tables -/

/-- The text of the sample of a series at an index, empty where the series has ended. -/
def cell [DecimalText α] (index : Nat) (series : List α) : List Char :=
  match series[index]? with
  | some value => DecimalText.write value
  | none => []

/-- The table of times, states and controls. -/
def toCsv [DecimalText α] (trajectory : Trajectory α) : Except Csv.LengthFault (List Char) :=
  let header := ['t'] :: ((trajectory.stateNames ++ trajectory.controlNames).map String.toList)
  let record : α × Nat → List (List Char) := fun (time, index) =>
    DecimalText.write time :: (trajectory.states ++ trajectory.controls).map (cell index)
  Csv.write header (trajectory.times.zipIdx.map record)

/-- The text of the table. -/
def csvText [DecimalText α] (trajectory : Trajectory α) : Outcome α String :=
  match trajectory.toCsv with
  | .ok chars => .ok (String.ofList chars)
  | .error fault => .error (.io fault.message)

end Trajectory

end MultipleShooting
