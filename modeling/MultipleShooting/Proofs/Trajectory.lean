/-
**Trajectories of decision vectors.**

The trajectory of a decision vector has its blocks for samples (`Trajectory.ofVector_eq_ok`): sample
`k` of a state is the state at node `k`, and sample `k` of a control is the control in interval `k`.
-/
import MultipleShooting.Proofs.Layout
import MultipleShooting.Proofs.Outcome
import MultipleShooting.Trajectory

namespace MultipleShooting

namespace Trajectory

variable {α : Type} {layout : Layout}

/-- The series of the components of a vector of vectors. -/
theorem seriesByComponent_ofFn {n k : Nat} (blocks : Fin k → Vector α n) :
    seriesByComponent (List.ofFn blocks) = List.ofFn fun i => List.ofFn fun j =>
      (blocks j).get i := by
  unfold seriesByComponent
  simp only [List.map_ofFn]
  rfl

/-- **The trajectory of a decision vector** has its names, its times and its blocks. -/
theorem ofVector_eq_ok [Number α] {vector : Vector α layout.size} {duration : α}
    {stateNames controlNames : List String} {trajectory : Trajectory α}
    (read : ofVector layout vector.toList duration stateNames controlNames = .ok trajectory) :
    trajectory.times = (List.range (layout.nk + 1)).map (fun k : Nat => (k : α) * duration) ∧
      trajectory.stateNames = stateNames ∧ trajectory.controlNames = controlNames ∧
      trajectory.states = (List.ofFn fun i => List.ofFn fun node =>
        vector.get (layout.statePlace node i)) ∧
      trajectory.controls = List.ofFn fun i => List.ofFn fun k =>
        vector.get (layout.controlPlace k i) := by
  unfold ofVector at read
  rw [dif_pos Vector.length_toList] at read
  split at read
  · cases read
  · split at read
    · cases read
    · cases read
      have same : (⟨vector.toList.toArray, Vector.length_toList⟩ : Vector α layout.size) = vector :=
        rfl
      refine ⟨rfl, rfl, rfl, ?_, ?_⟩
      · rw [same]
        refine (seriesByComponent_ofFn _).trans ?_
        simp only [Layout.get_state]
      · rw [same]
        refine (seriesByComponent_ofFn _).trans ?_
        simp only [Layout.get_control]

end Trajectory

end MultipleShooting
