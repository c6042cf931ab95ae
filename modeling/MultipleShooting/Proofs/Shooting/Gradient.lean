/-
**The gradient, block by block.**

In any arithmetic, the gradient is gathered interval after interval from zeros. Its components in
the blocks of an interval are those that the interval adds to zero
(`Shooting.get_gradient_statePlace`, `Shooting.get_gradient_controlPlace`), since no other interval
adds to them, and those in the states of the last node stay zero
(`Shooting.get_gradient_lastPlace`).
-/
import MultipleShooting.Proofs.Shooting.Evaluation

namespace MultipleShooting

namespace Shooting

variable {α : Type} [Number α] {layout : Layout}

/-! ### One interval -/

section Step

variable {gradient : Vector α layout.size} {k : Fin layout.nk}
  {cotangents : Cotangents α layout.nx layout.nu}

/-- The states of a node have none of the places of controls. -/
theorem outside_controlBlock (node : Fin (layout.nk + 1)) (i : Fin layout.nx) (j : Fin layout.nu) :
    (layout.statePlace node i).val ≠ (layout.controlBlock k).start + j := fun same =>
  layout.statePlace_ne_controlPlace node i k j (Fin.ext same)

/-- The controls of an interval have none of the places of states. -/
theorem outside_stateBlock (interval : Fin layout.nk) (i : Fin layout.nu) (j : Fin layout.nx) :
    (layout.controlPlace interval i).val ≠ (layout.stateBlock k).start + j := fun same =>
  layout.statePlace_ne_controlPlace k.castSucc j interval i (Fin.ext same.symm)

/-- An interval adds to the states of its first node. -/
theorem get_addCotangents_statePlace (i : Fin layout.nx) :
    (addCotangents layout gradient k cotangents).get (layout.statePlace k.castSucc i) =
      gradient.get (layout.statePlace k.castSucc i) + cotangents.byState.get i := by
  unfold addCotangents
  rw [Column.get_addFrom_of_outside (outside_controlBlock _ _), Column.get_addFrom_of_inside rfl]

/-- An interval adds to its controls. -/
theorem get_addCotangents_controlPlace (i : Fin layout.nu) :
    (addCotangents layout gradient k cotangents).get (layout.controlPlace k i) =
      gradient.get (layout.controlPlace k i) + cotangents.byControl.get i := by
  unfold addCotangents
  rw [Column.get_addFrom_of_inside rfl, Column.get_addFrom_of_outside (outside_stateBlock _ _)]

/-- An interval adds to the states of no other node. -/
theorem get_addCotangents_statePlace_of_ne {node : Fin (layout.nk + 1)} (apart : node ≠ k.castSucc)
    (i : Fin layout.nx) :
    (addCotangents layout gradient k cotangents).get (layout.statePlace node i) =
      gradient.get (layout.statePlace node i) := by
  unfold addCotangents
  rw [Column.get_addFrom_of_outside (outside_controlBlock _ _), Column.get_addFrom_of_outside]
  intro j same
  exact apart (layout.statePlace_inj.mp
    (Fin.ext same : layout.statePlace node i = layout.statePlace k.castSucc j)).1

/-- An interval adds to the controls of no other interval. -/
theorem get_addCotangents_controlPlace_of_ne {interval : Fin layout.nk} (apart : interval ≠ k)
    (i : Fin layout.nu) :
    (addCotangents layout gradient k cotangents).get (layout.controlPlace interval i) =
      gradient.get (layout.controlPlace interval i) := by
  unfold addCotangents
  rw [Column.get_addFrom_of_outside, Column.get_addFrom_of_outside (outside_stateBlock _ _)]
  intro j same
  exact apart (layout.controlPlace_inj.mp
    (Fin.ext same : layout.controlPlace interval i = layout.controlPlace k j)).1

end Step

/-! ### All intervals -/

variable (shooting : Shooting α layout)
  {ends : Vector (Differentiated α layout.nx layout.nu) layout.nk}

/-- **The states of the first node of an interval** in the gradient. -/
theorem get_gradient_statePlace (k : Fin layout.nk) (i : Fin layout.nx) :
    (shooting.gradient ends).get (layout.statePlace k.castSucc i) =
      0 + (ends.get k).cotangents.byState.get i := by
  unfold gradient
  rw [get_foldl_of_changed (f := (· + (ends.get k).cotangents.byState.get i))
    (List.nodup_finRange _) (List.mem_finRange k), Column.get_zero]
  · intro other apart vector
    exact get_addCotangents_statePlace_of_ne
      (fun same => apart (Fin.castSucc_injective _ same).symm) i
  · exact fun vector => get_addCotangents_statePlace i

/-- **The controls of an interval** in the gradient. -/
theorem get_gradient_controlPlace (k : Fin layout.nk) (i : Fin layout.nu) :
    (shooting.gradient ends).get (layout.controlPlace k i) =
      0 + (ends.get k).cotangents.byControl.get i := by
  unfold gradient
  rw [get_foldl_of_changed (f := (· + (ends.get k).cotangents.byControl.get i))
    (List.nodup_finRange _) (List.mem_finRange k), Column.get_zero]
  · exact fun other apart vector => get_addCotangents_controlPlace_of_ne (Ne.symm apart) i
  · exact fun vector => get_addCotangents_controlPlace i

/-- **The states of the last node** have no part in the objective. -/
theorem get_gradient_lastPlace (i : Fin layout.nx) :
    (shooting.gradient ends).get (layout.statePlace (Fin.last layout.nk) i) = 0 := by
  unfold gradient
  rw [get_foldl_of_unchanged, Column.get_zero]
  exact fun k _ vector => get_addCotangents_statePlace_of_ne (Fin.castSucc_ne_last k).symm i

end Shooting

end MultipleShooting
