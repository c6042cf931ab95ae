/-
**Propagation over the real numbers.**

Every real number is an ordinary one, so no stage fails: a sub-step is a total map
(`Interval.sweep`, with derivatives `Interval.differentiatedSweep`), and an interval repeats it
(`Interval.propagate_real`, `Interval.differentiate_real`). The sub-step is the classical scheme
(`Interval.sweep_real`, `Interval.differentiatedSweep_real`) with its weighted sums of the four
slopes (`Interval.get_combine`, `Interval.cost_combine`).
-/
import MultipleShooting.Proofs.Interval.Agreement
import MultipleShooting.Proofs.Linear.Real

namespace MultipleShooting

variable {nx nu : Nat}

namespace Interval

section Sweeps

variable {α : Type} [Number α]

/-- State and cost after a sub-step in which no value is checked. -/
def sweep (interval : Interval α nx nu) (control : Vector α nu) (start : Propagated α nx) :
    Propagated α nx :=
  let k1 := interval.slopesAt start.state control
  let k2 := interval.slopesAt (stagePoint start.state (0.5 * interval.step) k1) control
  let k3 := interval.slopesAt (stagePoint start.state (0.5 * interval.step) k2) control
  let k4 := interval.slopesAt (stagePoint start.state (1.0 * interval.step) k3) control
  combine interval.step start k1 k2 k3 k4

/-- State, cost and derivatives after a sub-step in which no value is checked. -/
def differentiatedSweep (interval : Interval α nx nu) (control : Vector α nu)
    (start : Differentiated α nx nu) : Differentiated α nx nu :=
  let state := start.reached.state
  let tangents := start.tangents
  let k1 := interval.chainedAt state control tangents
  let k2 := interval.chainedAt (stagePoint state (0.5 * interval.step) k1.reached) control
    (tangents.addScaled (0.5 * interval.step) k1.tangents)
  let k3 := interval.chainedAt (stagePoint state (0.5 * interval.step) k2.reached) control
    (tangents.addScaled (0.5 * interval.step) k2.tangents)
  let k4 := interval.chainedAt (stagePoint state (1.0 * interval.step) k3.reached) control
    (tangents.addScaled (1.0 * interval.step) k3.tangents)
  combineDifferentiated interval.step start k1 k2 k3 k4

/-- State and cost at the end of an interval. -/
def endOf (interval : Interval α nx nu) (state : Vector α nx) (control : Vector α nu) :
    Propagated α nx :=
  (interval.sweep control)^[interval.substeps] ⟨state, 0⟩

/-- State and cost at the end of an interval with their derivatives. -/
def differentiatedEndOf (interval : Interval α nx nu) (state : Vector α nx)
    (control : Vector α nu) : Differentiated α nx nu :=
  (interval.differentiatedSweep control)^[interval.substeps]
    ⟨⟨state, 0⟩, Tangents.initial, Cotangents.initial⟩

/-- An interval can be made of any ordinary positive duration and any number of sub-steps but
zero. -/
theorem make_of_positive {dynamics : Dynamics α nx nu} {duration : α} {substeps : Nat}
    (finite : Number.isFinite duration = true) (positive : ¬ duration ≤ 0)
    (divided : 0 < substeps) :
    make dynamics duration substeps = .ok ⟨dynamics, duration, substeps⟩ := by
  unfold make
  rw [finite, if_neg (by simpa using positive), if_neg divided.ne']

end Sweeps

theorem make_real {dynamics : Dynamics ℝ nx nu} {duration : ℝ} {substeps : Nat}
    (positive : 0 < duration) (divided : 0 < substeps) :
    make dynamics duration substeps = .ok ⟨dynamics, duration, substeps⟩ :=
  make_of_positive rfl (not_le.mpr positive) divided

variable (interval : Interval ℝ nx nu) (control : Vector ℝ nu)

theorem slope_real (index stage : Nat) (state : Vector ℝ nx) :
    interval.slope index stage state control = .ok (interval.slopesAt state control) :=
  slope_eq_ok.mpr ⟨Column.isFinite_real _, rfl, rfl⟩

theorem differentiatedSlope_real (index stage : Nat) (state : Vector ℝ nx)
    (tangents : Tangents ℝ nx nu) :
    interval.differentiatedSlope index stage state control tangents =
      .ok (interval.chainedAt state control tangents) :=
  differentiatedSlope_eq_ok.mpr
    ⟨slope_real interval control index stage state, Dense.isFinite_real _, Column.isFinite_real _,
      rfl⟩

theorem substep_real (index : Nat) (start : Propagated ℝ nx) :
    interval.substep control index start = .ok (interval.sweep control start) :=
  substep_eq_ok.mpr ⟨_, _, _, _, slope_real .., slope_real .., slope_real .., slope_real .., rfl⟩

theorem differentiatedSubstep_real (index : Nat) (start : Differentiated ℝ nx nu) :
    interval.differentiatedSubstep control index start =
      .ok (interval.differentiatedSweep control start) :=
  differentiatedSubstep_eq_ok.mpr ⟨_, _, _, _, differentiatedSlope_real ..,
    differentiatedSlope_real .., differentiatedSlope_real .., differentiatedSlope_real .., rfl⟩

theorem advance_real (remaining index : Nat) (start : Propagated ℝ nx) :
    interval.advance control remaining index start =
      .ok ((interval.sweep control)^[remaining] start) := by
  induction remaining generalizing index start with
  | zero => rfl
  | succ remaining ih =>
    unfold advance
    rw [substep_real]
    exact ih (index + 1) (interval.sweep control start)

theorem differentiatedAdvance_real (remaining index : Nat) (start : Differentiated ℝ nx nu) :
    interval.differentiatedAdvance control remaining index start =
      .ok ((interval.differentiatedSweep control)^[remaining] start) := by
  induction remaining generalizing index start with
  | zero => rfl
  | succ remaining ih =>
    unfold differentiatedAdvance
    rw [differentiatedSubstep_real]
    exact ih (index + 1) (interval.differentiatedSweep control start)

/-- **The end of an interval** is that of its repeated sub-step. -/
theorem propagate_real (state : Vector ℝ nx) :
    interval.propagate state control = .ok (interval.endOf state control) :=
  advance_real ..

/-- **The end of an interval with its derivatives** is that of the repeated sub-step. -/
theorem differentiate_real (state : Vector ℝ nx) :
    interval.differentiate state control = .ok (interval.differentiatedEndOf state control) :=
  differentiatedAdvance_real ..

/-! ### The scheme over the real numbers -/

/-- The sub-step of the classical scheme: two slopes in its middle, one at its end. -/
theorem sweep_real (start : Propagated ℝ nx) :
    interval.sweep control start =
      let k1 := interval.slopesAt start.state control
      let k2 := interval.slopesAt (stagePoint start.state (interval.step / 2) k1) control
      let k3 := interval.slopesAt (stagePoint start.state (interval.step / 2) k2) control
      let k4 := interval.slopesAt (stagePoint start.state interval.step k3) control
      combine interval.step start k1 k2 k3 k4 := by
  have half : (0.5 : ℝ) * interval.step = interval.step / 2 := by
    norm_num
    ring
  have whole : (1.0 : ℝ) * interval.step = interval.step := by norm_num
  unfold sweep
  rw [half, whole]

/-- The sub-step of the classical scheme with derivatives. -/
theorem differentiatedSweep_real (start : Differentiated ℝ nx nu) :
    interval.differentiatedSweep control start =
      let state := start.reached.state
      let tangents := start.tangents
      let k1 := interval.chainedAt state control tangents
      let k2 := interval.chainedAt (stagePoint state (interval.step / 2) k1.reached) control
        (tangents.addScaled (interval.step / 2) k1.tangents)
      let k3 := interval.chainedAt (stagePoint state (interval.step / 2) k2.reached) control
        (tangents.addScaled (interval.step / 2) k2.tangents)
      let k4 := interval.chainedAt (stagePoint state interval.step k3.reached) control
        (tangents.addScaled interval.step k3.tangents)
      combineDifferentiated interval.step start k1 k2 k3 k4 := by
  have half : (0.5 : ℝ) * interval.step = interval.step / 2 := by
    norm_num
    ring
  have whole : (1.0 : ℝ) * interval.step = interval.step := by norm_num
  unfold differentiatedSweep
  rw [half, whole]

/-- The state that four slopes lead to. -/
theorem get_combine (step : ℝ) (start k1 k2 k3 k4 : Propagated ℝ nx) :
    (combine step start k1 k2 k3 k4).state.get =
      start.state.get + (step / 6) •
        (k1.state.get + (2 : ℝ) • k2.state.get + (2 : ℝ) • k3.state.get + k4.state.get) := by
  simp only [combine, Column.get_add_real, Column.get_scale_real]
  norm_num only

/-- The cost that four slopes lead to. -/
theorem cost_combine (step : ℝ) (start k1 k2 k3 k4 : Propagated ℝ nx) :
    (combine step start k1 k2 k3 k4).cost =
      start.cost + step / 6 * (k1.cost + 2 * k2.cost + 2 * k3.cost + k4.cost) := by
  simp only [combine, weightedSum]
  norm_num only

end Interval

end MultipleShooting
