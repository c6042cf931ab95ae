/-
**Splitting an interval.**

Read over real numbers that may be undefined, a propagation fails where a model function has no
value, and as long as none does it is the propagation over the real numbers:

* `Interval.chainedAt_ofReal`, `Interval.differentiatedSweep_ofReal`: a stage and a sub-step that
  succeed are those of the functions that have zero for what is undefined;
* `Interval.differentiate_ofReal`: so is a whole interval.

An interval of `a + b` sub-steps is then one of `a` sub-steps followed by one of `b` sub-steps, in
its answer and in whether there is one (`Interval.differentiate_splits`).
-/
import MultipleShooting.Proofs.Interval.Composition
import MultipleShooting.Proofs.Linear.Partial

namespace MultipleShooting

open PartialReal

variable {nx nu : Nat}

/-! ### Numbers among those that may be undefined -/

namespace Propagated

/-- A state and a cost that are numbers. -/
def ofReal (reached : Propagated ℝ nx) : Propagated PartialReal nx :=
  ⟨Column.ofReal reached.state, number reached.cost⟩

end Propagated

namespace Tangents

/-- Derivatives of a vector that are numbers. -/
def ofReal (tangents : Tangents ℝ nx nu) : Tangents PartialReal nx nu :=
  ⟨Dense.ofReal tangents.byState, Dense.ofReal tangents.byControl⟩

theorem initial_ofReal : (initial : Tangents PartialReal nx nu) = initial.ofReal := by
  simp only [initial, ofReal, Dense.identity_ofReal, Dense.zero_ofReal]

theorem addScaled_ofReal (left right : Tangents ℝ nx nu) (factor : ℝ) :
    left.ofReal.addScaled (number factor) right.ofReal = (left.addScaled factor right).ofReal := by
  simp only [addScaled, ofReal, Dense.scale_ofReal, Dense.add_ofReal]

end Tangents

namespace Cotangents

/-- Derivatives of a number that are numbers. -/
def ofReal (cotangents : Cotangents ℝ nx nu) : Cotangents PartialReal nx nu :=
  ⟨Column.ofReal cotangents.byState, Column.ofReal cotangents.byControl⟩

theorem initial_ofReal : (initial : Cotangents PartialReal nx nu) = initial.ofReal := by
  simp only [initial, ofReal, Column.zero_ofReal]

theorem addScaled_ofReal (left right : Cotangents ℝ nx nu) (factor : ℝ) :
    left.ofReal.addScaled (number factor) right.ofReal = (left.addScaled factor right).ofReal := by
  simp only [addScaled, ofReal, Column.scale_ofReal, Column.add_ofReal]

end Cotangents

namespace Differentiated

/-- A state, a cost and derivatives that are numbers. -/
def ofReal (ended : Differentiated ℝ nx nu) : Differentiated PartialReal nx nu :=
  ⟨ended.reached.ofReal, ended.tangents.ofReal, ended.cotangents.ofReal⟩

theorem fresh_ofReal (state : Vector ℝ nx) :
    (fresh (Column.ofReal state) : Differentiated PartialReal nx nu) = (fresh state).ofReal :=
  congrArg₂ (Differentiated.mk _) Tangents.initial_ofReal Cotangents.initial_ofReal

theorem followedBy_ofReal (first second : Differentiated ℝ nx nu) :
    first.ofReal.followedBy second.ofReal = (first.followedBy second).ofReal := by
  simp only [followedBy, ofReal, Propagated.ofReal, Tangents.ofReal, Cotangents.ofReal,
    Dense.mul_ofReal, Dense.add_ofReal, Dense.applyTransposed_ofReal, Column.add_ofReal, number_add]

end Differentiated

/-- The functions of a model over the real numbers, with zero for what is undefined. -/
def Dynamics.toReal (dynamics : Dynamics PartialReal nx nu) : Dynamics ℝ nx nu where
  rate point := Column.toReal (dynamics.rate (Column.ofReal point))
  cost point := (dynamics.cost (Column.ofReal point)).toReal
  rateJacobian point := Dense.toReal (dynamics.rateJacobian (Column.ofReal point))
  costGradient point := Column.toReal (dynamics.costGradient (Column.ofReal point))

namespace Interval

/-- The interval over the real numbers. -/
def toReal (interval : Interval PartialReal nx nu) : Interval ℝ nx nu :=
  ⟨interval.dynamics.toReal, interval.duration.toReal, interval.substeps⟩

variable {interval : Interval PartialReal nx nu} {control : Vector ℝ nu}

/-! ### Stages -/

theorem stagePoint_ofReal (start : Vector ℝ nx) (fraction : ℝ) (slope : Propagated ℝ nx) :
    stagePoint (Column.ofReal start) (number fraction) slope.ofReal =
      Column.ofReal (stagePoint start fraction slope) := by
  simp only [stagePoint, Propagated.ofReal, Column.scale_ofReal, Column.add_ofReal]

/-- **A stage that succeeds** is that of the real numbers. -/
theorem chainedAt_ofReal {index stage : Nat} {state : Vector ℝ nx} {tangents : Tangents ℝ nx nu}
    {result : Differentiated PartialReal nx nu}
    (succeeded : interval.differentiatedSlope index stage (Column.ofReal state)
      (Column.ofReal control) tangents.ofReal = .ok result) :
    result = (interval.toReal.chainedAt state control tangents).ofReal := by
  obtain ⟨slopes, jacobian, gradient, rfl⟩ := differentiatedSlope_eq_ok.mp succeeded
  obtain ⟨rate, cost, -⟩ := slope_eq_ok.mp slopes
  rw [Column.append_ofReal] at rate cost jacobian gradient
  have slopesAt : interval.slopesAt (Column.ofReal state) (Column.ofReal control) =
      (interval.toReal.slopesAt state control).ofReal := by
    unfold Interval.slopesAt
    rw [Column.append_ofReal]
    exact congrArg₂ Propagated.mk (Column.ofReal_toReal rate).symm
      (PartialReal.isFinite_iff.mp cost).symm
  unfold chainedAt
  rw [slopesAt, Column.append_ofReal, ← Dense.ofReal_toReal jacobian,
    ← Column.ofReal_toReal gradient]
  simp only [Tangents.ofReal, Dense.firstColumns_ofReal, Dense.lastColumns_ofReal,
    Dense.mul_ofReal, Dense.add_ofReal, Column.first_ofReal, Column.last_ofReal,
    Dense.applyTransposed_ofReal, Column.add_ofReal]
  rfl

/-! ### Sub-steps -/

theorem combineDifferentiated_ofReal (step : ℝ) (start k1 k2 k3 k4 : Differentiated ℝ nx nu) :
    combineDifferentiated (number step) start.ofReal k1.ofReal k2.ofReal k3.ofReal k4.ofReal =
      (combineDifferentiated step start k1 k2 k3 k4).ofReal := by
  have six : number step / 6.0 = number (step / 6.0) := number_div step (by norm_num)
  have one : (1.0 : PartialReal) = number 1.0 := rfl
  have two : (2.0 : PartialReal) = number 2.0 := rfl
  simp only [combineDifferentiated, combine, weightedSum, Differentiated.ofReal, Propagated.ofReal,
    six, one, two, number_add, number_mul, Column.scale_ofReal, Column.add_ofReal,
    Tangents.addScaled_ofReal, Cotangents.addScaled_ofReal]

/-- **A sub-step that succeeds** is that of the real numbers. -/
theorem differentiatedSweep_ofReal (divided : interval.step = number interval.toReal.step)
    {index : Nat} {start : Differentiated ℝ nx nu} {next : Differentiated PartialReal nx nu}
    (succeeded : interval.differentiatedSubstep (Column.ofReal control) index start.ofReal =
      .ok next) :
    next = (interval.toReal.differentiatedSweep control start).ofReal := by
  have half : (0.5 : PartialReal) * interval.step = number (0.5 * interval.toReal.step) := by
    rw [divided]
    exact number_mul _ _
  have one : (1.0 : PartialReal) * interval.step = number (1.0 * interval.toReal.step) := by
    rw [divided]
    exact number_mul _ _
  -- The point of a stage and its tangents, made from the stage before it.
  have point (factor : ℝ) (k : Differentiated ℝ nx nu) :
      stagePoint start.ofReal.reached.state (number factor) k.ofReal.reached =
        Column.ofReal (stagePoint start.reached.state factor k.reached) :=
    stagePoint_ofReal start.reached.state factor k.reached
  have tangents (factor : ℝ) (k : Differentiated ℝ nx nu) :
      start.ofReal.tangents.addScaled (number factor) k.ofReal.tangents =
        (start.tangents.addScaled factor k.tangents).ofReal :=
    Tangents.addScaled_ofReal start.tangents k.tangents factor
  obtain ⟨k1, k2, k3, k4, first, second, third, fourth, rfl⟩ :=
    differentiatedSubstep_eq_ok.mp succeeded
  obtain rfl := chainedAt_ofReal first
  rw [half, point, tangents] at second
  obtain rfl := chainedAt_ofReal second
  rw [half, point, tangents] at third
  obtain rfl := chainedAt_ofReal third
  rw [one, point, tangents] at fourth
  obtain rfl := chainedAt_ofReal fourth
  rw [divided, combineDifferentiated_ofReal]
  rfl

theorem differentiatedAdvance_ofReal (divided : interval.step = number interval.toReal.step)
    {remaining index : Nat} {start : Differentiated ℝ nx nu}
    {last : Differentiated PartialReal nx nu}
    (succeeded : interval.differentiatedAdvance (Column.ofReal control) remaining index
      start.ofReal = .ok last) :
    last = ((interval.toReal.differentiatedSweep control)^[remaining] start).ofReal := by
  induction remaining generalizing index start with
  | zero => exact (Except.ok.inj succeeded).symm
  | succ remaining ih =>
    unfold differentiatedAdvance at succeeded
    split at succeeded
    · cases succeeded
    · next next stepped =>
      obtain rfl := differentiatedSweep_ofReal divided stepped
      exact ih succeeded

/-! ### Intervals -/

/-- **An interval that succeeds** ends as over the real numbers. -/
theorem differentiate_ofReal (divided : interval.step = number interval.toReal.step)
    {state : Vector ℝ nx} {last : Differentiated PartialReal nx nu}
    (succeeded : interval.differentiate (Column.ofReal state) (Column.ofReal control) = .ok last) :
    last = (interval.toReal.differentiatedEndOf state control).ofReal := by
  have begun : (⟨⟨Column.ofReal state, 0⟩, Tangents.initial, Cotangents.initial⟩ :
      Differentiated PartialReal nx nu) = (Differentiated.fresh state).ofReal :=
    Differentiated.fresh_ofReal state
  unfold differentiate at succeeded
  rw [begun] at succeeded
  exact differentiatedAdvance_ofReal divided succeeded

/-- An interval of sub-steps of a given length. -/
def ofSteps (dynamics : Dynamics PartialReal nx nu) (length : ℝ) (count : ℕ) :
    Interval PartialReal nx nu :=
  ⟨dynamics, number (count * length), count⟩

section OfSteps

variable {dynamics : Dynamics PartialReal nx nu} {length : ℝ} {count : ℕ}

theorem make_ofSteps (positive : 0 < length) (divided : 0 < count) :
    make dynamics (number (count * length)) count = .ok (ofSteps dynamics length count) := by
  have above : ¬ number (count * length) ≤ 0 :=
    not_le.mpr (mul_pos (Nat.cast_pos.mpr divided) positive)
  exact make_of_positive rfl above divided

theorem step_ofSteps (divided : 0 < count) :
    (ofSteps dynamics length count).step = number length ∧
      (ofSteps dynamics length count).toReal.step = length := by
  have nonzero : (count : ℝ) ≠ 0 := Nat.cast_ne_zero.mpr divided.ne'
  have step : (count * length) / (count : ℝ) = length := mul_div_cancel_left₀ length nonzero
  exact ⟨(number_div _ nonzero).trans (congrArg number step), step⟩

theorem stepsAlike_ofSteps (dynamics : Dynamics PartialReal nx nu) (length : ℝ) {a b : ℕ}
    (divided : 0 < a) (divided' : 0 < b) :
    (ofSteps dynamics length a).StepsAlike (ofSteps dynamics length b) ∧
      (ofSteps dynamics length a).toReal.StepsAlike (ofSteps dynamics length b).toReal := by
  obtain ⟨step, real⟩ : (ofSteps dynamics length a).step = _ ∧ _ := step_ofSteps divided
  obtain ⟨step', real'⟩ : (ofSteps dynamics length b).step = _ ∧ _ := step_ofSteps divided'
  exact ⟨⟨rfl, step.trans step'.symm⟩, ⟨rfl, real.trans real'.symm⟩⟩

/-- The whole makes the checks of both parts. -/
theorem isFaultless_ofSteps (dynamics : Dynamics PartialReal nx nu) (length : ℝ) {a b : ℕ}
    (dividedFirst : 0 < a) (dividedSecond : 0 < b) (functions : List ModelFunction)
    (start : Vector PartialReal nx) (control : Vector PartialReal nu) :
    (ofSteps dynamics length (a + b)).IsFaultless functions start control ↔
      (ofSteps dynamics length a).IsFaultless functions start control ∧
        (ofSteps dynamics length b).IsFaultless functions
          ((ofSteps dynamics length a).endOf start control).state control :=
  have both : 0 < a + b := Nat.add_pos_left dividedFirst b
  isFaultless_iff_parts (stepsAlike_ofSteps dynamics length both dividedFirst).1
    (stepsAlike_ofSteps dynamics length both dividedSecond).1 rfl functions

/-- An interval of sub-steps of a given length that succeeds. -/
theorem differentiate_ofSteps (divided : 0 < count) {state : Vector ℝ nx} {control : Vector ℝ nu}
    {last : Differentiated PartialReal nx nu}
    (succeeded : (ofSteps dynamics length count).differentiate (Column.ofReal state)
      (Column.ofReal control) = .ok last) :
    last = ((ofSteps dynamics length count).toReal.differentiatedEndOf state control).ofReal := by
  obtain ⟨step, real⟩ := step_ofSteps divided
  exact differentiate_ofReal (step.trans (congrArg number real.symm)) succeeded

/-- **Two parts that succeed make up the whole.** -/
theorem followedBy_eq {a b : ℕ} (dividedFirst : 0 < a) (dividedSecond : 0 < b)
    {state : Vector ℝ nx} {control : Vector ℝ nu}
    {left right result : Differentiated PartialReal nx nu}
    (first : (ofSteps dynamics length a).differentiate (Column.ofReal state)
      (Column.ofReal control) = .ok left)
    (second : (ofSteps dynamics length b).differentiate left.reached.state
      (Column.ofReal control) = .ok right)
    (whole : (ofSteps dynamics length (a + b)).differentiate (Column.ofReal state)
      (Column.ofReal control) = .ok result) : left.followedBy right = result := by
  have both : 0 < a + b := Nat.add_pos_left dividedFirst b
  have alike := (stepsAlike_ofSteps dynamics length both dividedFirst).2.differentiatedSweep
  have alike' := (stepsAlike_ofSteps dynamics length both dividedSecond).2.differentiatedSweep
  obtain rfl := differentiate_ofSteps dividedFirst first
  obtain rfl := differentiate_ofSteps dividedSecond second
  obtain rfl := differentiate_ofSteps both whole
  rw [Differentiated.followedBy_ofReal]
  refine congrArg Differentiated.ofReal ?_
  unfold differentiatedEndOf
  rw [← alike, ← alike']
  exact (iterate_followedBy _ control state a b).symm

end OfSteps

/-- **Splitting an interval composes.** Over real numbers that may be undefined, whatever the
functions of the model and their derivatives are, an interval of `a + b` sub-steps succeeds exactly
when one of `a` sub-steps of the same length does and one of `b` sub-steps does from its end. Its
answer is then the second run after the first: the end of the second, the sum of the costs, and the
derivatives of both by the chain rule. -/
theorem differentiate_splits (dynamics : Dynamics PartialReal nx nu) {length : ℝ}
    (positive : 0 < length) {a b : ℕ} (dividedFirst : 0 < a) (dividedSecond : 0 < b) :
    ∃ whole first second : Interval PartialReal nx nu,
      make dynamics (number ((a + b : ℕ) * length)) (a + b) = .ok whole ∧
      make dynamics (number (a * length)) a = .ok first ∧
      make dynamics (number (b * length)) b = .ok second ∧
      ∀ (state : Vector ℝ nx) (control : Vector ℝ nu) (result : Differentiated PartialReal nx nu),
        whole.differentiate (Column.ofReal state) (Column.ofReal control) = .ok result ↔
          ∃ left right,
            first.differentiate (Column.ofReal state) (Column.ofReal control) = .ok left ∧
            second.differentiate left.reached.state (Column.ofReal control) = .ok right ∧
            left.followedBy right = result := by
  refine ⟨ofSteps dynamics length (a + b), ofSteps dynamics length a, ofSteps dynamics length b,
    make_ofSteps positive (by omega), make_ofSteps positive dividedFirst,
    make_ofSteps positive dividedSecond, ?_⟩
  intro state control result
  have checks := isFaultless_ofSteps dynamics length dividedFirst dividedSecond derivativeFunctions
    (Column.ofReal state) (Column.ofReal control)
  constructor
  · intro succeeded
    obtain ⟨faultless, faultless'⟩ := checks.mp (differentiate_eq_ok.mp succeeded).1
    rw [← reached_differentiatedEndOf] at faultless'
    have first := differentiate_eq_ok.mpr ⟨faultless, rfl⟩
    have second := differentiate_eq_ok.mpr ⟨faultless', rfl⟩
    exact ⟨_, _, first, second, followedBy_eq dividedFirst dividedSecond first second succeeded⟩
  · rintro ⟨left, right, first, second, rfl⟩
    obtain ⟨faultless, same⟩ := differentiate_eq_ok.mp first
    have faultless' := (differentiate_eq_ok.mp second).1
    rw [same, reached_differentiatedEndOf] at faultless'
    have succeeded := differentiate_eq_ok.mpr ⟨checks.mpr ⟨faultless, faultless'⟩, rfl⟩
    rw [succeeded, followedBy_eq dividedFirst dividedSecond first second succeeded]

/-! ### A cost with a pole -/

namespace pole

/-- A state that moves as it is steered, with a cost that is undefined where the state is one. -/
noncomputable def dynamics : Dynamics PartialReal 1 1 where
  rate point := Column.last point
  cost point := 1 / (1 - (Column.first point).get (Fin.last 0))
  rateJacobian _ := Dense.zero 1 2
  costGradient _ := Column.zero 2

/-- One sub-step of length one. -/
noncomputable def unit : Interval PartialReal 1 1 := ofSteps dynamics 1 1

/-- The part of the sub-step that lies before a stage. -/
noncomputable def node : Fin 4 → ℝ := ![0, 1 / (1 + 1), 1 / (1 + 1), 1]

theorem isFinite_cost (value : ℝ) :
    Number.isFinite (1 / (1 - number value)) = true ↔ value ≠ 1 := by
  have difference : (1 : PartialReal) - number value = number (1 - value) := if_pos trivial
  rw [difference]
  by_cases pole : value = 1
  · have undefined : (1 : PartialReal) / number (1 - value) = .undefined :=
      if_neg fun divisor => divisor (sub_eq_zero.mpr pole.symm)
    rw [undefined]
    exact iff_of_false Bool.false_ne_true (absurd pole)
  · have defined : (1 : PartialReal) / number (1 - value) = number (1 / (1 - value)) :=
      number_div 1 (sub_ne_zero.mpr (Ne.symm pole))
    rw [defined]
    exact iff_of_true rfl pole

theorem step_unit : unit.step = number 1 := (step_ofSteps Nat.one_pos).1

theorem half_step : (0.5 : PartialReal) * number 1 = number (1 / (1 + 1)) :=
  (number_mul _ _).trans (congrArg number (by norm_num))

theorem whole_step : (1.0 : PartialReal) * number 1 = number 1 :=
  (number_mul _ _).trans (congrArg number (by norm_num))

theorem first_append (state control : ℝ) :
    (Column.first (Column.ofReal #v[state] ++ Column.ofReal #v[control])).get (Fin.last 0) =
      number state := by
  rw [Column.first_append]
  exact Column.get_ofReal _ _

theorem slopesAt_eq (state control : ℝ) :
    unit.slopesAt (Column.ofReal #v[state]) (Column.ofReal #v[control]) =
      ⟨Column.ofReal #v[control], 1 / (1 - number state)⟩ :=
  congrArg₂ Propagated.mk (Column.last_append _ _)
    (congrArg (fun value => 1 / (1 - value)) (first_append state control))

theorem stagePoint_eq (start fraction control : ℝ) (cost : PartialReal) :
    stagePoint (Column.ofReal #v[start]) (number fraction) ⟨Column.ofReal #v[control], cost⟩ =
      Column.ofReal #v[start + fraction * control] := by
  simp only [stagePoint, Column.scale_ofReal, Column.add_ofReal]
  refine congrArg Column.ofReal (ext_get fun i => ?_)
  rw [Fin.fin_one_eq_zero i, Column.get_add, Column.get_scale]
  rfl

theorem stateAt_eq (start control : ℝ) (stage : Fin 4) :
    unit.stateAt (Column.ofReal #v[start]) (Column.ofReal #v[control]) 0 stage =
      Column.ofReal #v[start + node stage * control] := by
  simp only [stateAt, stageState, Function.iterate_zero, id, step_unit, half_step, whole_step,
    slopesAt_eq, stagePoint_eq]
  fin_cases stage
  · simp [node]
  · rfl
  · rfl
  · rfl

/-- The state moves by the control. -/
theorem state_endOf (start control : ℝ) :
    (unit.endOf (Column.ofReal #v[start]) (Column.ofReal #v[control])).state =
      Column.ofReal #v[start + control] := by
  have weight : number 1 / 6.0 = number (1 / 6) :=
    (number_div 1 (by norm_num)).trans (congrArg number (by norm_num))
  have two : (2.0 : PartialReal) = number 2 := congrArg number (by norm_num)
  show (unit.sweep (Column.ofReal #v[control]) ⟨Column.ofReal #v[start], 0⟩).state = _
  simp only [sweep, step_unit, half_step, whole_step, slopesAt_eq, stagePoint_eq, combine, weight,
    two, Column.scale_ofReal, Column.add_ofReal]
  refine congrArg Column.ofReal (ext_get fun i => ?_)
  rw [Fin.fin_one_eq_zero i]
  simp only [Column.get_add, Column.get_scale]
  show start + 1 / 6 * (control + 2 * control + 2 * control + control) = start + control
  ring

/-- The run succeeds when no stage meets the pole. -/
theorem isFaultless_iff (start control : ℝ) :
    unit.IsFaultless derivativeFunctions (Column.ofReal #v[start]) (Column.ofReal #v[control]) ↔
      ∀ stage, start + node stage * control ≠ 1 := by
  have cost (stage : Fin 4) : unit.valuesOf (Column.ofReal #v[start]) (Column.ofReal #v[control])
      ⟨0, stage, .cost⟩ = [1 / (1 - number (start + node stage * control))] := by
    rw [valuesOf, stateAt_eq]
    exact congrArg (fun value => [1 / (1 - value)]) (first_append _ _)
  have listed : ModelFunction.cost ∈ derivativeFunctions := by decide
  constructor
  · intro faultless stage
    refine (isFinite_cost _).mp (faultless ⟨0, stage, .cost⟩ Nat.one_pos listed _ ?_)
    rw [cost]
    exact List.mem_singleton_self _
  · rintro apart ⟨substep, stage, function⟩ first -
    obtain rfl : substep = 0 := Nat.lt_one_iff.mp first
    cases function with
    | dynamics =>
      refine List.all_eq_true.mp ((Column.isFinite_eq_all _).symm.trans ?_)
      rw [stateAt_eq]
      exact (congrArg Column.isFinite (Column.last_append _ _)).trans (Column.isFinite_ofReal _)
    | cost =>
      rw [cost]
      exact List.forall_mem_singleton.mpr ((isFinite_cost _).mpr (apart stage))
    | dynamicsJacobian =>
      refine List.all_eq_true.mp ((Dense.isFinite_eq_all _).symm.trans ?_)
      exact (congrArg Dense.isFinite Dense.zero_ofReal).trans (Dense.isFinite_ofReal _)
    | costGradient =>
      refine List.all_eq_true.mp ((Column.isFinite_eq_all _).symm.trans ?_)
      exact (congrArg Column.isFinite Column.zero_ofReal).trans (Column.isFinite_ofReal _)
    | initial => exact fun value among => by cases among
    | initialJacobian => exact fun value among => by cases among

end pole

/-- From minus one at rest both parts succeed, and so does the whole. Steered at speed one, the
first part ends at zero and the second meets the pole at its last stage: the whole fails. -/
theorem differentiate_splits_pole : 0 < (1 : ℝ) ∧ 0 < 1 ∧
    ∃ whole first second : Interval PartialReal 1 1,
      make pole.dynamics (number ((1 + 1 : ℕ) * 1)) (1 + 1) = .ok whole ∧
      make pole.dynamics (number ((1 : ℕ) * 1)) 1 = .ok first ∧
      make pole.dynamics (number ((1 : ℕ) * 1)) 1 = .ok second ∧
      (∃ left right,
        first.differentiate (Column.ofReal #v[-1]) (Column.ofReal #v[0]) = .ok left ∧
        second.differentiate left.reached.state (Column.ofReal #v[0]) = .ok right ∧
        whole.differentiate (Column.ofReal #v[-1]) (Column.ofReal #v[0]) =
          .ok (left.followedBy right)) ∧
      (∃ left, first.differentiate (Column.ofReal #v[-1]) (Column.ofReal #v[1]) = .ok left) ∧
      ∀ result, whole.differentiate (Column.ofReal #v[-1]) (Column.ofReal #v[1]) ≠ .ok result := by
  obtain ⟨whole, first, second, made, madeFirst, madeSecond, splits⟩ :=
    differentiate_splits pole.dynamics one_pos Nat.one_pos Nat.one_pos
  have unit : make pole.dynamics (number ((1 : ℕ) * 1)) 1 = .ok pole.unit :=
    make_ofSteps one_pos Nat.one_pos
  obtain rfl : pole.unit = first := Except.ok.inj (unit.symm.trans madeFirst)
  obtain rfl : pole.unit = second := Except.ok.inj (unit.symm.trans madeSecond)
  refine ⟨one_pos, Nat.one_pos, whole, _, _, made, unit, unit, ?_, ?_, ?_⟩
  · have still : pole.unit.IsFaultless derivativeFunctions (Column.ofReal #v[-1])
        (Column.ofReal #v[0]) := (pole.isFaultless_iff _ _).mpr fun stage => by norm_num
    have first := differentiate_eq_ok.mpr ⟨still, rfl⟩
    have ends : (pole.unit.differentiatedEndOf (Column.ofReal #v[-1])
        (Column.ofReal #v[0])).reached.state = Column.ofReal #v[-1] := by
      rw [reached_differentiatedEndOf, pole.state_endOf, add_zero]
    rw [← ends] at still
    have second := differentiate_eq_ok.mpr ⟨still, rfl⟩
    exact ⟨_, _, first, second, (splits _ _ _).mpr ⟨_, _, first, second, rfl⟩⟩
  · refine ⟨_, differentiate_eq_ok.mpr ⟨(pole.isFaultless_iff _ _).mpr fun stage => ?_, rfl⟩⟩
    fin_cases stage <;> norm_num [pole.node]
  · intro result succeeded
    obtain ⟨left, right, first, second, -⟩ := (splits _ _ _).mp succeeded
    have moved := (differentiate_eq_ok.mp second).1
    rw [(differentiate_eq_ok.mp first).2, reached_differentiatedEndOf, pole.state_endOf,
      neg_add_cancel] at moved
    have last : (0 : ℝ) + pole.node 3 * 1 = 1 := by
      show (0 : ℝ) + 1 * 1 = 1
      norm_num
    exact (pole.isFaultless_iff _ _).mp moved 3 last

end Interval

end MultipleShooting
