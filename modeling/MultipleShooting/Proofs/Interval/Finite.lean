/-
**What an interval lets through of infinities and NaNs.**

Over doubles, the values of the model functions are checked at every stage, and the updates that are
made of them are not: a weighted sum of ordinary slopes can be infinite.

* `Propagated.IsFinite`, `Differentiated.IsFinite`: everything reached is an ordinary number;
* `isFinite_iterate_iff`: where a step cannot repair what is infinite or undefined, the end of an
  iteration is ordinary exactly when no step of it overflows (`Overflows`);
* `Interval.isFinite_of_sweep`, `Interval.isFinite_of_differentiatedSweep`: a sub-step repairs
  nothing, since no infinity and no NaN is lost in a sum;
* `Interval.propagate_differentiate_delivers`: **an interval that succeeds has checked every value
  of the model functions, and its end is made of ordinary numbers exactly when no sub-step
  overflows**; one that fails names the first value that is none;
* `steady.ends_infinite`: a model whose interval succeeds with an infinite end.
-/
import MultipleShooting.Proofs.Interval.Checks
import MultipleShooting.Proofs.Linear.Double
import MultipleShooting.Proofs.Number.Order

namespace MultipleShooting

/-! ### Ordinary states -/

section Ordinary

variable {nx nu : Nat}

/-- State and cost are ordinary numbers. -/
structure Propagated.IsFinite (reached : Propagated Float nx) : Prop where
  state : Column.isFinite reached.state = true
  cost : Number.isFinite reached.cost = true

/-- The derivatives of a state are ordinary numbers. -/
structure Tangents.IsFinite (tangents : Tangents Float nx nu) : Prop where
  byState : Dense.isFinite tangents.byState = true
  byControl : Dense.isFinite tangents.byControl = true

/-- The derivatives of a cost are ordinary numbers. -/
structure Cotangents.IsFinite (cotangents : Cotangents Float nx nu) : Prop where
  byState : Column.isFinite cotangents.byState = true
  byControl : Column.isFinite cotangents.byControl = true

/-- State and cost are ordinary numbers, and so are the derivatives of both. -/
structure Differentiated.IsFinite (ended : Differentiated Float nx nu) : Prop where
  reached : ended.reached.IsFinite
  tangents : ended.tangents.IsFinite
  cotangents : ended.cotangents.IsFinite

/-- What is added to derivatives repairs none of them. -/
theorem Tangents.IsFinite.of_addScaled {left right : Tangents Float nx nu} {factor : Float}
    (finite : (left.addScaled factor right).IsFinite) : left.IsFinite :=
  ⟨(Dense.isFinite_of_add finite.byState).1, (Dense.isFinite_of_add finite.byControl).1⟩

theorem Cotangents.IsFinite.of_addScaled {left right : Cotangents Float nx nu} {factor : Float}
    (finite : (left.addScaled factor right).IsFinite) : left.IsFinite :=
  ⟨(Column.isFinite_of_add finite.byState).1, (Column.isFinite_of_add finite.byControl).1⟩

theorem Tangents.isFinite_initial : (initial : Tangents Float nx nu).IsFinite :=
  ⟨Dense.isFinite_identity nx, Dense.isFinite_zero nx nu⟩

theorem Cotangents.isFinite_initial : (initial : Cotangents Float nx nu).IsFinite :=
  ⟨Column.isFinite_zero nx, Column.isFinite_zero nu⟩

end Ordinary

/-! ### Overflows -/

section Overflows

variable {σ : Type} {isFinite : σ → Prop} {step : σ → σ} {first : σ}

/-- A step overflows where it leads from ordinary numbers to what is infinite or undefined. -/
def Overflows (isFinite : σ → Prop) (step : σ → σ) (before : σ) : Prop :=
  isFinite before ∧ ¬ isFinite (step before)

/-- **If no step repairs anything**, the end of an iteration that begins with ordinary numbers has
them exactly when none of its steps overflows. -/
theorem isFinite_iterate_iff (repairsNothing : ∀ before, isFinite (step before) → isFinite before)
    (begun : isFinite first) (count : Nat) :
    isFinite (step^[count] first) ↔
      ∀ index < count, ¬ Overflows isFinite step (step^[index] first) := by
  induction count with
  | zero => exact iff_of_true begun fun _ below => absurd below (Nat.not_lt_zero _)
  | succ count ih =>
    rw [Nat.forall_lt_succ_right, ← ih, Function.iterate_succ_apply']
    constructor
    · intro finite
      exact ⟨repairsNothing _ finite, fun overflows => overflows.2 finite⟩
    · rintro ⟨before, stays⟩
      by_contra infinite
      exact stays ⟨before, infinite⟩

end Overflows

namespace Interval

variable {nx nu : Nat} {interval : Interval Float nx nu} {start : Vector Float nx}
  {control : Vector Float nu}

/-! ### Sub-steps -/

theorem isFinite_of_combine {step : Float} {start k1 k2 k3 k4 : Propagated Float nx}
    (finite : (combine step start k1 k2 k3 k4).IsFinite) : start.IsFinite :=
  ⟨(Column.isFinite_of_add finite.state).1, (Double.isFinite_of_add finite.cost).1⟩

/-- A sub-step repairs nothing. -/
theorem isFinite_of_sweep (before : Propagated Float nx)
    (finite : (interval.sweep control before).IsFinite) : before.IsFinite :=
  isFinite_of_combine finite

/-- A sub-step with derivatives repairs nothing. -/
theorem isFinite_of_differentiatedSweep (before : Differentiated Float nx nu)
    (finite : (interval.differentiatedSweep control before).IsFinite) : before.IsFinite where
  reached := isFinite_of_combine finite.reached
  tangents := finite.tangents.of_addScaled.of_addScaled.of_addScaled.of_addScaled
  cotangents := finite.cotangents.of_addScaled.of_addScaled.of_addScaled.of_addScaled

/-! ### Intervals -/

/-- What a propagation over doubles delivers. An answer comes after checks of all values of the
functions, and it is made of ordinary numbers exactly when no sub-step overflows; a failure is that
of the first value that is no ordinary number. -/
def Delivers {σ : Type} (interval : Interval Float nx nu) (functions : List ModelFunction)
    (start : Vector Float nx) (control : Vector Float nu) (isFinite : σ → Prop) (step : σ → σ)
    (first : σ) : Outcome Float σ → Prop
  | .ok last => interval.IsFaultless functions start control ∧
      (isFinite last ↔
        ∀ index < interval.substeps, ¬ Overflows isFinite step (step^[index] first))
  | .error failure => ∃ check, interval.IsFirstFault functions start control check ∧
      failure = interval.failureOf start control check

/-- **What an interval lets through.** From an ordinary start state both propagations report every
value of a model function that is no ordinary number, and nothing else: what they answer is made of
ordinary numbers unless a sub-step overflows, and then it is not. -/
theorem propagate_differentiate_delivers (interval : Interval Float nx nu)
    (control : Vector Float nu) (ordinary : Column.isFinite start = true) :
    interval.Delivers valueFunctions start control Propagated.IsFinite (interval.sweep control)
        ⟨start, 0⟩ (interval.propagate start control) ∧
      interval.Delivers derivativeFunctions start control Differentiated.IsFinite
        (interval.differentiatedSweep control)
        ⟨⟨start, 0⟩, Tangents.initial, Cotangents.initial⟩
        (interval.differentiate start control) := by
  have begun : (⟨start, 0⟩ : Propagated Float nx).IsFinite := ⟨ordinary, Double.isFinite_zero⟩
  constructor
  · cases propagated : interval.propagate start control with
    | error failure => exact propagate_eq_error propagated
    | ok last =>
      obtain ⟨faultless, rfl⟩ := propagate_eq_ok.mp propagated
      exact ⟨faultless, isFinite_iterate_iff isFinite_of_sweep begun _⟩
  · cases differentiated : interval.differentiate start control with
    | error failure => exact differentiate_eq_error differentiated
    | ok last =>
      obtain ⟨faultless, rfl⟩ := differentiate_eq_ok.mp differentiated
      exact ⟨faultless, isFinite_iterate_iff isFinite_of_differentiatedSweep
        ⟨begun, Tangents.isFinite_initial, Cotangents.isFinite_initial⟩ _⟩

/-! ### A state that moves at a steady rate -/

namespace steady

/-- A state that moves at a rate and costs nothing. -/
def dynamics (rate : Float) : Dynamics Float 1 0 where
  rate _ := Vector.replicate 1 rate
  cost _ := 0
  rateJacobian _ := Dense.zero 1 1
  costGradient _ := Column.zero 1

/-- An interval of such a state. -/
def lasting (rate duration : Float) (substeps : Nat) : Interval Float 1 0 :=
  ⟨dynamics rate, duration, substeps⟩

/-- No check finds a fault if the rate is an ordinary number. -/
theorem isFaultless {rate : Float} (ordinary : Number.isFinite rate = true) (duration : Float)
    (substeps : Nat) (start : Vector Float 1) :
    (lasting rate duration substeps).IsFaultless derivativeFunctions start #v[] := by
  rintro ⟨substep, stage, function⟩ _ _
  cases function with
  | dynamics => simpa [valuesOf, Dynamics.components, lasting, dynamics] using ordinary
  | cost => simpa [valuesOf, Dynamics.components, lasting, dynamics] using Double.isFinite_zero
  | dynamicsJacobian =>
    exact List.all_eq_true.mp ((Dense.isFinite_eq_all _).symm.trans (Dense.isFinite_zero 1 1))
  | costGradient =>
    exact List.all_eq_true.mp ((Column.isFinite_eq_all _).symm.trans (Column.isFinite_zero 1))
  | initial => exact fun value among => by cases among
  | initialJacobian => exact fun value among => by cases among

/-- Both propagations answer if the rate is an ordinary number. -/
theorem succeeds {rate : Float} (ordinary : Number.isFinite rate = true) (duration : Float)
    (substeps : Nat) (start : Vector Float 1) :
    (lasting rate duration substeps).propagate start #v[] =
        .ok ((lasting rate duration substeps).endOf start #v[]) ∧
      (lasting rate duration substeps).differentiate start #v[] =
        .ok ((lasting rate duration substeps).differentiatedEndOf start #v[]) := by
  have differentiated := differentiate_eq_ok.mpr
    ⟨isFaultless ordinary duration substeps start, rfl⟩
  exact ⟨(propagate_of_differentiate differentiated).trans
    (congrArg Except.ok reached_differentiatedEndOf), differentiated⟩

/-- **An interval that succeeds with an infinite end**: the rate is an ordinary number at every
stage, and its weighted sum is none. -/
theorem ends_infinite : ∃ interval, make (dynamics 1e308) 1 1 = .ok interval ∧
    Column.isFinite (Column.zero 1 : Vector Float 1) = true ∧
    (∃ last, interval.propagate (Column.zero 1) #v[] = .ok last ∧ ¬ last.IsFinite) ∧
    ∃ last, interval.differentiate (Column.zero 1) #v[] = .ok last ∧ ¬ last.IsFinite := by
  have ordinary : Number.isFinite (1e308 : Float) = true := by decide +kernel
  obtain ⟨propagated, differentiated⟩ := succeeds ordinary 1 1 (Column.zero 1)
  have infinite : ¬ ((lasting 1e308 1 1).endOf (Column.zero 1) #v[]).IsFinite := by
    intro finite
    have sum : Column.isFinite ((lasting 1e308 1 1).endOf (Column.zero 1) #v[]).state = false := by
      decide +kernel
    exact Bool.false_ne_true (sum.symm.trans finite.state)
  refine ⟨lasting 1e308 1 1, make_of_positive rfl (by decide) Nat.one_pos, Column.isFinite_zero 1,
    ⟨_, propagated, infinite⟩, _, differentiated, ?_⟩
  intro finite
  have reached := finite.reached
  rw [reached_differentiatedEndOf] at reached
  exact infinite reached

/-- Three sub-steps of length one at the rate `2e307`. -/
def climb : Interval Float 1 0 := lasting 2e307 3 3

/-- From `1.4e308` the first sub-step stays among the doubles and the second one leaves them. -/
theorem overflows_climb : Overflows Differentiated.IsFinite (climb.differentiatedSweep #v[])
    ((climb.differentiatedSweep #v[])^[1]
      ⟨⟨#v[1.4e308], 0⟩, Tangents.initial, Cotangents.initial⟩) := by
  constructor
  · refine ⟨⟨?_, ?_⟩, ⟨?_, ?_⟩, ?_, ?_⟩ <;> decide +kernel
  · intro finite
    have state := finite.reached.state
    revert state
    decide +kernel

end steady

/-- From zero no sub-step of the climb overflows. From `1.4e308` the second of the three does, which
the third one does not repair. -/
theorem propagate_differentiate_delivers_climb :
    (∃ last, steady.climb.propagate (Column.zero 1) #v[] = .ok last ∧ last.IsFinite ∧
      ∀ index < 3, ¬ Overflows Propagated.IsFinite (steady.climb.sweep #v[])
        ((steady.climb.sweep #v[])^[index] ⟨Column.zero 1, 0⟩)) ∧
    ∃ last, steady.climb.differentiate #v[1.4e308] #v[] = .ok last ∧
      Overflows Differentiated.IsFinite (steady.climb.differentiatedSweep #v[])
        ((steady.climb.differentiatedSweep #v[])^[1]
          ⟨⟨#v[1.4e308], 0⟩, Tangents.initial, Cotangents.initial⟩) ∧
      ¬ last.IsFinite := by
  have ordinary : Number.isFinite (2e307 : Float) = true := by decide +kernel
  constructor
  · have succeeded := (steady.succeeds ordinary 3 3 (Column.zero 1)).1
    obtain ⟨delivered, -⟩ :=
      propagate_differentiate_delivers steady.climb #v[] (Column.isFinite_zero 1)
    change steady.climb.propagate _ _ = _ at succeeded
    rw [succeeded] at delivered
    have finite : (steady.climb.endOf (Column.zero 1) #v[]).IsFinite :=
      ⟨by decide +kernel, by decide +kernel⟩
    exact ⟨_, succeeded, finite, delivered.2.mp finite⟩
  · have succeeded := (steady.succeeds ordinary 3 3 #v[1.4e308]).2
    have begun : Column.isFinite (#v[1.4e308] : Vector Float 1) = true := by decide +kernel
    obtain ⟨-, delivered⟩ := propagate_differentiate_delivers steady.climb #v[] begun
    change steady.climb.differentiate _ _ = _ at succeeded
    rw [succeeded] at delivered
    exact ⟨_, succeeded, steady.overflows_climb, fun finite =>
      delivered.2.mp finite 1 Nat.one_lt_ofNat steady.overflows_climb⟩

end Interval

end MultipleShooting
