/-
**What a transcription consists of.**

In any arithmetic, a transcription that succeeds is that of the given functions
(`transcribeWith_eq_ok`), which may be the model's own ones (`transcribe_eq_transcribeWith`,
`transcribe_eq_ok`): its shooting problem is `Shooting.ofHorizon`, the bounds of its nonlinear
program repeat those of the model at every node and interval and do not cross, and all its row
bounds are zero. Every consistent model is transcribed over a valid horizon whose intervals have an
ordinary positive duration (`transcribeWith_of_isConsistent`), as they have over the real numbers
(`transcribeWith_real`).
-/
import MultipleShooting.Proofs.Interval.Exact
import MultipleShooting.Proofs.Model.Validation
import MultipleShooting.Proofs.Nlp
import MultipleShooting.Proofs.Shooting.Places

namespace MultipleShooting

/-- A horizon has no more links than intervals. -/
theorem Horizon.linkCount_le {α : Type} (horizon : Horizon α) :
    linkCount horizon.intervals horizon.terminalLink ≤ horizon.intervals :=
  MultipleShooting.linkCount_le _ _

variable {α : Type} [Number α]

/-- The shooting problem of model functions over a horizon. -/
def Shooting.ofHorizon (horizon : Horizon α) {nx nu : Nat} (dynamics : Dynamics α nx nu)
    (initial : InitialCondition α nx) : Shooting α ⟨nx, nu, horizon.intervals⟩ where
  interval := ⟨dynamics, horizon.intervalDuration, horizon.substeps⟩
  initial := initial
  links := linkCount horizon.intervals horizon.terminalLink
  links_le := horizon.linkCount_le

theorem Interval.eq_of_make {nx nu : Nat} {dynamics : Dynamics α nx nu} {duration : α}
    {substeps : Nat} {interval : Interval α nx nu}
    (made : Interval.make dynamics duration substeps = .ok interval) :
    interval = ⟨dynamics, duration, substeps⟩ := by
  unfold Interval.make at made
  split_ifs at made
  cases made
  rfl

omit [Number α] in
theorem filled_eq_ok {β : Type} {layout : Layout} {states controls values : List β} :
    (transcribeWith.filled layout states controls : Outcome α (List β)) = .ok values ↔
      ∃ stateValues controlValues, stateValues.toList = states ∧
        controlValues.toList = controls ∧
        values = (layout.fill stateValues controlValues).toList := by
  simp only [transcribeWith.filled, bind_eq_ok, expectVector_eq_ok]
  constructor
  · rintro ⟨stateValues, sameStates, controlValues, sameControls, same⟩
    cases same
    exact ⟨stateValues, controlValues, sameStates, sameControls, rfl⟩
  · rintro ⟨stateValues, controlValues, sameStates, sameControls, rfl⟩
    exact ⟨stateValues, sameStates, controlValues, sameControls, rfl⟩

/-- The nonlinear program of a shooting problem has the model's bounds and guess everywhere. -/
structure Nlp.IsOf (model : Model α) {layout : Layout} (shooting : Shooting α layout)
    (pattern : Pattern shooting.rows.count layout.size)
    (nlp : Nlp α layout.size shooting.rows.count) : Prop where
  functions : nlp.functions = shooting.functions pattern
  lower : ∃ states controls, states.toList = model.stateLower ∧
    controls.toList = model.controlLower ∧ nlp.lower = layout.fill states controls
  upper : ∃ states controls, states.toList = model.stateUpper ∧
    controls.toList = model.controlUpper ∧ nlp.upper = layout.fill states controls
  start : ∃ states controls, states.toList = model.stateGuess ∧
    controls.toList = model.controlGuess ∧ nlp.start = layout.fill states controls
  rowLower : nlp.rowLower = Column.zero _
  rowUpper : nlp.rowUpper = Column.zero _
  apart : Nlp.boundsCross nlp.lower nlp.upper nlp.rowLower nlp.rowUpper = false

/-- **What it takes for given model functions to be transcribed**, and what the transcription then
is. -/
theorem transcribeWith_eq_ok {horizon : Horizon α} {model : Model α} {nx nu : Nat}
    {dynamics : Dynamics α nx nu} {initial : InitialCondition α nx}
    {transcription : Transcription α} :
    transcribeWith horizon model dynamics initial = .ok transcription ↔
      model.validate = .ok () ∧ horizon.validate = .ok () ∧ model.stateCount = nx ∧
        model.controlCount = nu ∧ ∃ pattern nlp,
        Interval.make dynamics horizon.intervalDuration horizon.substeps =
          .ok (Shooting.ofHorizon horizon dynamics initial).interval ∧
        Pattern.ofPlaces? _ _ (Shooting.ofHorizon horizon dynamics initial).places =
          some pattern ∧
        Nlp.IsOf model (Shooting.ofHorizon horizon dynamics initial) pattern nlp ∧
        transcription = ⟨⟨nx, nu, horizon.intervals⟩, Shooting.ofHorizon horizon dynamics initial,
          nlp, horizon.intervalDuration⟩ := by
  simp only [transcribeWith, bind_eq_ok, dite_true]
  constructor
  · rintro ⟨_, validModel, _, validHorizon, _, sameStates, _, sameControls, interval, madeInterval,
      lower, lowerFilled, upper, upperFilled, start, startFilled, built⟩
    cases Interval.eq_of_make madeInterval
    split at built
    · cases built
    · next pattern patterned =>
      obtain ⟨nlp, made, built⟩ := bind_eq_ok.mp built
      cases built
      obtain ⟨stateLower, controlLower, sameStateLower, sameControlLower, rfl⟩ :=
        filled_eq_ok.mp lowerFilled
      obtain ⟨stateUpper, controlUpper, sameStateUpper, sameControlUpper, rfl⟩ :=
        filled_eq_ok.mp upperFilled
      obtain ⟨stateGuess, controlGuess, sameStateGuess, sameControlGuess, rfl⟩ :=
        filled_eq_ok.mp startFilled
      obtain ⟨sameFunctions, sameLower, sameUpper, sameStart, sameRowLower, sameRowUpper, apart⟩ :=
        Nlp.make_eq_ok.mp made
      refine ⟨validModel, validHorizon, checkLength_eq_ok.mp sameStates,
        checkLength_eq_ok.mp sameControls, pattern, nlp, madeInterval, patterned,
        ⟨sameFunctions, ?_, ?_, ?_, ?_, ?_, apart⟩, rfl⟩
      · exact ⟨_, _, sameStateLower, sameControlLower, Vector.toList_inj.mp sameLower⟩
      · exact ⟨_, _, sameStateUpper, sameControlUpper, Vector.toList_inj.mp sameUpper⟩
      · exact ⟨_, _, sameStateGuess, sameControlGuess, Vector.toList_inj.mp sameStart⟩
      · exact Vector.toList_inj.mp (sameRowLower.trans Vector.toList_replicate.symm)
      · exact Vector.toList_inj.mp (sameRowUpper.trans Vector.toList_replicate.symm)
  · rintro ⟨validModel, validHorizon, sameStates, sameControls, pattern, nlp, madeInterval,
      patterned, isOf, rfl⟩
    obtain ⟨stateLower, controlLower, sameStateLower, sameControlLower, sameLower⟩ := isOf.lower
    obtain ⟨stateUpper, controlUpper, sameStateUpper, sameControlUpper, sameUpper⟩ := isOf.upper
    obtain ⟨stateGuess, controlGuess, sameStateGuess, sameControlGuess, sameStart⟩ := isOf.start
    refine ⟨(), validModel, (), validHorizon, (), checkLength_eq_ok.mpr sameStates,
      (), checkLength_eq_ok.mpr sameControls, _, madeInterval,
      _, filled_eq_ok.mpr ⟨_, _, sameStateLower, sameControlLower, rfl⟩,
      _, filled_eq_ok.mpr ⟨_, _, sameStateUpper, sameControlUpper, rfl⟩,
      _, filled_eq_ok.mpr ⟨_, _, sameStateGuess, sameControlGuess, rfl⟩, ?_⟩
    have made := Nlp.make_eq_ok.mpr ⟨isOf.functions, congrArg Vector.toList sameLower,
      congrArg Vector.toList sameUpper, congrArg Vector.toList sameStart,
      (congrArg Vector.toList isOf.rowLower).trans Vector.toList_replicate,
      (congrArg Vector.toList isOf.rowUpper).trans Vector.toList_replicate, isOf.apart⟩
    split
    · next unpatterned =>
      have same := patterned.symm.trans unpatterned
      cases same
    · next found patternedHere =>
      cases patterned.symm.trans patternedHere
      exact bind_eq_ok.mpr ⟨nlp, made, rfl⟩

/-- An initial condition in another number of states is not transcribed. -/
theorem states_eq_of_transcribeWith {horizon : Horizon α} {model : Model α} {nx nu nx' : Nat}
    {dynamics : Dynamics α nx nu} {initial : InitialCondition α nx'}
    {transcription : Transcription α}
    (transcribed : transcribeWith horizon model dynamics initial = .ok transcription) :
    nx' = nx := by
  simp only [transcribeWith, bind_eq_ok] at transcribed
  obtain ⟨_, -, _, -, _, -, _, -, built⟩ := transcribed
  split_ifs at built with same
  exact same

/-- A model is transcribed with its own functions. -/
theorem transcribe_eq_transcribeWith {horizon : Horizon α} {model : Model α}
    {transcription : Transcription α} :
    transcribe horizon model = .ok transcription ↔ ∃ dynamics initial,
      Dynamics.ofModel model = .ok dynamics ∧ InitialCondition.ofModel model = .ok initial ∧
        transcribeWith horizon model dynamics initial = .ok transcription := by
  simp only [transcribe, bind_eq_ok]
  constructor
  · rintro ⟨_, -, _, -, dynamics, compiled, initial, compiledInitial, transcribed⟩
    exact ⟨dynamics, initial, compiled, compiledInitial, transcribed⟩
  · rintro ⟨dynamics, initial, compiled, compiledInitial, transcribed⟩
    obtain ⟨validModel, validHorizon, -⟩ := transcribeWith_eq_ok.mp transcribed
    exact ⟨(), validModel, (), validHorizon, dynamics, compiled, initial, compiledInitial,
      transcribed⟩

/-- **What it takes for a transcription to succeed**, and what it then is. -/
theorem transcribe_eq_ok {horizon : Horizon α} {model : Model α}
    {transcription : Transcription α} :
    transcribe horizon model = .ok transcription ↔
      model.validate = .ok () ∧ horizon.validate = .ok () ∧ ∃ dynamics initial pattern nlp,
        Dynamics.ofModel model = .ok dynamics ∧ InitialCondition.ofModel model = .ok initial ∧
        Interval.make dynamics horizon.intervalDuration horizon.substeps =
          .ok (Shooting.ofHorizon horizon dynamics initial).interval ∧
        Pattern.ofPlaces? _ _ (Shooting.ofHorizon horizon dynamics initial).places =
          some pattern ∧
        Nlp.IsOf model (Shooting.ofHorizon horizon dynamics initial) pattern nlp ∧
        transcription = ⟨⟨model.stateCount, model.controlCount, horizon.intervals⟩,
          Shooting.ofHorizon horizon dynamics initial, nlp, horizon.intervalDuration⟩ := by
  simp only [transcribe_eq_transcribeWith, transcribeWith_eq_ok]
  constructor
  · rintro ⟨dynamics, initial, compiled, compiledInitial, validModel, validHorizon, -, -, pattern,
      nlp, built⟩
    exact ⟨validModel, validHorizon, dynamics, initial, pattern, nlp, compiled, compiledInitial,
      built⟩
  · rintro ⟨validModel, validHorizon, dynamics, initial, pattern, nlp, compiled, compiledInitial,
      built⟩
    exact ⟨dynamics, initial, compiled, compiledInitial, validModel, validHorizon, trivial,
      trivial, pattern, nlp, built⟩

/-- Bounds that do not cross do not cross where they are repeated. -/
theorem Layout.not_crossed_fill (layout : Layout)
    {stateLower stateUpper : Vector (Bound α) layout.nx}
    {controlLower controlUpper : Vector (Bound α) layout.nu}
    (states : ∀ i, (stateLower.get i).crossed (stateUpper.get i) = false)
    (controls : ∀ i, (controlLower.get i).crossed (controlUpper.get i) = false)
    (place : Fin layout.size) :
    ((layout.fill stateLower controlLower).get place).crossed
      ((layout.fill stateUpper controlUpper).get place) = false := by
  obtain ⟨node, i, rfl⟩ | ⟨interval, i, rfl⟩ := layout.place_cases place
  · rw [get_fill_statePlace, get_fill_statePlace]
    exact states i
  · rw [get_fill_controlPlace, get_fill_controlPlace]
    exact controls i

/-! ### Consistent problems -/

/-- **A valid horizon** has an ordinary positive final time, an interval and a sub-step. -/
theorem Horizon.validate_eq_ok {horizon : Horizon α} :
    horizon.validate = .ok () ↔ Number.isFinite horizon.finalTime = true ∧
      ¬ horizon.finalTime ≤ 0 ∧ 0 < horizon.intervals ∧ 0 < horizon.substeps := by
  unfold Horizon.validate
  split_ifs with time intervals substeps
  · rw [Bool.or_eq_true, Bool.not_eq_true', decide_eq_true_eq] at time
    exact iff_of_false (fun refused => by cases refused) fun ⟨finite, positive, _⟩ =>
      time.elim (fun notFinite => by simp [finite] at notFinite) positive
  · exact iff_of_false (fun refused => by cases refused) fun ⟨_, _, cut, _⟩ => cut.ne' intervals
  · exact iff_of_false (fun refused => by cases refused) fun ⟨_, _, _, cut⟩ => cut.ne' substeps
  · rw [Bool.or_eq_true, Bool.not_eq_true', decide_eq_true_eq, not_or, Bool.not_eq_false] at time
    exact iff_of_true rfl
      ⟨time.1, time.2, Nat.pos_of_ne_zero intervals, Nat.pos_of_ne_zero substeps⟩

theorem Horizon.validate_real {horizon : Horizon ℝ} :
    horizon.validate = .ok () ↔
      0 < horizon.finalTime ∧ 0 < horizon.intervals ∧ 0 < horizon.substeps := by
  rw [Horizon.validate_eq_ok, not_le]
  exact and_iff_right rfl

/-- **A consistent model is transcribed** over a valid horizon with any functions of its dimensions,
the places of the initial condition being listed row by row, if its intervals have an ordinary
positive duration. -/
theorem transcribeWith_of_isConsistent {horizon : Horizon α} {model : Model α} {nx nu : Nat}
    (dynamics : Dynamics α nx nu) (initial : InitialCondition α nx)
    (consistent : model.IsConsistent) (valid : horizon.validate = .ok ())
    (finite : Number.isFinite horizon.intervalDuration = true)
    (positive : ¬ horizon.intervalDuration ≤ 0) (number : Number.isNaN (0 : α) = false)
    (irreflexive : ¬ (0 : α) < 0)
    (sameStates : model.stateCount = nx) (sameControls : model.controlCount = nu)
    (rowMajor : IsRowMajor initial.count nx initial.pattern) :
    ∃ nlp, transcribeWith horizon model dynamics initial =
      .ok ⟨⟨nx, nu, horizon.intervals⟩, Shooting.ofHorizon horizon dynamics initial, nlp,
        horizon.intervalDuration⟩ := by
  subst sameStates sameControls
  obtain ⟨stateLower, sameStateLower⟩ := exists_toList_eq consistent.stateLower_length
  obtain ⟨stateUpper, sameStateUpper⟩ := exists_toList_eq consistent.stateUpper_length
  obtain ⟨stateGuess, sameStateGuess⟩ := exists_toList_eq consistent.stateGuess_length
  obtain ⟨controlLower, sameControlLower⟩ := exists_toList_eq consistent.controlLower_length
  obtain ⟨controlUpper, sameControlUpper⟩ := exists_toList_eq consistent.controlUpper_length
  obtain ⟨controlGuess, sameControlGuess⟩ := exists_toList_eq consistent.controlGuess_length
  have boxes := consistent.boxes
  rw [Model.allBoxes, List.forall_mem_append, ← sameStateLower, ← sameStateUpper, ← sameStateGuess,
    ← sameControlLower, ← sameControlUpper, ← sameControlGuess, Model.forall_boxes_fits rfl,
    Model.forall_boxes_fits rfl] at boxes
  let layout : Layout := ⟨model.stateCount, model.controlCount, horizon.intervals⟩
  let shooting := Shooting.ofHorizon horizon dynamics initial
  let pattern := Pattern.ofPlaces shooting.rows.count layout.size shooting.places
  have divided := (Horizon.validate_eq_ok.mp valid).2.2.2
  have zero (row : Fin shooting.rows.count) : (Column.zero _ : Vector α _).get row = 0 :=
    Column.get_zero row
  refine ⟨⟨shooting.functions pattern, layout.fill stateLower controlLower,
    layout.fill stateUpper controlUpper, layout.fill stateGuess controlGuess, Column.zero _,
    Column.zero _⟩, transcribeWith_eq_ok.mpr ⟨Model.validate_eq_ok.mpr consistent, valid, rfl, rfl,
      pattern, _, Interval.make_of_positive finite positive divided, ?_, ?_, rfl⟩⟩
  · exact Pattern.ofPlaces?_of_isRowMajor (Shooting.isRowMajor_places rowMajor)
  · exact ⟨rfl, ⟨_, _, sameStateLower, sameControlLower, rfl⟩,
      ⟨_, _, sameStateUpper, sameControlUpper, rfl⟩, ⟨_, _, sameStateGuess, sameControlGuess, rfl⟩,
      rfl, rfl, Nlp.boundsCross_of_equations (layout.not_crossed_fill (fun i => (boxes.1 i).1)
        fun i => (boxes.2 i).1) (fun row => (zero row).symm ▸ number)
        fun row => (zero row).symm ▸ irreflexive⟩

theorem transcribeWith_real {horizon : Horizon ℝ} {model : Model ℝ} {nx nu : Nat}
    (dynamics : Dynamics ℝ nx nu) (initial : InitialCondition ℝ nx)
    (consistent : model.IsConsistent) (valid : horizon.validate = .ok ())
    (sameStates : model.stateCount = nx) (sameControls : model.controlCount = nu)
    (rowMajor : IsRowMajor initial.count nx initial.pattern) :
    ∃ nlp, transcribeWith horizon model dynamics initial =
      .ok ⟨⟨nx, nu, horizon.intervals⟩, Shooting.ofHorizon horizon dynamics initial, nlp,
        horizon.intervalDuration⟩ := by
  obtain ⟨time, intervals, -⟩ := Horizon.validate_real.mp valid
  have duration : 0 < horizon.intervalDuration := div_pos time (Nat.cast_pos.mpr intervals)
  exact transcribeWith_of_isConsistent dynamics initial consistent valid rfl (not_le.mpr duration)
    (Number.isNaN_real 0) (lt_irrefl 0) sameStates sameControls rowMajor

end MultipleShooting
