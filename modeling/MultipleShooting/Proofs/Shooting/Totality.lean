/-
**Validated problems are transcribed, and their programs answer every call.**

In an arithmetic that is exact as far as a transcription relies on it (`Number.IsExact`), as the
real numbers are (`Number.isExact_real`), for an accepted model whose names are identifiers and an
accepted horizon:

* `Model.IsCompiledBy`: every function of the model is compiled, and has a component for every place
  that is written;
* `Shooting.StaysInside`: all blocks, rows and places of the program stand inside of it;
* `Transcription.Fits`: sizes, bounds and pattern of the program;
* `Transcription.IsTotal`: a call of any function of the program is refused exactly for a vector of
  the wrong length, and otherwise has an answer or fails where a model function cannot be evaluated;
* `transcribe_total`: **the problem has a transcription with all of this**.
-/
import MultipleShooting.Proofs.Expr.Ends
import MultipleShooting.Proofs.Model.Acceptance
import MultipleShooting.Proofs.Shooting.Location

namespace MultipleShooting

/-! ### Exact arithmetic -/

/-- The laws that a transcription relies on: zero is a number and not below itself, numbers are in
order, and an equal part of an ordinary positive number is one. -/
structure Number.IsExact (α : Type) [Number α] : Prop where
  zero_number : Number.isNaN (0 : α) = false
  zero_irrefl : ¬ (0 : α) < 0
  le_of_not_lt : ∀ left right : α, Number.isNaN left = false → Number.isNaN right = false →
    ¬ right < left → left ≤ right
  part_finite : ∀ (whole : α) (count : Nat), Number.isFinite whole = true → ¬ whole ≤ 0 →
    0 < count → Number.isFinite (whole / (count : α)) = true
  part_positive : ∀ (whole : α) (count : Nat), Number.isFinite whole = true → ¬ whole ≤ 0 →
    0 < count → ¬ whole / (count : α) ≤ 0

theorem Number.isExact_real : Number.IsExact ℝ where
  zero_number := isNaN_real 0
  zero_irrefl := lt_irrefl 0
  le_of_not_lt _ _ _ _ := not_lt.mp
  part_finite _ _ _ _ _ := rfl
  part_positive _ _ _ positive divided :=
    not_le.mpr (div_pos (not_le.mp positive) (Nat.cast_pos.mpr divided))

variable {α : Type}

/-- A lower bound is at most an upper bound. -/
def Bound.AtMost [LE α] : (lower upper : Bound α) → Prop
  | minusInfinity, _ => True
  | _, plusInfinity => True
  | limit least, limit most => least ≤ most
  | _, _ => False

/-! ### Names -/

/-- Identifiers are plain: they have neither commas nor blanks. -/
theorem isPlain_of_isIdentifier {name : String}
    (isIdentifier : Grammar.IsIdentifier name.toList) : IsPlain name := by
  have visible : ∀ char ∈ name.toList, Text.isBlank char = false :=
    fun char among => isBlank_of_isIdentifierPart (isIdentifier.parts char among)
  refine ⟨fun comma => ?_, ?_⟩
  · cases isIdentifier.parts ',' comma
  · obtain ⟨first, others, same, -⟩ := isIdentifier.head
    rw [Text.trim, same, Text.trimStart_cons (visible first (same ▸ List.mem_cons_self)), ← same,
      Text.trimEnd_of_visible visible]

variable [Number α]

theorem Bound.atMost_of_not_crossed (exact : Number.IsExact α) {lower upper : Bound α}
    (apart : lower.crossed upper = false) : lower.AtMost upper := by
  unfold crossed at apart
  rw [Bool.or_eq_false_iff, Bool.or_eq_false_iff] at apart
  obtain ⟨⟨lowerNumber, upperNumber⟩, ordered⟩ := apart
  cases lower with
  | minusInfinity => trivial
  | limit least =>
    cases upper with
    | minusInfinity => simp [exceeds, lowerNumber] at ordered
    | limit most =>
      exact exact.le_of_not_lt _ _ lowerNumber upperNumber (of_decide_eq_false ordered)
    | plusInfinity => trivial
  | plusInfinity =>
    cases upper with
    | minusInfinity => cases ordered
    | limit most => simp [exceeds, upperNumber] at ordered
    | plusInfinity => trivial

/-! ### Compiled models -/

/-- The functions of a model are its compiled expressions. There is one for every component that is
evaluated, and every entry of a Jacobian stands inside of it. -/
structure Model.IsCompiledBy (model : Model α)
    (dynamics : Dynamics α model.stateCount model.controlCount)
    (initial : InitialCondition α model.stateCount) : Prop where
  dynamics_eq : ∃ compiled, CompiledDynamics.ofModel model = .ok compiled ∧
    dynamics = compiled.toDynamics ∧ compiled.rates.length = model.stateCount ∧
    compiled.gradient.length = model.stateCount + model.controlCount ∧
    ∀ entry ∈ compiled.jacobian.entries,
      entry.row < model.stateCount ∧ entry.column < model.stateCount + model.controlCount
  initial_eq : ∃ residual jacobian,
    Expr.compileAll model.stateVector model.initial = .ok residual ∧
    SparseFunction.ofFunctions model.stateVector model.initial model.states = .ok jacobian ∧
    initial = ⟨model.initial.length, valuesAt residual model.initial.length,
      jacobian.dense model.initial.length model.stateCount, jacobian.pattern⟩ ∧
    residual.length = model.initial.length ∧
    ∀ entry ∈ jacobian.entries,
      entry.row < model.initial.length ∧ entry.column < model.stateCount

/-- **A consistent model with identifiers as names compiles completely.** -/
theorem Model.exists_isCompiledBy {model : Model α} (consistent : model.IsConsistent)
    (plain : ∀ name ∈ model.arguments, IsPlain name) : ∃ dynamics initial,
    Dynamics.ofModel model = .ok dynamics ∧ InitialCondition.ofModel model = .ok initial ∧
      model.IsCompiledBy dynamics initial := by
  obtain ⟨compiled, succeeded⟩ := CompiledDynamics.ofModel_of_isConsistent consistent
  obtain ⟨initial, succeededInitial⟩ := InitialCondition.ofModel_of_isConsistent consistent
  obtain ⟨residual, jacobian, compiledResidual, compiledJacobian, same⟩ :=
    InitialCondition.ofModel_eq_ok.mp succeededInitial
  have differentiates := CompiledDynamics.differentiates_of_isPlain consistent plain succeeded
  have rates := (CompiledDynamics.ofModel_eq_ok.mp succeeded).1
  refine ⟨compiled.toDynamics, initial, map_eq_ok.mpr ⟨compiled, succeeded, rfl⟩, succeededInitial,
    ⟨compiled, succeeded, rfl, ?_, differentiates.components, differentiates.inside⟩,
    residual, jacobian, compiledResidual, compiledJacobian, same, ?_, ?_⟩
  · exact (Expr.compileAll_eq_ok.mp rates).length_eq.symm.trans consistent.dynamics_length.symm
  · exact (Expr.compileAll_eq_ok.mp compiledResidual).length_eq.symm
  · intro entry among
    exact (SparseFunction.isJacobian_of_ofFunctions compiledJacobian).rowMajor.inside entry.place
      (List.mem_map_of_mem among)

/-! ### Places of the program -/

/-- All blocks, rows and places of a shooting problem stand inside of its vectors and matrices, and
the Jacobian has as many values as places. -/
structure Shooting.StaysInside {layout : Layout} (shooting : Shooting α layout) : Prop where
  states : ∀ node ≤ layout.nk, (layout.stateBlock node).stop ≤ layout.size
  controls : ∀ interval < layout.nk, (layout.controlBlock interval).stop ≤ layout.size
  initialRows : shooting.rows.initialBlock.stop ≤ shooting.rows.count
  linkRows : ∀ link < shooting.links, (shooting.rows.linkBlock link).stop ≤ shooting.rows.count
  initialPlaces : ∀ place ∈ shooting.initial.pattern,
    place.1 < shooting.initial.count ∧ place.2 < layout.nx
  places : IsRowMajor shooting.rows.count layout.size shooting.places
  values : ∀ initialJacobian ends,
    (shooting.jacobianValues initialJacobian ends).length = shooting.places.length

theorem Shooting.staysInside {layout : Layout} {shooting : Shooting α layout}
    (rowMajor : IsRowMajor shooting.initial.count layout.nx shooting.initial.pattern) :
    shooting.StaysInside where
  states node known := by
    have strides := Nat.mul_le_mul_right layout.stride known
    rw [Layout.size_eq_strides]
    exact Nat.add_le_add_right strides _
  controls interval known := by
    have strides := Nat.mul_le_mul_right layout.stride (Nat.succ_le_of_lt known)
    rw [Nat.succ_mul] at strides
    rw [Layout.size_eq_strides]
    have width : layout.stride = layout.nx + layout.nu := rfl
    simp only [Layout.controlBlock]
    omega
  initialRows := Nat.le_add_right _ _
  linkRows link known := by
    have rows := Nat.mul_le_mul_right layout.nx (Nat.succ_le_of_lt known)
    rw [Nat.succ_mul] at rows
    simp only [Rows.linkBlock, Rows.count, Shooting.rows]
    omega
  initialPlaces := rowMajor.inside
  places := isRowMajor_places rowMajor
  values _ _ := length_jacobianValues

/-! ### Transcriptions -/

/-- The program of a model over a horizon: its sizes, bounds in their order, right-hand sides of
zero, and a pattern of places that stand inside of the Jacobian. Bounds and start have the lengths
of their types. -/
structure Transcription.Fits (horizon : Horizon α) (model : Model α)
    (transcription : Transcription α) : Prop where
  size_eq : transcription.layout.size =
    (horizon.intervals + 1) * model.stateCount + horizon.intervals * model.controlCount
  rows_eq : transcription.shooting.rows.count = model.initial.length +
    (if horizon.terminalLink then horizon.intervals else horizon.intervals - 1) * model.stateCount
  bounds : ∀ place, (transcription.nlp.lower.get place).AtMost (transcription.nlp.upper.get place)
  rowLower : transcription.nlp.rowLower = Column.zero _
  rowUpper : transcription.nlp.rowUpper = Column.zero _
  pattern_eq : transcription.nlp.functions.pattern = transcription.shooting.places
  pattern : Pattern.ofPlaces? transcription.shooting.rows.count transcription.layout.size
    transcription.shooting.places = some (Pattern.ofPlaces _ _ transcription.shooting.places)
  inside : transcription.shooting.StaysInside

/-- A function of a list of numbers is refused exactly for a decision vector of the wrong length,
and otherwise has an answer or fails where a model function cannot be evaluated. -/
def IsTotalCall {β : Type} (size : Nat) (call : List α → Outcome α β) : Prop :=
  ∀ values, (values.length ≠ size →
      call values = .error (.dimensionMismatch "decision vector" size values.length)) ∧
    (values.length = size → (∃ answer, call values = .ok answer) ∨
      ∃ function place state control,
        call values = .error (.evaluation function place state control))

/-- All functions of the program are total. -/
structure Transcription.IsTotal (transcription : Transcription α) : Prop where
  objective : IsTotalCall transcription.layout.size fun values =>
    transcription.nlp.point values >>= transcription.nlp.functions.objective
  gradient : IsTotalCall transcription.layout.size fun values =>
    transcription.nlp.point values >>= transcription.nlp.functions.gradient
  constraints : IsTotalCall transcription.layout.size fun values =>
    transcription.nlp.point values >>= transcription.nlp.functions.constraints
  jacobian : IsTotalCall transcription.layout.size fun values =>
    transcription.nlp.point values >>= transcription.nlp.functions.jacobian
  evaluate : IsTotalCall transcription.layout.size fun values =>
    transcription.nlp.point values >>= transcription.nlp.functions.evaluate

/-- A function whose failures are located is total. -/
theorem isTotalCall_of_locates {β : Type} {layout : Layout} {shooting : Shooting α layout}
    {nlp : Nlp α layout.size shooting.rows.count} {function : Vector α layout.size → Outcome α β}
    {checking : Vector α layout.size → Shooting.Checking layout.nk}
    (located : ∀ vector failure, function vector = .error failure →
      shooting.Locates vector (checking vector) failure) :
    IsTotalCall layout.size fun values => nlp.point values >>= function := by
  intro values
  constructor
  · intro wrong
    simp only [Nlp.point, expectVector, dif_neg wrong]
    rfl
  · intro right
    have point : nlp.point values = .ok ⟨values.toArray, right⟩ := dif_pos right
    simp only [point, bind, Except.bind]
    cases called : function ⟨values.toArray, right⟩ with
    | ok answer => exact .inl ⟨answer, rfl⟩
    | error failure =>
      cases located _ _ called with
      | stage _ _ _ _ => exact .inr ⟨_, _, _, _, rfl⟩
      | start _ _ _ => exact .inr ⟨_, _, _, _, rfl⟩

/-- **Validated problems are transcribed, and their programs answer every call.** -/
theorem transcribe_total (exact : Number.IsExact α) {horizon : Horizon α} {model : Model α}
    (identifiers : ∀ name ∈ model.arguments, Grammar.IsIdentifier name.toList)
    (validModel : model.validate = .ok ()) (validHorizon : horizon.validate = .ok ()) :
    ∃ dynamics initial transcription, model.IsCompiledBy dynamics initial ∧
      transcribeWith horizon model dynamics initial = .ok transcription ∧
      transcribe horizon model = .ok transcription ∧
      transcription.Fits horizon model ∧ transcription.IsTotal := by
  have consistent := Model.validate_eq_ok.mp validModel
  obtain ⟨time, positive, divided, -⟩ := Horizon.validate_eq_ok.mp validHorizon
  obtain ⟨dynamics, initial, compiled, compiledInitial, isCompiledBy⟩ :=
    Model.exists_isCompiledBy consistent fun name among =>
      isPlain_of_isIdentifier (identifiers name among)
  have rowMajor := InitialCondition.isRowMajor_pattern compiledInitial
  have finite := exact.part_finite _ _ time positive divided
  have positive := exact.part_positive _ _ time positive divided
  obtain ⟨nlp, transcribed⟩ := transcribeWith_of_isConsistent dynamics initial consistent
    validHorizon finite positive exact.zero_number exact.zero_irrefl rfl rfl rowMajor
  obtain ⟨-, -, -, -, _, _, -, -, isOf, same⟩ := transcribeWith_eq_ok.mp transcribed
  cases same
  have inside : (Shooting.ofHorizon horizon dynamics initial).StaysInside :=
    Shooting.staysInside rowMajor
  refine ⟨dynamics, initial, _, isCompiledBy, transcribed,
    transcribe_eq_transcribeWith.mpr ⟨dynamics, initial, compiled, compiledInitial, transcribed⟩,
    ⟨rfl, ?_, fun place => ?_, isOf.rowLower, isOf.rowUpper, ?_, ?_, inside⟩, ?_, ?_, ?_, ?_, ?_⟩
  · exact congrArg (· + _) (InitialCondition.count_of_ofModel compiledInitial)
  · exact Bound.atMost_of_not_crossed exact (Nlp.not_crossed_of_boundsCross isOf.apart place)
  · exact congrArg NlpFunctions.pattern isOf.functions
  · exact Pattern.ofPlaces?_of_isRowMajor inside.places
  all_goals rw [isOf.functions]
  · exact isTotalCall_of_locates fun _ _ => Shooting.locates_of_objective
  · exact isTotalCall_of_locates fun _ _ failed =>
      Shooting.locates_of_evaluate (map_eq_error.mp failed)
  · exact isTotalCall_of_locates fun _ _ => Shooting.locates_of_constraints
  · exact isTotalCall_of_locates fun _ _ failed =>
      Shooting.locates_of_evaluate (map_eq_error.mp failed)
  · exact isTotalCall_of_locates fun _ _ => Shooting.locates_of_evaluate

namespace steered

/-- A state `x` that begins at zero and is moved by the control, at the cost of its square. -/
noncomputable def model : Model ℝ :=
  Model.unbounded ["x"] ["u"] [.var "u"] (.binary .mul (.var "u") (.var "u")) [.var "x"]

/-- Two intervals of three sub-steps without terminal link. -/
noncomputable def horizon : Horizon ℝ := ⟨1, 2, 3, false, true⟩

theorem isConsistent : model.IsConsistent := by
  refine Model.isConsistent_unbounded rfl Nat.one_pos rfl (by simp) (by simp) ?_ ?_ ?_
  · exact List.forall_mem_singleton.mpr (Expr.knownIn_var (by simp))
  · exact List.forall_mem_singleton.mpr (Expr.knownIn_var (by simp))
  · exact Expr.knownIn_binary.mpr ⟨Expr.knownIn_var (by simp), Expr.knownIn_var (by simp)⟩

theorem identifiers : ∀ name ∈ model.arguments, Grammar.IsIdentifier name.toList := by
  have letter (char : Char) (alpha : char.isAlpha = true) : Grammar.IsIdentifier [char] :=
    .mk (.inl alpha) fun _ among => by cases among
  refine List.forall_mem_cons.mpr ⟨letter 'x' rfl, ?_⟩
  exact List.forall_mem_singleton.mpr (letter 'u' rfl)

end steered

/-- The program of a steered state over two intervals has five variables and two rows. -/
theorem transcribe_total_steered : ∃ transcription,
    transcribe steered.horizon steered.model = .ok transcription ∧
      transcription.layout.size = 5 ∧ transcription.shooting.rows.count = 2 ∧
      transcription.IsTotal := by
  have validHorizon : steered.horizon.validate = .ok () :=
    Horizon.validate_real.mpr ⟨one_pos, Nat.two_pos, Nat.succ_pos 2⟩
  obtain ⟨_, _, transcription, -, -, transcribed, fits, total⟩ :=
    transcribe_total Number.isExact_real steered.identifiers
      (Model.validate_eq_ok.mpr steered.isConsistent) validHorizon
  exact ⟨transcription, transcribed, fits.size_eq, fits.rows_eq, total⟩

end MultipleShooting
