/-
**A problem's document and the problem built from the same parts.**

What a document writes is read part by part: names as they are and expressions but for zeros
(`Problem.readModel_eq_ok`), the horizon (`Problem.readHorizon_eq_ok`) and the settings
(`Problem.readSolver_eq_ok`).

* `Problem.parse_agrees`: **the document is accepted exactly when the parts are consistent**, its
  problem is the one that is built, and otherwise its failure is the first one of that problem.
-/
import MultipleShooting.Proofs.Model.Same
import MultipleShooting.Proofs.Model.Validation
import MultipleShooting.Proofs.Problem.Specification
import MultipleShooting.Proofs.Sqp.Settings

namespace MultipleShooting

open Document

namespace Problem

open Specification

variable {parts : Specification} {sections : List WrittenSection}

/-! ### Names, expressions and words -/

/-- A text of letters is read as a number only if it is the name of one. -/
theorem names_of_letters {token : List Char} {value : Float}
    (letters : ∀ char ∈ token, char.isAlpha = true)
    (read : Decimal.readDouble? token = some value) : Decimal.Names token value := by
  obtain ⟨sign, negative, body, magnitude, signed, rfl, written, rfl⟩ :=
    Decimal.readDouble?_iff.mp read
  obtain ⟨letterSign, letterBody⟩ := List.forall_mem_append.mp letters
  rcases written with written | names
  · obtain ⟨char, others, rfl, inside⟩ := written.head
    have start := isIdentifierStart_iff.mpr (.inl (letterBody char List.mem_cons_self))
    rw [(noNumber_of_isIdentifierStart start).1] at inside
    cases inside
  · cases signed with
    | none => exact names
    | plus | minus => cases letterSign _ List.mem_cons_self

/-- **The level of the log is handed on as it is written.** -/
theorem handedOn_of_isLevelWord {token : List Char}
    (isLevelWord : IsLevelWord (String.ofList token)) : handedOn token = String.ofList token := by
  rw [IsLevelWord, String.toList_ofList] at isLevelWord
  have letters : ∀ char ∈ token, char.isAlpha = true := by
    intro char among
    have lower : char.toLower ∈ (String.ofList (token.map Char.toLower)).toList := by
      rw [String.toList_ofList]
      exact List.mem_map_of_mem among
    have words : ∀ word ∈ ["off", "none", "error", "warn", "info", "debug", "trace"],
        word.toList.all Char.isAlpha = true := by decide
    exact Decimal.isAlpha_of_toLower (List.all_eq_true.mp (words _ isLevelWord) _ lower)
  have notDouble : Decimal.readDouble? token = none := by
    refine Option.eq_none_iff_forall_ne_some.mpr fun value read => ?_
    rcases names_of_letters letters read with named | named
    · simp only [List.mem_cons, List.not_mem_nil, or_false] at named
      rcases named with named | named <;>
        exact absurd (named ▸ isLevelWord) (by decide)
    · exact absurd (named ▸ isLevelWord) (by decide)
  refine handedOn_of_none (Option.eq_none_iff_forall_ne_some.mpr fun whole read => ?_) notDouble
  obtain ⟨sign, negative, digits, signed, rfl, nonempty, allDigits, -⟩ :=
    Decimal.readInteger?_iff.mp read
  have double := readDouble?_of_digits signed nonempty allDigits
  rw [notDouble] at double
  cases double

/-- **Names are handed on as they are written.** -/
theorem map_handedOn_of_identifiers {tokens : List Token} {names : List String}
    (written : WritesTexts tokens names)
    (identifiers : ∀ name ∈ names, Grammar.IsIdentifier name.toList)
    (ordinary : ∀ name ∈ names, IsOrdinary name.toList) :
    tokens.map (fun token => handedOn token.chars) = names := by
  induction written with
  | nil => rfl
  | @cons token name _ _ first _ ih =>
    obtain ⟨isIdentifier, identifiers⟩ := List.forall_mem_cons.mp identifiers
    obtain ⟨isOrdinary, ordinary⟩ := List.forall_mem_cons.mp ordinary
    have chars : token.chars = name.toList := by
      rw [← first, String.toList_ofList]
    rw [← chars] at isIdentifier isOrdinary
    rw [List.map_cons, ih identifiers ordinary,
      (keepsMeaning_of_isOrdinary isOrdinary).named isIdentifier, first]

/-- **The text of an expression is handed on as the same expression.** -/
theorem readsAs_handedOn {token : List Char} {text : String} (written : WritesText token text)
    (grammatical : ∃ expr : Expr Float, Grammar.Writes text expr)
    (ordinary : IsOrdinary text.toList) : Model.ReadsAs (handedOn token) text := by
  obtain ⟨expr, writes⟩ := grammatical
  have read : Expr.parse text = .ok expr := Expr.parse_of_writes writes
  have chars : token = text.toList := by
    rw [← written, String.toList_ofList]
  rw [← chars] at ordinary
  have alike := (keepsMeaning_of_isOrdinary ordinary).parses
  rw [written, read] at alike
  generalize answer : (Expr.parse (handedOn token) : Except _ (Expr Float)) = first at alike
  cases alike with
  | read same => exact ⟨_, expr, answer, read, same⟩

theorem forall₂_readsAs_handedOn {tokens : List Token} {texts : List String}
    (written : WritesTexts tokens texts)
    (grammatical : ∀ text ∈ texts, ∃ expr : Expr Float, Grammar.Writes text expr)
    (ordinary : ∀ text ∈ texts, IsOrdinary text.toList) :
    List.Forall₂ Model.ReadsAs (tokens.map fun token => handedOn token.chars) texts := by
  induction written with
  | nil => exact .nil
  | cons first _ ih =>
    obtain ⟨isGrammatical, grammatical⟩ := List.forall_mem_cons.mp grammatical
    obtain ⟨isOrdinary, ordinary⟩ := List.forall_mem_cons.mp ordinary
    exact .cons (readsAs_handedOn first isGrammatical isOrdinary) (ih grammatical ordinary)

/-! ### Reading the sections -/

/-- **The horizon is read as it is written.** -/
theorem readHorizon_eq_ok (small : parts.HasSmallCounts) (written : parts.WrittenIn sections) :
    readHorizon (documentOf sections) = .ok parts.horizon := by
  obtain ⟨timeTokens, present, finalTime, timeValues⟩ := mandatory_eq_ok written.finalTime
  obtain ⟨intervalTokens, -, intervals, intervalValues⟩ := mandatory_eq_ok written.intervals
  obtain ⟨substepTokens, -, substeps, substepValues⟩ := mandatory_eq_ok written.substeps
  unfold readHorizon
  simp only [required_eq_ok present, timeValues, intervalValues, substepValues, bind, Except.bind,
    number_eq_ok finalTime, count_eq_ok small.intervals intervals,
    count_eq_ok small.substeps substeps, optionalFlag_eq_ok written.terminalLink,
    optionalFlag_eq_ok written.parallel]
  rfl

/-- The level of the log is handed on as it is written. -/
theorem optionalLevel_eq_ok (plain : parts.IsPlain) (written : parts.WrittenIn sections) :
    ∃ value?, (partOf sections "solver").optional "loglevel"
        ((partOf sections "solver").single "loglevel") = .ok value? ∧
      value?.map Value.toText = parts.logLevel := by
  have level := plain.level
  have written := written.logLevel
  rw [ProblemSection.optional, values?_partOf]
  generalize tokensOf? sections "solver" "loglevel" = tokens? at written
  generalize parts.logLevel = word? at written level
  cases written with
  | none => exact ⟨none, rfl, rfl⟩
  | some single =>
    obtain ⟨token, rfl, rfl⟩ := single
    exact ⟨some token.value, rfl, congrArg some (handedOn_of_isLevelWord (level _ rfl))⟩

/-- **The settings are read as they are written.** -/
theorem readSolver_eq_ok (plain : parts.IsPlain) (small : parts.HasSmallCounts)
    (written : parts.WrittenIn sections) : readSolver (documentOf sections) =
      .ok (parts.settings.apply SqpSettings.standard, parts.logLevel) := by
  obtain ⟨value?, read, level⟩ := optionalLevel_eq_ok plain written
  unfold readSolver
  simp only [ofTitle_documentOf, optionalNumber_eq_ok written.tolerance,
    optionalCount_eq_ok small.maxIterations written.maxIterations,
    optionalNumber_eq_ok written.hessianStep, optionalNumber_eq_ok written.regularization,
    optionalNumber_eq_ok written.meritPenalty, read, bind, Except.bind, ← level]
  rfl

/-- The texts of a key that has to be there. -/
theorem texts_eq_ok {title key : String} {β : Type} {writes : List Token → β → Prop} {value : β}
    (written : Option.Rel writes (tokensOf? sections title key) (some value)) :
    ∃ tokens, writes tokens value ∧ (partOf sections title).texts key =
      .ok (tokens.map fun token => handedOn token.chars) := by
  obtain ⟨tokens, -, one, values⟩ := mandatory_eq_ok written
  refine ⟨tokens, one, ?_⟩
  rw [ProblemSection.texts, values, Except.map, List.map_map]
  rfl

/-- **The model is read as it is written**, but for zeros. -/
theorem readModel_eq_ok (plain : parts.IsPlain) (written : parts.WrittenIn sections) :
    ∃ model read, Model.ofTexts parts.states (parts.controls.getD []) parts.dynamics parts.cost
        parts.initial = .ok model ∧
      readModel (documentOf sections) = .ok read ∧ read.Same (parts.revision.apply model) := by
  obtain ⟨identifiers, grammatical, ordinary, -⟩ := plain
  obtain ⟨stateIdentifiers, controlIdentifiers⟩ := List.forall_mem_append.mp identifiers
  obtain ⟨ordinaryNames, ordinaryTexts⟩ := List.forall_mem_append.mp ordinary
  obtain ⟨ordinaryStates, ordinaryControls⟩ := List.forall_mem_append.mp ordinaryNames
  obtain ⟨grammaticalRates, grammaticalOthers⟩ := List.forall_mem_append.mp grammatical
  obtain ⟨grammaticalCost, grammaticalStarts⟩ := List.forall_mem_cons.mp grammaticalOthers
  obtain ⟨ordinaryRates, ordinaryOthers⟩ := List.forall_mem_append.mp ordinaryTexts
  obtain ⟨ordinaryCost, ordinaryStarts⟩ := List.forall_mem_cons.mp ordinaryOthers
  obtain ⟨_, present, -, -⟩ := mandatory_eq_ok written.states
  obtain ⟨stateTokens, writesStates, readStates⟩ := texts_eq_ok written.states
  obtain ⟨rateTokens, writesRates, readRates⟩ := texts_eq_ok written.dynamics
  obtain ⟨startTokens, writesStarts, readStarts⟩ := texts_eq_ok written.initial
  obtain ⟨_, -, ⟨costToken, rfl, writesCost⟩, readCost⟩ := mandatory_eq_ok written.cost
  have states := map_handedOn_of_identifiers writesStates stateIdentifiers ordinaryStates
  have controls : (((partOf sections "model").values? "controls").getD []).map Value.toText =
      parts.controls.getD [] := by
    have writesControls := written.controls
    rw [values?_partOf]
    generalize tokensOf? sections "model" "controls" = tokens? at writesControls
    generalize parts.controls = controls? at writesControls controlIdentifiers ordinaryControls
    cases writesControls with
    | none => rfl
    | some listed =>
      have names := map_handedOn_of_identifiers listed controlIdentifiers ordinaryControls
      rw [Option.map_some, Option.getD_some, Option.getD_some, List.map_map]
      exact names
  obtain ⟨read, model, ofHandedOn, ofParts, same⟩ :=
    Model.exists_ofTexts parts.states (parts.controls.getD [])
      (forall₂_readsAs_handedOn writesRates grammaticalRates ordinaryRates)
      (readsAs_handedOn writesCost grammaticalCost ordinaryCost)
      (forall₂_readsAs_handedOn writesStarts grammaticalStarts ordinaryStarts)
  refine ⟨model, parts.revision.apply read, ofParts, ?_, same _⟩
  have cost : (partOf sections "model").single "cost" [costToken.value] = .ok costToken.value := rfl
  unfold readModel
  simp only [required_eq_ok present, readStates, states, controls, readRates, readStarts, readCost,
    ofTitle_documentOf, bind, Except.bind, List.map_singleton, cost]
  have costText : costToken.value.toText = handedOn costToken.chars := rfl
  rw [costText, ofHandedOn]
  simp only [optionalNumbers_eq_ok written.stateLower, optionalNumbers_eq_ok written.stateUpper,
    optionalNumbers_eq_ok written.controlLower, optionalNumbers_eq_ok written.controlUpper,
    optionalNumbers_eq_ok written.stateGuess, optionalNumbers_eq_ok written.controlGuess]
  rfl

/-! ### Whole documents -/

/-- The same problem, with both zeros taken as one in the expressions of its model. -/
structure Same (left right : Problem Float) : Prop where
  model : left.model.Same right.model
  horizon : left.horizon = right.horizon
  settings : left.settings = right.settings
  logLevel : left.logLevel = right.logLevel

theorem Same.validate_eq {left right : Problem Float} (same : Same left right) :
    left.validate = right.validate := by
  unfold validate
  rw [same.model.validate_eq, same.horizon, same.settings]

/-- The first failure of a problem: of its model, of its horizon if the model is consistent, and of
the settings if both are. -/
inductive FailsFirst (problem : Problem Float) (failure : Failure Float) : Prop
  | model (fails : problem.model.validate = .error failure)
  | horizon (model : problem.model.validate = .ok ())
      (fails : problem.horizon.validate = .error failure)
  | settings (model : problem.model.validate = .ok ()) (horizon : problem.horizon.validate = .ok ())
      (fails : problem.settings.validate = .error failure)

theorem validate_eq_ok {problem : Problem Float} : problem.validate = .ok () ↔
    problem.model.validate = .ok () ∧ problem.horizon.validate = .ok () ∧
      problem.settings.validate = .ok () := by
  unfold validate
  simp only [bind_eq_ok]
  constructor
  · rintro ⟨_, model, _, horizon, settings⟩
    exact ⟨model, horizon, settings⟩
  · rintro ⟨model, horizon, settings⟩
    exact ⟨(), model, (), horizon, settings⟩

theorem failsFirst_of_validate {problem : Problem Float} {failure : Failure Float}
    (fails : problem.validate = .error failure) : FailsFirst problem failure := by
  cases model : problem.model.validate with
  | error first =>
    rw [validate, model] at fails
    cases fails
    exact .model model
  | ok _ =>
    cases horizon : problem.horizon.validate with
    | error first =>
      rw [validate, model, horizon] at fails
      cases fails
      exact .horizon model horizon
    | ok _ =>
      rw [validate, model, horizon] at fails
      exact .settings model horizon fails

/-- The problem of the document is the one that is built, but for zeros. -/
theorem ofDocument_eq_ok (plain : parts.IsPlain) (small : parts.HasSmallCounts)
    (written : parts.WrittenIn sections) :
    ∃ built read, parts.build = .ok built ∧ ofDocument (documentOf sections) = .ok read ∧
      read.Same built := by
  obtain ⟨model, read, ofParts, ofSections, same⟩ := readModel_eq_ok plain written
  refine ⟨parts.problem model, ⟨read, parts.horizon, parts.settings.apply SqpSettings.standard,
    parts.logLevel⟩, ?_, ?_, ⟨same, rfl, rfl, rfl⟩⟩
  · rw [Specification.build, ofParts]
    rfl
  · unfold ofDocument
    simp only [ofSections, readHorizon_eq_ok small written, readSolver_eq_ok plain small written,
      bind, Except.bind]
    rfl

/-- A text that writes the parts is read as the document of the sections. -/
theorem document_eq_ok (written : parts.WrittenIn sections) {text : String}
    (writes : Document.Writes (sections.flatMap WrittenSection.statements) text.toList) :
    Document.parse text = .ok (documentOf sections) := by
  refine parse_eq_ok_of_writes ?_ writes
  rintro rfl
  obtain ⟨_, present, -⟩ := mandatory_eq_ok written.states
  cases present

/-- **A document and the parts that it writes give the same problem.** The document is accepted if
and only if model, horizon and settings of the problem that is built from the parts are all
consistent; then its problem is that one, with both zeros taken as one in expressions; and otherwise
its failure is the first of that problem. -/
theorem parse_agrees (plain : parts.IsPlain) (small : parts.HasSmallCounts)
    (written : parts.WrittenIn sections) {text : String}
    (writes : Document.Writes (sections.flatMap WrittenSection.statements) text.toList) :
    ∃ built, parts.build = .ok built ∧
      ((∃ read, parse text = .ok read) ↔ built.model.validate = .ok () ∧
        built.horizon.validate = .ok () ∧ built.settings.validate = .ok ()) ∧
      (∀ read, parse text = .ok read → read.Same built) ∧
      ∀ failure, parse text = .error failure → FailsFirst built failure := by
  obtain ⟨built, read, isBuilt, ofSections, same⟩ := ofDocument_eq_ok plain small written
  have whole : parse text = built.validate.map fun _ => read := by
    rw [parse, document_eq_ok written writes]
    simp only [ofSections, bind, Except.bind, same.validate_eq]
    cases built.validate <;> rfl
  refine ⟨built, isBuilt, ?_, ?_, ?_⟩
  · rw [← validate_eq_ok, whole]
    cases built.validate <;> simp [Except.map]
  · intro accepted succeeded
    rw [whole] at succeeded
    obtain ⟨-, -, rfl⟩ := map_eq_ok.mp succeeded
    exact same
  · intro failure fails
    rw [whole] at fails
    cases validated : built.validate with
    | ok _ =>
      rw [validated] at fails
      cases fails
    | error first =>
      rw [validated] at fails
      cases fails
      exact failsFirst_of_validate validated

/-! ### Decay -/

/-- A state that decays, with a number of iterations for the solver. -/
def decay (maxIterations : ℕ) : Specification where
  states := ["x"]
  controls := none
  dynamics := ["-x"]
  cost := "x"
  initial := ["x"]
  stateLower := none
  stateUpper := none
  controlLower := none
  controlUpper := none
  stateGuess := none
  controlGuess := none
  finalTime := 1.0
  intervals := 2
  substeps := 1
  terminalLink := none
  parallel := none
  settings := ⟨none, some maxIterations, none, none, none⟩
  logLevel := none

/-- The model of the decay. -/
def decayModel : Model Float :=
  .unbounded ["x"] [] [(Expr.var "x").negated] (.var "x") [.var "x"]

theorem isIdentifier_x : Grammar.IsIdentifier ['x'] := .mk (.inl rfl) fun _ among => by cases among

theorem parse_x : Expr.parse "x" = .ok (.var "x" : Expr Float) := by
  have parsed := Expr.parse_name .none isIdentifier_x
  rwa [if_neg Bool.false_ne_true] at parsed

theorem parse_minusX : Expr.parse "-x" = .ok ((Expr.var "x").negated : Expr Float) := by
  have parsed := Expr.parse_name .minus isIdentifier_x
  rwa [if_pos rfl] at parsed

theorem decay_isPlain (maxIterations : ℕ) : (decay maxIterations).IsPlain where
  identifiers := List.forall_mem_singleton.mpr isIdentifier_x
  grammatical := by
    have x : ∃ expr : Expr Float, Grammar.Writes "x" expr := ⟨_, Expr.parse_eq_ok.mp parse_x⟩
    have minusX : ∃ expr : Expr Float, Grammar.Writes "-x" expr :=
      ⟨_, Expr.parse_eq_ok.mp parse_minusX⟩
    exact List.forall_mem_cons.mpr ⟨minusX, List.forall_mem_cons.mpr
      ⟨x, List.forall_mem_singleton.mpr x⟩⟩
  ordinary := by
    have x : IsOrdinary "x".toList := isOrdinary_of_none (by decide +kernel)
    have minusX : IsOrdinary "-x".toList := isOrdinary_of_none (by decide +kernel)
    exact List.forall_mem_cons.mpr ⟨x, List.forall_mem_cons.mpr ⟨minusX, List.forall_mem_cons.mpr
      ⟨x, List.forall_mem_singleton.mpr x⟩⟩⟩
  level := fun _ among => by cases among

theorem decay_exists_writes (maxIterations : ℕ) : ∃ sections text,
    (decay maxIterations).WrittenIn sections ∧
      Document.Writes (sections.flatMap WrittenSection.statements) (String.toList text) := by
  have x : CanStand "x" := ⟨.ofParts ['x'] (List.cons_ne_nil _ _) rfl, rfl⟩
  have minusX : CanStand "-x" := ⟨.ofParts ['-', 'x'] (List.cons_ne_nil _ _) rfl, rfl⟩
  obtain ⟨sections, written⟩ := exists_writtenIn (decay maxIterations)
    (List.forall_mem_cons.mpr ⟨x, List.forall_mem_cons.mpr ⟨minusX, List.forall_mem_cons.mpr
      ⟨x, List.forall_mem_singleton.mpr x⟩⟩⟩)
  refine ⟨sections, String.ofList (plainLines (sections.flatMap WrittenSection.statements)),
    written, ?_⟩
  rw [String.toList_ofList]
  exact writes_plainLines _

theorem decay_build (maxIterations : ℕ) :
    (decay maxIterations).build = .ok ((decay maxIterations).problem decayModel) := by
  have model : Model.ofTexts ["x"] [] ["-x"] "x" ["x"] = .ok decayModel := by
    rw [Model.ofTexts, Model.parseParts, Model.parsePart_eq_ok parse_minusX, Model.parseParts,
      Model.parsePart_eq_ok parse_x, Model.parseParts, Model.parsePart_eq_ok parse_x,
      Model.parseParts]
    rfl
  exact congrArg (Except.map (decay maxIterations).problem) model

theorem decay_validate (maxIterations : ℕ) :
    ((decay maxIterations).problem decayModel).model.validate = .ok () ∧
      ((decay maxIterations).problem decayModel).horizon.validate = .ok () ∧
      ((decay maxIterations).problem decayModel).settings.validate = .ok () := by
  have known : (Expr.var "x" : Expr Float).KnownIn ["x"] := Expr.knownIn_var (by simp)
  have rateKnown : ((Expr.var "x").negated : Expr Float).KnownIn ["x"] :=
    Expr.knownIn_binary.mpr ⟨Expr.knownIn_const _, known⟩
  have consistent : decayModel.IsConsistent :=
    Model.isConsistent_unbounded (by decide) Nat.one_pos rfl (by decide) (by decide)
      (List.forall_mem_singleton.mpr known) (List.forall_mem_singleton.mpr rateKnown) known
  have horizon : (Horizon.mk 1.0 2 1 false true : Horizon Float).validate = .ok () := by
    rw [Horizon.validate, if_neg (by decide), if_neg (by decide), if_neg (by decide)]
  have standard : (SqpSettings.standard : SqpSettings Float).validate = .ok () :=
    SqpSettings.validate_eq_ok.mpr (by decide +kernel)
  -- the number of iterations is not checked
  exact ⟨Model.validate_eq_ok.mpr consistent, horizon, standard⟩

/-- The decay with five iterations is read from each document that writes it, and there is one. -/
theorem parse_agrees_decay : (decay 5).IsPlain ∧ (decay 5).HasSmallCounts ∧
    (∃ sections text, (decay 5).WrittenIn sections ∧
      Document.Writes (sections.flatMap WrittenSection.statements) (String.toList text)) ∧
    ∀ sections text, (decay 5).WrittenIn sections →
      Document.Writes (sections.flatMap WrittenSection.statements) (String.toList text) →
        ∃ read, parse text = .ok read ∧ read.Same ((decay 5).problem decayModel) := by
  have plain := decay_isPlain 5
  have small : (decay 5).HasSmallCounts :=
    ⟨by decide, by decide, fun _ among => Option.some.inj among ▸ by decide⟩
  refine ⟨plain, small, decay_exists_writes 5, fun sections text written writes => ?_⟩
  obtain ⟨built, isBuilt, accepted, same, -⟩ := parse_agrees plain small written writes
  rw [decay_build] at isBuilt
  cases isBuilt
  obtain ⟨read, succeeded⟩ := accepted.mpr (decay_validate 5)
  exact ⟨read, succeeded, same read succeeded⟩

/-! ### Counts that are not read -/

/-- A document cannot ask for a number of iterations that does not fit in 64 signed bits. -/
theorem parse_ne_ok_of_large {count : ℕ} (given : parts.settings.maxIterations = some count)
    (large : 0x8000000000000000 ≤ count) (written : parts.WrittenIn sections) {text : String}
    (writes : Document.Writes (sections.flatMap WrittenSection.statements) text.toList)
    (answer : Problem Float) : parse text ≠ .ok answer := by
  intro succeeded
  rw [parse, document_eq_ok written writes] at succeeded
  obtain ⟨_, read, -⟩ := bind_eq_ok.mp succeeded
  obtain ⟨_, -, read⟩ := bind_eq_ok.mp read
  obtain ⟨_, -, read⟩ := bind_eq_ok.mp read
  obtain ⟨_, solver, -⟩ := bind_eq_ok.mp read
  obtain ⟨_, -, solver⟩ := bind_eq_ok.mp solver
  obtain ⟨iterations?, refused, -⟩ := bind_eq_ok.mp solver
  have count := written.maxIterations
  rw [given] at count
  obtain ⟨tokens, present, one, -⟩ := mandatory_eq_ok count
  rw [ofTitle_documentOf, ProblemSection.optional, values?_partOf, present] at refused
  obtain ⟨iterations, read, -⟩ := map_eq_ok.mp refused
  exact count_ne_ok large one iterations read

/-- No document that writes the decay with `2 ^ 63` iterations is accepted, though the decay is
consistent. -/
theorem not_parse_agrees_large : (decay 0x8000000000000000).IsPlain ∧
    (∃ sections text, (decay 0x8000000000000000).WrittenIn sections ∧
      Document.Writes (sections.flatMap WrittenSection.statements) (String.toList text)) ∧
    ∃ built, (decay 0x8000000000000000).build = .ok built ∧ built.model.validate = .ok () ∧
      built.horizon.validate = .ok () ∧ built.settings.validate = .ok () ∧
      ∀ sections text, (decay 0x8000000000000000).WrittenIn sections →
        Document.Writes (sections.flatMap WrittenSection.statements) (String.toList text) →
          ¬ ∃ read, parse text = .ok read := by
  obtain ⟨model, horizon, settings⟩ := decay_validate 0x8000000000000000
  refine ⟨decay_isPlain _, decay_exists_writes _, _, decay_build _, model, horizon, settings, ?_⟩
  rintro sections text written writes ⟨read, succeeded⟩
  exact parse_ne_ok_of_large rfl le_rfl written writes read succeeded

end Problem

end MultipleShooting
