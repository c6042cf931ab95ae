/-
**The parts of a problem and how they are written.**

* `Problem.Specification`: the parts of a problem, with what may be left out;
* `Problem.Specification.build`: the problem built from the parts;
* `Problem.Specification.WrittenIn`: the sections of a document write the parts, among any other
  sections and keys;
* `Problem.Specification.exists_writtenIn`: **all parts whose texts can stand in a document have
  one**.
-/
import MultipleShooting.Proofs.Document.Lines
import MultipleShooting.Proofs.Problem.Sections

namespace MultipleShooting

open Document

namespace Problem

/-! ### Parts -/

/-- The parts of a problem: names and texts of expressions, numbers, and what may be left out. -/
structure Specification where
  states : List String
  controls : Option (List String)
  dynamics : List String
  cost : String
  initial : List String
  stateLower : Option (List Float)
  stateUpper : Option (List Float)
  controlLower : Option (List Float)
  controlUpper : Option (List Float)
  stateGuess : Option (List Float)
  controlGuess : Option (List Float)
  finalTime : Float
  intervals : ℕ
  substeps : ℕ
  terminalLink : Option Bool
  parallel : Option Bool
  settings : SqpSettings.Revision Float
  logLevel : Option String

namespace Specification

variable (parts : Specification)

/-- The names of all variables. -/
def names : List String := parts.states ++ parts.controls.getD []

/-- The texts of all expressions. -/
def expressions : List String := parts.dynamics ++ parts.cost :: parts.initial

/-- The bounds and guesses that are given. -/
def revision : Model.Revision Float where
  stateLower := parts.stateLower.map (List.map Bound.ofNumber)
  stateUpper := parts.stateUpper.map (List.map Bound.ofNumber)
  controlLower := parts.controlLower.map (List.map Bound.ofNumber)
  controlUpper := parts.controlUpper.map (List.map Bound.ofNumber)
  stateGuess := parts.stateGuess
  controlGuess := parts.controlGuess

/-- The horizon, without terminal link and with parallel evaluation where nothing else is asked
for. -/
def horizon : Horizon Float where
  finalTime := parts.finalTime
  intervals := parts.intervals
  substeps := parts.substeps
  terminalLink := parts.terminalLink.getD false
  parallel := parts.parallel.getD true

/-- The problem with a model of the parts. -/
def problem (model : Model Float) : Problem Float where
  model := parts.revision.apply model
  horizon := parts.horizon
  settings := parts.settings.apply SqpSettings.standard
  logLevel := parts.logLevel

/-- The problem that is built from the parts. -/
def build : Outcome Float (Problem Float) :=
  (Model.ofTexts parts.states (parts.controls.getD []) parts.dynamics parts.cost parts.initial).map
    parts.problem

/-! ### Parts that can be written -/

/-- The words for log levels, in any case. -/
def IsLevelWord (word : String) : Prop :=
  String.ofList (word.toList.map Char.toLower) ∈
    ["off", "none", "error", "warn", "info", "debug", "trace"]

/-- Names are identifiers and texts of expressions are expressions, none of them being read as an
infinite or undefined double, and the level of the log is one of its words. -/
structure IsPlain : Prop where
  identifiers : ∀ name ∈ parts.names, Grammar.IsIdentifier name.toList
  grammatical : ∀ text ∈ parts.expressions, ∃ expr : Expr Float, Grammar.Writes text expr
  ordinary : ∀ text ∈ parts.names ++ parts.expressions, IsOrdinary text.toList
  level : ∀ word ∈ parts.logLevel, IsLevelWord word

/-- All counts fit in 64 signed bits. -/
structure HasSmallCounts : Prop where
  intervals : parts.intervals < 0x8000000000000000
  substeps : parts.substeps < 0x8000000000000000
  maxIterations : ∀ count ∈ parts.settings.maxIterations, count < 0x8000000000000000

/-- A token that writes a text. -/
def WritesText (token : List Char) (text : String) : Prop := String.ofList token = text

/-- The tokens of a list of texts. -/
def WritesTexts (tokens : List Token) (texts : List String) : Prop :=
  List.Forall₂ (fun token => WritesText token.chars) tokens texts

/-- The titles and keys of a problem's document. -/
def keys : List (Word × Word) :=
  let model := Word.ofText "model" rfl
  let bounds := Word.ofText "bounds" rfl
  let guess := Word.ofText "guess" rfl
  let shooting := Word.ofText "shooting" rfl
  let solver := Word.ofText "solver" rfl
  [(model, Word.ofText "states" rfl), (model, Word.ofText "controls" rfl),
    (model, Word.ofText "ode" rfl), (model, Word.ofText "cost" rfl),
    (model, Word.ofText "init" rfl), (bounds, Word.ofText "lb_x" rfl),
    (bounds, Word.ofText "ub_x" rfl), (bounds, Word.ofText "lb_u" rfl),
    (bounds, Word.ofText "ub_u" rfl), (guess, Word.ofText "x0" rfl),
    (guess, Word.ofText "u0" rfl), (shooting, Word.ofText "tf" rfl),
    (shooting, Word.ofText "nk" rfl), (shooting, Word.ofText "nj" rfl),
    (shooting, Word.ofText "link_terminal_state" rfl), (shooting, Word.ofText "parallel" rfl),
    (solver, Word.ofText "tolerance" rfl), (solver, Word.ofText "max_iterations" rfl),
    (solver, Word.ofText "hessian_step" rfl), (solver, Word.ofText "regularization" rfl),
    (solver, Word.ofText "merit_penalty" rfl), (solver, Word.ofText "loglevel" rfl)]

theorem nodup_keys : (keys.map fun key => (key.1.lower, key.2.lower)).Nodup := by decide

/-- The parts are written in the sections of a document, each under its key; what is left out has no
key. -/
structure WrittenIn (sections : List WrittenSection) : Prop where
  states : Option.Rel WritesTexts (tokensOf? sections "model" "states") (some parts.states)
  controls : Option.Rel WritesTexts (tokensOf? sections "model" "controls") parts.controls
  dynamics : Option.Rel WritesTexts (tokensOf? sections "model" "ode") (some parts.dynamics)
  cost : Option.Rel (WritesSingle WritesText) (tokensOf? sections "model" "cost") (some parts.cost)
  initial : Option.Rel WritesTexts (tokensOf? sections "model" "init") (some parts.initial)
  stateLower : Option.Rel WritesNumbers (tokensOf? sections "bounds" "lb_x") parts.stateLower
  stateUpper : Option.Rel WritesNumbers (tokensOf? sections "bounds" "ub_x") parts.stateUpper
  controlLower : Option.Rel WritesNumbers (tokensOf? sections "bounds" "lb_u") parts.controlLower
  controlUpper : Option.Rel WritesNumbers (tokensOf? sections "bounds" "ub_u") parts.controlUpper
  stateGuess : Option.Rel WritesNumbers (tokensOf? sections "guess" "x0") parts.stateGuess
  controlGuess : Option.Rel WritesNumbers (tokensOf? sections "guess" "u0") parts.controlGuess
  finalTime : Option.Rel (WritesSingle WritesNumber) (tokensOf? sections "shooting" "tf")
    (some parts.finalTime)
  intervals : Option.Rel (WritesSingle WritesCount) (tokensOf? sections "shooting" "nk")
    (some parts.intervals)
  substeps : Option.Rel (WritesSingle WritesCount) (tokensOf? sections "shooting" "nj")
    (some parts.substeps)
  terminalLink : Option.Rel (WritesSingle WritesFlag)
    (tokensOf? sections "shooting" "link_terminal_state") parts.terminalLink
  parallel : Option.Rel (WritesSingle WritesFlag) (tokensOf? sections "shooting" "parallel")
    parts.parallel
  tolerance : Option.Rel (WritesSingle WritesNumber) (tokensOf? sections "solver" "tolerance")
    parts.settings.tolerance
  maxIterations : Option.Rel (WritesSingle WritesCount)
    (tokensOf? sections "solver" "max_iterations") parts.settings.maxIterations
  hessianStep : Option.Rel (WritesSingle WritesNumber) (tokensOf? sections "solver" "hessian_step")
    parts.settings.hessianStep
  regularization : Option.Rel (WritesSingle WritesNumber)
    (tokensOf? sections "solver" "regularization") parts.settings.regularization
  meritPenalty : Option.Rel (WritesSingle WritesNumber)
    (tokensOf? sections "solver" "merit_penalty") parts.settings.meritPenalty
  logLevel : Option.Rel (WritesSingle WritesText) (tokensOf? sections "solver" "loglevel")
    parts.logLevel

/-! ### A document for all parts -/

/-- The texts that are written as they are. -/
def texts : List String := parts.names ++ parts.expressions ++ parts.logLevel.toList

/-- A text can stand in a document. -/
def CanStand (text : String) : Prop := ∃ token : Token, WritesText token.chars text

/-- A list that may be left out is written if its members can be. -/
theorem exists_writesList {β : Type} {writes : List Char → β → Prop} {values? : Option (List β)}
    (each : ∀ values ∈ values?, ∀ value ∈ values, ∃ token : Token, writes token.chars value) :
    ∃ tokens?, Option.Rel (List.Forall₂ fun token : Token => writes token.chars) tokens?
      values? := by
  have list (values : List β)
      (each : ∀ value ∈ values, ∃ token : Token, writes token.chars value) :
      ∃ tokens, List.Forall₂ (fun token : Token => writes token.chars) tokens values := by
    induction values with
    | nil => exact ⟨[], .nil⟩
    | cons value values ih =>
      obtain ⟨⟨token, first⟩, others⟩ := List.forall_mem_cons.mp each
      obtain ⟨tokens, rest⟩ := ih others
      exact ⟨token :: tokens, .cons first rest⟩
  cases values? with
  | none => exact ⟨none, .none⟩
  | some values =>
    obtain ⟨tokens, written⟩ := list values (each values rfl)
    exact ⟨some tokens, .some written⟩

theorem exists_writesNumbers (numbers? : Option (List Float)) :
    ∃ tokens?, Option.Rel WritesNumbers tokens? numbers? :=
  exists_writesList fun _ _ number _ => exists_writesNumber number

/-- A single value that may be left out is written if it can be. -/
theorem exists_writesSingle {β : Type} {writes : List Char → β → Prop} {value? : Option β}
    (each : ∀ value ∈ value?, ∃ token : Token, writes token.chars value) :
    ∃ tokens?, Option.Rel (WritesSingle writes) tokens? value? := by
  cases value? with
  | none => exact ⟨none, .none⟩
  | some value =>
    obtain ⟨token, written⟩ := each value rfl
    exact ⟨some [token], .some ⟨token, rfl, written⟩⟩

theorem exists_writesFlag (flag : Bool) : ∃ token : Token, WritesFlag token.chars flag := by
  cases flag with
  | true => exact ⟨.ofParts ['t', 'r', 'u', 'e'] (List.cons_ne_nil _ _) rfl, rfl⟩
  | false => exact ⟨.ofParts ['f', 'a', 'l', 's', 'e'] (List.cons_ne_nil _ _) rfl, rfl⟩

/-- **All parts whose texts can stand in a document have one.** -/
theorem exists_writtenIn (stand : ∀ text ∈ parts.texts, CanStand text) :
    ∃ sections, parts.WrittenIn sections := by
  obtain ⟨standOthers, standLevel⟩ := List.forall_mem_append.mp stand
  obtain ⟨standNames, standExpressions⟩ := List.forall_mem_append.mp standOthers
  obtain ⟨standStates, standControls⟩ := List.forall_mem_append.mp standNames
  obtain ⟨standRates, standRest⟩ := List.forall_mem_append.mp standExpressions
  obtain ⟨standCost, standStarts⟩ := List.forall_mem_cons.mp standRest
  have texts {texts : List String} (each : ∀ text ∈ texts, CanStand text) :
      ∃ tokens?, Option.Rel WritesTexts tokens? (some texts) :=
    exists_writesList fun _ among => Option.some.inj among ▸ each
  obtain ⟨states, writesStates⟩ := texts standStates
  obtain ⟨controls, writesControls⟩ : ∃ tokens?, Option.Rel WritesTexts tokens? parts.controls :=
    exists_writesList fun names among => by
      rw [Option.mem_def.mp among] at standControls
      exact standControls
  obtain ⟨rates, writesRates⟩ := texts standRates
  obtain ⟨cost, writesCost⟩ : ∃ tokens?,
      Option.Rel (WritesSingle WritesText) tokens? (some parts.cost) :=
    exists_writesSingle fun _ among => Option.some.inj among ▸ standCost
  obtain ⟨starts, writesStarts⟩ := texts standStarts
  obtain ⟨stateLower, writesStateLower⟩ := exists_writesNumbers parts.stateLower
  obtain ⟨stateUpper, writesStateUpper⟩ := exists_writesNumbers parts.stateUpper
  obtain ⟨controlLower, writesControlLower⟩ := exists_writesNumbers parts.controlLower
  obtain ⟨controlUpper, writesControlUpper⟩ := exists_writesNumbers parts.controlUpper
  obtain ⟨stateGuess, writesStateGuess⟩ := exists_writesNumbers parts.stateGuess
  obtain ⟨controlGuess, writesControlGuess⟩ := exists_writesNumbers parts.controlGuess
  have number (value? : Option Float) :
      ∃ tokens?, Option.Rel (WritesSingle WritesNumber) tokens? value? :=
    exists_writesSingle fun value _ => exists_writesNumber value
  have count (value? : Option ℕ) :
      ∃ tokens?, Option.Rel (WritesSingle WritesCount) tokens? value? :=
    exists_writesSingle fun value _ => exists_writesCount value
  have flag (value? : Option Bool) :
      ∃ tokens?, Option.Rel (WritesSingle WritesFlag) tokens? value? :=
    exists_writesSingle fun value _ => exists_writesFlag value
  obtain ⟨finalTime, writesFinalTime⟩ := number (some parts.finalTime)
  obtain ⟨intervals, writesIntervals⟩ := count (some parts.intervals)
  obtain ⟨substeps, writesSubsteps⟩ := count (some parts.substeps)
  obtain ⟨terminalLink, writesTerminalLink⟩ := flag parts.terminalLink
  obtain ⟨parallel, writesParallel⟩ := flag parts.parallel
  obtain ⟨tolerance, writesTolerance⟩ := number parts.settings.tolerance
  obtain ⟨maxIterations, writesMaxIterations⟩ := count parts.settings.maxIterations
  obtain ⟨hessianStep, writesHessianStep⟩ := number parts.settings.hessianStep
  obtain ⟨regularization, writesRegularization⟩ := number parts.settings.regularization
  obtain ⟨meritPenalty, writesMeritPenalty⟩ := number parts.settings.meritPenalty
  obtain ⟨level, writesLevel⟩ : ∃ tokens?,
      Option.Rel (WritesSingle WritesText) tokens? parts.logLevel :=
    exists_writesSingle fun word among =>
      standLevel word (Option.mem_toList.mpr among)
  let entries : List PossibleEntry := List.zipWith (fun key tokens? => ⟨key.1, key.2, tokens?⟩) keys
    [states, controls, rates, cost, starts, stateLower, stateUpper, controlLower, controlUpper,
      stateGuess, controlGuess, finalTime, intervals, substeps, terminalLink, parallel, tolerance,
      maxIterations, hessianStep, regularization, meritPenalty, level]
  have distinct : (entries.map fun entry => (entry.title.lower, entry.key.lower)).Nodup :=
    nodup_keys
  exact ⟨sectionsOf entries, {
    states := rel_sectionsOf distinct 0 rfl rfl rfl writesStates
    controls := rel_sectionsOf distinct 1 rfl rfl rfl writesControls
    dynamics := rel_sectionsOf distinct 2 rfl rfl rfl writesRates
    cost := rel_sectionsOf distinct 3 rfl rfl rfl writesCost
    initial := rel_sectionsOf distinct 4 rfl rfl rfl writesStarts
    stateLower := rel_sectionsOf distinct 5 rfl rfl rfl writesStateLower
    stateUpper := rel_sectionsOf distinct 6 rfl rfl rfl writesStateUpper
    controlLower := rel_sectionsOf distinct 7 rfl rfl rfl writesControlLower
    controlUpper := rel_sectionsOf distinct 8 rfl rfl rfl writesControlUpper
    stateGuess := rel_sectionsOf distinct 9 rfl rfl rfl writesStateGuess
    controlGuess := rel_sectionsOf distinct 10 rfl rfl rfl writesControlGuess
    finalTime := rel_sectionsOf distinct 11 rfl rfl rfl writesFinalTime
    intervals := rel_sectionsOf distinct 12 rfl rfl rfl writesIntervals
    substeps := rel_sectionsOf distinct 13 rfl rfl rfl writesSubsteps
    terminalLink := rel_sectionsOf distinct 14 rfl rfl rfl writesTerminalLink
    parallel := rel_sectionsOf distinct 15 rfl rfl rfl writesParallel
    tolerance := rel_sectionsOf distinct 16 rfl rfl rfl writesTolerance
    maxIterations := rel_sectionsOf distinct 17 rfl rfl rfl writesMaxIterations
    hessianStep := rel_sectionsOf distinct 18 rfl rfl rfl writesHessianStep
    regularization := rel_sectionsOf distinct 19 rfl rfl rfl writesRegularization
    meritPenalty := rel_sectionsOf distinct 20 rfl rfl rfl writesMeritPenalty
    logLevel := rel_sectionsOf distinct 21 rfl rfl rfl writesLevel }⟩

end Specification

end Problem

end MultipleShooting
