/-
**Problem documents.**

A problem is an optimal control model with everything that is needed to solve it. It is written as a
document with the sections `model`, `bounds`, `guess`, `shooting` and `solver`, of which `model` and
`shooting` are mandatory. What is left out has its standard value: no bounds, a guess of zeros, no
terminal link, the standard settings.

* `Problem.ofDocument`: the problem of a document, not yet validated;
* `Problem.parse`: the problem of a text, model, horizon and settings having been validated in this
  order.
-/
import MultipleShooting.Document.Reader
import MultipleShooting.Horizon
import MultipleShooting.Model.Basic
import MultipleShooting.Number.Double
import MultipleShooting.Sqp.Settings

namespace MultipleShooting

/-- A problem with the settings of its solver and the level of its log. -/
structure Problem (α : Type) where
  model : Model α
  horizon : Horizon α
  settings : SqpSettings α
  logLevel : Option String

/-! ### Typed access to a section -/

/-- A section of a problem's document under its title; a section that is left out has no keys. -/
structure ProblemSection where
  title : String
  entries : Section

namespace ProblemSection

/-- The section of a title, empty if there is none. -/
def ofTitle (document : Document) (title : String) : ProblemSection :=
  ⟨title, (document.find? title).getD []⟩

/-- The section of a title that has to be there. -/
def required (document : Document) (title : String) : Outcome Float ProblemSection :=
  match document.find? title with
  | some entries => .ok ⟨title, entries⟩
  | none => .error (.configuration (.missingSection title))

variable (part : ProblemSection)

/-- The values of a key, if it is there. -/
def values? (key : String) : Option (List Value) := part.entries.find? key

/-- The values of a key that has to be there. -/
def values (key : String) : Outcome Float (List Value) :=
  match part.values? key with
  | some values => .ok values
  | none => .error (.configuration (.missingKey part.title key))

/-- The failure of a key with values of another kind. -/
def badValue (key expected : String) (values : List Value) : Failure Float :=
  .configuration (.badValue part.title key expected (values.map Value.toText))

/-- The texts of the values of a key. -/
def texts (key : String) : Outcome Float (List String) :=
  (part.values key).map fun values => values.map Value.toText

/-- The only value of a key. -/
def single (key : String) (values : List Value) : Outcome Float Value :=
  match values with
  | [value] => .ok value
  | _ => .error (part.badValue key "a single value" values)

/-- The only value of a key, of the expected kind. -/
def singleAs {β : Type} (key expected : String) (read? : Value → Option β)
    (values : List Value) : Outcome Float β :=
  match part.single key values with
  | .error failure => .error failure
  | .ok value =>
    match read? value with
    | some read => .ok read
    | none => .error (part.badValue key expected values)

/-- What a reader of values makes of a key, if it is there. -/
def optional {β : Type} (key : String) (read : List Value → Outcome Float β) :
    Outcome Float (Option β) :=
  match part.values? key with
  | none => .ok none
  | some values => (read values).map some

/-- The values of a key as numbers. -/
def numbers (key : String) (values : List Value) : Outcome Float (List Float) :=
  match values.mapM Value.asFloat? with
  | some numbers => .ok numbers
  | none => .error (part.badValue key "a list of numbers" values)

/-- The only value of a key as a number. -/
def number (key : String) : List Value → Outcome Float Float :=
  part.singleAs key "a number" Value.asFloat?

/-- A natural number of at most 64 bits, if a value is one. -/
def natural? (value : Value) : Option Nat :=
  match value.asInteger? with
  | some integer => if 0 ≤ integer then some integer.toNat else none
  | none => none

/-- The only value of a key as a natural number. -/
def count (key : String) : List Value → Outcome Float Nat :=
  part.singleAs key "a non-negative integer" natural?

/-- The only value of a key as a truth value. -/
def flag (key : String) : List Value → Outcome Float Bool :=
  part.singleAs key "true or false" Value.asBoolean?

end ProblemSection

namespace Problem

/-! ### Sections -/

/-- The model of the sections `model`, `bounds` and `guess`. -/
def readModel (document : Document) : Outcome Float (Model Float) := do
  let entries ← ProblemSection.required document "model"
  let states ← entries.texts "states"
  let controls := ((entries.values? "controls").getD []).map Value.toText
  let dynamics ← entries.texts "ode"
  let cost ← entries.single "cost" (← entries.values "cost")
  let initial ← entries.texts "init"
  let model ← Model.ofTexts states controls dynamics cost.toText initial
  let bounds := ProblemSection.ofTitle document "bounds"
  let boundsOf (key : String) : Outcome Float (Option (List (Bound Float))) := do
    let numbers ← bounds.optional key (bounds.numbers key)
    return numbers.map fun values => values.map Bound.ofNumber
  let stateLower ← boundsOf "lb_x"
  let stateUpper ← boundsOf "ub_x"
  let controlLower ← boundsOf "lb_u"
  let controlUpper ← boundsOf "ub_u"
  let guess := ProblemSection.ofTitle document "guess"
  let stateGuess ← guess.optional "x0" (guess.numbers "x0")
  let controlGuess ← guess.optional "u0" (guess.numbers "u0")
  let revision : Model.Revision Float :=
    ⟨stateLower, stateUpper, controlLower, controlUpper, stateGuess, controlGuess⟩
  return revision.apply model

/-- The horizon of the section `shooting`. -/
def readHorizon (document : Document) : Outcome Float (Horizon Float) := do
  let entries ← ProblemSection.required document "shooting"
  let finalTime ← entries.number "tf" (← entries.values "tf")
  let intervals ← entries.count "nk" (← entries.values "nk")
  let substeps ← entries.count "nj" (← entries.values "nj")
  let standard := Horizon.ofSizes finalTime intervals substeps
  let link ← entries.optional "link_terminal_state" (entries.flag "link_terminal_state")
  let parallel ← entries.optional "parallel" (entries.flag "parallel")
  return { standard with
    terminalLink := link.getD standard.terminalLink
    parallel := parallel.getD standard.parallel }

/-- Settings and log level of the section `solver`. -/
def readSolver (document : Document) : Outcome Float (SqpSettings Float × Option String) := do
  let entries := ProblemSection.ofTitle document "solver"
  let tolerance ← entries.optional "tolerance" (entries.number "tolerance")
  let maxIterations ← entries.optional "max_iterations" (entries.count "max_iterations")
  let hessianStep ← entries.optional "hessian_step" (entries.number "hessian_step")
  let regularization ← entries.optional "regularization" (entries.number "regularization")
  let meritPenalty ← entries.optional "merit_penalty" (entries.number "merit_penalty")
  let logLevel ← entries.optional "loglevel" (entries.single "loglevel")
  let revision : SqpSettings.Revision Float :=
    ⟨tolerance, maxIterations, hessianStep, regularization, meritPenalty⟩
  return (revision.apply SqpSettings.standard, logLevel.map Value.toText)

/-! ### Documents -/

/-- The problem of a document. -/
def ofDocument (document : Document) : Outcome Float (Problem Float) := do
  let model ← readModel document
  let horizon ← readHorizon document
  let (settings, logLevel) ← readSolver document
  return ⟨model, horizon, settings, logLevel⟩

/-- Accepts a problem whose model, horizon and settings are consistent. -/
def validate {α : Type} [Number α] (problem : Problem α) : Outcome α Unit := do
  problem.model.validate
  problem.horizon.validate
  problem.settings.validate

/-- The consistent problem of a text. -/
def parse (text : String) : Outcome Float (Problem Float) :=
  match Document.parse text with
  | .error fault => .error (.unparsable "task document" fault.message)
  | .ok document => do
    let problem ← ofDocument document
    problem.validate
    return problem

end Problem

end MultipleShooting
