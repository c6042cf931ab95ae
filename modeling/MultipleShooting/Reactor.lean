/-
**Worked problems.**

The start-up of a continuous stirred tank reactor with a cooling jacket, in which an exothermic
reaction takes place, and a first-order tracking problem.

The states of the reactor are the concentration `c` in mol/m³ and the temperature `T` in K, its
control is the temperature `Tc` of the jacket in K. The cost draws towards (500, 320, 300) and is
scaled by 1e-4.
-/
import MultipleShooting.Solve

namespace MultipleShooting

namespace Reactor

/-- The reactor as a model. -/
def model : Outcome Float (Model Float) := do
  let unbounded ← Model.ofTexts ["c", "T"] ["Tc"]
    ["0.016667*(1000-c)-3e8*c*exp(-8750/T)",
      "0.016667*(350-T)+6.276e7*c*exp(-8750/T)+0.035*(Tc-T)"]
    "1e-4*((c-500)^2+(T-320)^2+(Tc-300)^2)" ["c-956.271065", "T-250.051971"]
  return { unbounded with
    stateLower := [.limit 0.0, .limit 200.0]
    stateUpper := [.limit 1000.0, .limit 450.0]
    controlLower := [.limit 230.0]
    controlUpper := [.limit 370.0]
    stateGuess := [956.271065, 250.051971]
    controlGuess := [280.0] }

/-- A horizon of 150 seconds in 20 intervals of 10 sub-steps. -/
def horizon : Horizon Float := Horizon.ofSizes 150.0 20 10

/-- The reactor as a problem document. -/
def document : String := "
// CSTR start-up
model
states: c, T
controls: Tc
ode: 0.016667*(1000-c)-3e8*c*exp(-8750/T), 0.016667*(350-T)+6.276e7*c*exp(-8750/T)+0.035*(Tc-T)
cost: 1e-4*((c-500)^2+(T-320)^2+(Tc-300)^2)
init: c-956.271065, T-250.051971
bounds
lb_x: 0, 200
ub_x: 1000, 450
lb_u: 230
ub_u: 370
guess
x0: 956.271065, 250.051971
u0: 280
shooting
tf: 150.0
nk: 20
nj: 10
solver
tolerance: 1e-6
max_iterations: 100
loglevel: info
"

/-- The reactor as a problem. -/
def problem : Outcome Float (Problem Float) := do
  let model ← model
  return ⟨model, horizon, { SqpSettings.standard with tolerance := 1e-6 }, none⟩

end Reactor

/-- A state that is drawn to zero from one by its control. -/
def trackingProblem : Outcome Float (Problem Float) := do
  let model ← Model.ofTexts ["x"] ["u"] ["-x+u"] "x^2+u^2" ["x-1"]
  return ⟨model, Horizon.ofSizes 1.0 10 4, SqpSettings.standard, some "info"⟩

/-- The sizes of the reactor's nonlinear program, and the largest residual at its start. -/
def reactorSizes : Outcome Float String := do
  let transcription ← transcribe Reactor.horizon (← Reactor.model)
  let constraints ← transcription.nlp.functions.constraints transcription.nlp.start
  return "nv = " ++ toString transcription.layout.size ++ ", ng = " ++
    toString transcription.shooting.rows.count ++ ", jacobian non-zeros = " ++
    toString transcription.nlp.functions.pattern.length ++ ", |g(v0)|_inf = " ++
    DecimalText.exponentialText (Column.maxNorm constraints) ++ "\n"

/-- The text that the solution of a problem shows. -/
def solvedText (problem : Outcome Float (Problem Float)) : Outcome Float String := do
  let solved ← (← problem).solve.answer
  return solved.text

/-- The text of a worked problem by its number. -/
def workedProblem : Nat → Outcome Float String
  | 0 => reactorSizes
  | 1 => solvedText trackingProblem
  | 2 => solvedText Reactor.problem
  | 3 => solvedText (Problem.parse Reactor.document)
  | number => .ok ("no example with number " ++ toString number ++ "\n")

end MultipleShooting
