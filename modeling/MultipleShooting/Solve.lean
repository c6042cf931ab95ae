/-
**Solving a problem.**

A problem is transcribed, its nonlinear program is solved, and the trajectory is read off the
solution. A run that has not converged still has a trajectory; it is never reported as a success.

* `Problem.solveWith`: the report of a run with a given solver of linear systems: its answer, the
  counts and the names of the times taken so far, and the warning of a run that was given up.
* `Problem.solve`: the report of a run with Gaussian elimination.
-/
import MultipleShooting.LogLevel
import MultipleShooting.Shooting
import MultipleShooting.Sqp.Solver
import MultipleShooting.Problem
import MultipleShooting.Trajectory

namespace MultipleShooting

variable {α : Type}

/-- A trajectory with the solution that it was read from. -/
structure Solved (α : Type) where
  trajectory : Trajectory α
  solution : NlpSolution α

namespace Solved

/-- Whether the solver converged. -/
def isConverged (solved : Solved α) : Bool := solved.solution.isConverged

/-- The trajectory of a run that converged. -/
def result (solved : Solved α) : Outcome α (Trajectory α) :=
  solved.solution.checkConverged.map fun _ => solved.trajectory

/-- A named series as a line of text. -/
def seriesLine [DecimalText α] (name : String) (values : List α) : String :=
  name ++ " = " ++ DecimalText.listText values ++ "\n"

/-- The lines of text that show a solved problem: every series, and the objective. -/
def text [DecimalText α] (solved : Solved α) : String :=
  let trajectory := solved.trajectory
  String.join (List.zipWith seriesLine trajectory.stateNames trajectory.states) ++
    String.join (List.zipWith seriesLine trajectory.controlNames trajectory.controls) ++
    "converged: " ++ (if solved.isConverged then "true" else "false") ++ ", objective " ++
    DecimalText.exponentialText solved.solution.objective ++ "\n"

end Solved

/-- What is known after a run, whether it had an answer or not. -/
structure Report (α : Type) where
  answer : Outcome α (Solved α)
  counts : List (String × Nat)
  /-- The names of the times that were taken. -/
  timers : List String
  warning? : Option String

namespace Report

/-- The report of a run that failed before anything was counted. -/
def failed (failure : Failure α) : Report α := ⟨.error failure, [], [], none⟩

end Report

namespace Problem

variable [Number α]

/-- The level of the log; a problem that names none reports its progress. -/
def level (problem : Problem α) : Outcome α LogLevel :=
  match problem.logLevel with
  | some word => LogLevel.ofWord word
  | none => .ok .info

/-- The counts of a transcribed problem. -/
def countsOf (transcription : Transcription α) : List (String × Nat) :=
  [("number of decision variables", transcription.layout.size),
    ("number of constraints", transcription.shooting.rows.count),
    ("non-zeros in constraint jacobian", transcription.nlp.functions.pattern.length)]

/-- The solution of a transcribed problem with its trajectory, reported together. -/
def solveTranscribed (linear : LinearSolver α) (problem : Problem α)
    (transcription : Transcription α) : Report α :=
  let counts := countsOf transcription
  let timers := ["transcription time, s"]
  match Sqp.solveWith linear problem.settings transcription.nlp with
  | .error failure => ⟨.error failure, counts, timers, none⟩
  | .ok run =>
    let counts := counts ++ [("NLP iterations", run.solution.iterations)]
    let timers := timers ++ ["NLP solver time, s"]
    match Trajectory.ofVector transcription.layout run.solution.point transcription.duration
        problem.model.states problem.model.controls with
    | .error failure => ⟨.error failure, counts, timers, run.warning?⟩
    | .ok trajectory =>
      ⟨.ok ⟨trajectory, run.solution⟩, counts, timers ++ ["total time, s"], run.warning?⟩

/-- The report of a run with any solver of linear systems. The word for the log level is checked
before anything else. -/
def solveWith (linear : LinearSolver α) (problem : Problem α) : Report α :=
  match problem.level with
  | .error failure => .failed failure
  | .ok _ =>
    match transcribe problem.horizon problem.model with
    | .error failure => .failed failure
    | .ok transcription => problem.solveTranscribed linear transcription

/-- The report of a run that solves its linear systems by Gaussian elimination. -/
def solve (problem : Problem α) : Report α := problem.solveWith fun _ => Elimination.solve

end Problem

/-- A solved problem document: the solution, the text that shows it and the table of its
trajectory. -/
structure DocumentAnswer where
  solved : Solved Float
  shown : String
  table : String

/-- The answer of the problem that a document describes. -/
def runDocument (text : String) : Outcome Float DocumentAnswer := do
  let problem ← Problem.parse text
  let solved ← problem.solve.answer
  let table ← solved.trajectory.csvText
  return ⟨solved, solved.text, table⟩

end MultipleShooting
