import MultipleShooting.Bound
import MultipleShooting.Csv
import MultipleShooting.Decimal.Digits
import MultipleShooting.Decimal.Layout
import MultipleShooting.Decimal.Reading
import MultipleShooting.Decimal.Text
import MultipleShooting.Document.Basic
import MultipleShooting.Document.Reader
import MultipleShooting.Document.Value
import MultipleShooting.Expr.Basic
import MultipleShooting.Expr.Compile
import MultipleShooting.Expr.Derivative
import MultipleShooting.Expr.Jacobian
import MultipleShooting.Expr.Parser
import MultipleShooting.Expr.Printer
import MultipleShooting.Expr.Simplify
import MultipleShooting.ExpressionProgram
import MultipleShooting.Failure
import MultipleShooting.Horizon
import MultipleShooting.Interval
import MultipleShooting.Layout
import MultipleShooting.Linear.Compressed
import MultipleShooting.Linear.Dense
import MultipleShooting.Linear.Elimination
import MultipleShooting.LogLevel
import MultipleShooting.Main
import MultipleShooting.Model.Basic
import MultipleShooting.Model.Dynamics
import MultipleShooting.Nlp
import MultipleShooting.Nlp.Draft
import MultipleShooting.Number.Basic
import MultipleShooting.Number.Double
import MultipleShooting.Problem
import MultipleShooting.Proofs.Bound
import MultipleShooting.Proofs.Bound.Double
import MultipleShooting.Proofs.Decimal.Digits
import MultipleShooting.Proofs.Decimal.Nearest
import MultipleShooting.Proofs.Decimal.Plain
import MultipleShooting.Proofs.Decimal.ReadBack
import MultipleShooting.Proofs.Decimal.Reading
import MultipleShooting.Proofs.Decimal.Shortest
import MultipleShooting.Proofs.Document.Comments
import MultipleShooting.Proofs.Document.Lines
import MultipleShooting.Proofs.Document.Meaning
import MultipleShooting.Proofs.Document.Merging
import MultipleShooting.Proofs.Document.Reading
import MultipleShooting.Proofs.Document.Remaining
import MultipleShooting.Proofs.Document.Typed
import MultipleShooting.Proofs.Document.Writing
import MultipleShooting.Proofs.Expr.Compile
import MultipleShooting.Proofs.Expr.Completeness
import MultipleShooting.Proofs.Expr.Derivative
import MultipleShooting.Proofs.Expr.Ends
import MultipleShooting.Proofs.Expr.Evaluation
import MultipleShooting.Proofs.Expr.Grammar
import MultipleShooting.Proofs.Expr.Jacobian
import MultipleShooting.Proofs.Expr.Parser
import MultipleShooting.Proofs.Expr.RoundTrip
import MultipleShooting.Proofs.Expr.Same
import MultipleShooting.Proofs.Expr.Simplify
import MultipleShooting.Proofs.Expr.Soundness
import MultipleShooting.Proofs.Expr.Symbols
import MultipleShooting.Proofs.Expr.Token
import MultipleShooting.Proofs.Expr.Value
import MultipleShooting.Proofs.Expr.Variables
import MultipleShooting.Proofs.Interval.Affine
import MultipleShooting.Proofs.Interval.Agreement
import MultipleShooting.Proofs.Interval.Checks
import MultipleShooting.Proofs.Interval.Derivative
import MultipleShooting.Proofs.Interval.Exact
import MultipleShooting.Proofs.Interval.Finite
import MultipleShooting.Proofs.Interval.Quadrature
import MultipleShooting.Proofs.Interval.Refinement
import MultipleShooting.Proofs.Layout
import MultipleShooting.Proofs.Layout.Tiling
import MultipleShooting.Proofs.Linear.Compressed
import MultipleShooting.Proofs.Linear.Double
import MultipleShooting.Proofs.Linear.Elimination
import MultipleShooting.Proofs.Linear.Entries
import MultipleShooting.Proofs.Linear.Gradient
import MultipleShooting.Proofs.Linear.Polynomial
import MultipleShooting.Proofs.Linear.Real
import MultipleShooting.Proofs.Linear.Rows
import MultipleShooting.Proofs.Model.Acceptance
import MultipleShooting.Proofs.Model.Dynamics
import MultipleShooting.Proofs.Model.Polynomial
import MultipleShooting.Proofs.Model.Same
import MultipleShooting.Proofs.Model.Validation
import MultipleShooting.Proofs.Nlp
import MultipleShooting.Proofs.Nlp.Violation
import MultipleShooting.Proofs.Number.Difference
import MultipleShooting.Proofs.Number.Double
import MultipleShooting.Proofs.Number.Order
import MultipleShooting.Proofs.Number.Packing
import MultipleShooting.Proofs.Number.Real
import MultipleShooting.Proofs.Number.Rounding
import MultipleShooting.Proofs.Number.Sign
import MultipleShooting.Proofs.Outcome
import MultipleShooting.Proofs.Problem.Agreement
import MultipleShooting.Proofs.Problem.Sections
import MultipleShooting.Proofs.Problem.Specification
import MultipleShooting.Proofs.Shooting.Agreement
import MultipleShooting.Proofs.Shooting.Derivative
import MultipleShooting.Proofs.Shooting.Entries
import MultipleShooting.Proofs.Shooting.Evaluation
import MultipleShooting.Proofs.Shooting.Exact
import MultipleShooting.Proofs.Shooting.Gradient
import MultipleShooting.Proofs.Shooting.Locality
import MultipleShooting.Proofs.Shooting.Location
import MultipleShooting.Proofs.Shooting.Places
import MultipleShooting.Proofs.Shooting.Quadratic
import MultipleShooting.Proofs.Shooting.Rollout
import MultipleShooting.Proofs.Shooting.Totality
import MultipleShooting.Proofs.Shooting.Transcription
import MultipleShooting.Proofs.Solve.Delivery
import MultipleShooting.Proofs.Sqp.Curvature
import MultipleShooting.Proofs.Sqp.Descent
import MultipleShooting.Proofs.Sqp.Failures
import MultipleShooting.Proofs.Sqp.Finite
import MultipleShooting.Proofs.Sqp.Guarantees
import MultipleShooting.Proofs.Sqp.Hessian
import MultipleShooting.Proofs.Sqp.Kkt
import MultipleShooting.Proofs.Sqp.Optimality
import MultipleShooting.Proofs.Sqp.Quadratic
import MultipleShooting.Proofs.Sqp.Run
import MultipleShooting.Proofs.Sqp.Search
import MultipleShooting.Proofs.Sqp.Settings
import MultipleShooting.Proofs.Text.Blank
import MultipleShooting.Proofs.Text.Rule
import MultipleShooting.Proofs.Trajectory
import MultipleShooting.Proofs.Trajectory.Recovery
import MultipleShooting.Reactor
import MultipleShooting.Shooting
import MultipleShooting.Solve
import MultipleShooting.Sqp.Settings
import MultipleShooting.Sqp.Solver
import MultipleShooting.Text.Blank
import MultipleShooting.Text.CaseIgnorable
import MultipleShooting.Text.Cased
import MultipleShooting.Text.CodeRange
import MultipleShooting.Text.Lines
import MultipleShooting.Text.LowerCase
import MultipleShooting.Text.Pieces
import MultipleShooting.Text.Printable
import MultipleShooting.Text.Quoted
import MultipleShooting.Text.Rule
import MultipleShooting.Trajectory
import MultipleShooting.Proofs.Expr.NormalForm
import MultipleShooting.Proofs.Expr.Partials
import MultipleShooting.Proofs.Csv
import MultipleShooting.Proofs.Trajectory.Table
import MultipleShooting.Proofs.Interval.Composition
import MultipleShooting.Proofs.Linear.Partial
import MultipleShooting.Proofs.Interval.Splitting
