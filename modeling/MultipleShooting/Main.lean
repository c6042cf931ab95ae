/-
**The command line.**

With the path of a problem document the problem is solved, its trajectory is written beside the
document as a table, and the solution is shown. Without a path the start-up of the reactor is solved
and shown. A failure is told on the error stream, and the exit code is then one.
-/
import MultipleShooting.Reactor

namespace MultipleShooting

namespace CommandLine

/-- The name of a file, in reverse, without its extension: what follows its last dot, unless nothing
stands before that dot. -/
def dropExtension (reversed : List Char) : List Char :=
  match (reversed.takeWhile (· ≠ '/')).dropWhile (· ≠ '.') with
  | '.' :: stem@(_ :: _) => stem ++ reversed.dropWhile (· ≠ '/')
  | _ => reversed

/-- The path of the table that belongs to a document. -/
def tablePath (path : String) : String :=
  String.ofList (dropExtension path.toList.reverse).reverse ++ ".csv"

/-- The failure of a file that cannot be read or written. -/
def fileFailure (error : IO.Error) : Failure Float :=
  match error with
  | .noFileOrDirectory _ _ _ => .missingFile
  | other => .io (toString other)

/-- Solves the problem of a document file, writes its table and shows its solution. -/
def solveFile (path : String) : IO (Except String Unit) := do
  match ← (IO.FS.readFile path).toBaseIO with
  | .error error => return .error (fileFailure error).message
  | .ok text =>
    match runDocument text with
    | .error failure => return .error failure.message
    | .ok answer =>
      match ← (IO.FS.writeFile (tablePath path) answer.table).toBaseIO with
      | .error error => return .error (fileFailure error).message
      | .ok _ =>
        IO.print answer.shown
        return .ok ()

/-- Shows the start-up of the reactor. -/
def showReactor : IO (Except String Unit) := do
  match workedProblem 2 with
  | .error failure => return .error failure.message
  | .ok text =>
    IO.print text
    return .ok ()

/-- Runs the command and gives its exit code. -/
def run (arguments : List String) : IO UInt32 := do
  let outcome ← match arguments with
    | path :: _ => solveFile path
    | [] => showReactor
  match outcome with
  | .ok _ => return 0
  | .error message =>
    IO.eprintln ("error: " ++ message)
    return 1

end CommandLine

end MultipleShooting

/-- The command line of the library. -/
def main (arguments : List String) : IO UInt32 := MultipleShooting.CommandLine.run arguments
