/-
**Log levels.**

How much a run reports, by word, in any case. Two words ask for silence.
-/
import MultipleShooting.Text.LowerCase
import MultipleShooting.Failure

namespace MultipleShooting

/-- How much a run reports. -/
inductive LogLevel where
  | off
  | error
  | warn
  | info
  | debug
  | trace
deriving Repr, DecidableEq

/-- The level that a word asks for. -/
def LogLevel.ofWord {α : Type} (word : String) : Outcome α LogLevel :=
  match String.ofList (Text.toLower word.toList) with
  | "off" | "none" => .ok .off
  | "error" => .ok .error
  | "warn" => .ok .warn
  | "info" => .ok .info
  | "debug" => .ok .debug
  | "trace" => .ok .trace
  | other => .error (.configuration (.logLevel other))

end MultipleShooting
