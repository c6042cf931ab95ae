/-
**Evaluating expressions.**

An expression is compiled once over a list of argument names; evaluating it then only reads
arguments by position. A name stands for its first position in the list.

* `Expr.compile`: the compiled expression, or the first variable, read from left to right, that is
  no argument;
* a power whose exponent is a constant integer of moderate size is computed by repeated squaring,
  any other by the general power.
-/
import MultipleShooting.Expr.Basic

namespace MultipleShooting

/-- A compiled expression over `n` arguments. -/
abbrev Compiled (α : Type) (n : Nat) := Vector α n → α

/-- A variable that is not among the arguments. -/
structure UnknownVariable where
  name : String
  arguments : List String
deriving Repr, DecidableEq

/-- The wording of an unknown variable. -/
def UnknownVariable.message (unknown : UnknownVariable) : String :=
  "variable '" ++ unknown.name ++ "' is not among the function arguments [" ++
    String.intercalate ", " unknown.arguments ++ "]"

namespace Number

variable {α : Type} [Number α]

/-- A binary operation on values. -/
def applyBinary : BinaryOp → α → α → α
  | .add => (· + ·)
  | .sub => (· - ·)
  | .mul => (· * ·)
  | .div => (· / ·)
  | .pow => Number.pow

/-- An elementary function of a value. -/
def applyElementary : Elementary → α → α
  | .exp => Number.exp
  | .ln => Number.log
  | .sin => Number.sin
  | .cos => Number.cos
  | .tan => Number.tan
  | .arcsin => Number.arcsin
  | .arccos => Number.arccos
  | .arctan => Number.arctan

end Number

namespace Expr

variable {α : Type} [Number α] {n : Nat}

/-- The exponent of a power that is computed by repeated squaring. -/
def integerExponent? : Expr α → Option Int
  | const value => Number.toExponent? value
  | _ => none

/-- The expression as a function of its arguments. -/
def compile (arguments : Vector String n) : Expr α → Except UnknownVariable (Compiled α n)
  | var name =>
    match arguments.finIdxOf? name with
    | some position => .ok fun values => values.get position
    | none => .error ⟨name, arguments.toList⟩
  | const value => .ok fun _ => value
  | binary op left right =>
    match left.compile arguments with
    | .error unknown => .error unknown
    | .ok first =>
      match op, right.integerExponent? with
      | .pow, some exponent => .ok fun values => Number.integerPow (first values) exponent
      | op, _ =>
        match right.compile arguments with
        | .error unknown => .error unknown
        | .ok second => .ok fun values => Number.applyBinary op (first values) (second values)
  | apply function argument =>
    match argument.compile arguments with
    | .error unknown => .error unknown
    | .ok inner => .ok fun values => Number.applyElementary function (inner values)

/-- Several expressions as functions of the same arguments. -/
def compileAll (arguments : Vector String n) :
    List (Expr α) → Except UnknownVariable (List (Compiled α n))
  | [] => .ok []
  | expr :: others =>
    match expr.compile arguments with
    | .error unknown => .error unknown
    | .ok compiled => (compileAll arguments others).map (compiled :: ·)

end Expr

end MultipleShooting
