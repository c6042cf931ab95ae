/-
**Expressions of a model.**

A right-hand side, a running cost or an initial condition is an `Expr`: a tree of named variables,
constants, five binary operations and eight elementary functions.

* `Expr.same`: equality of trees in which constants are compared as numbers, so that a constant that
  is no number differs from itself and the two zeros are the same;
* `Expr.mentions`, `Expr.variableNames`: which variables occur, and the list of them in order of
  name without repetition;
* `Expr.nodes`: the expression and all its parts;
* `Expr.symbols`: the variables named by a list with commas.
-/
import MultipleShooting.Number.Basic
import MultipleShooting.Text.Blank

namespace MultipleShooting

/-- The operations with two operands. -/
inductive BinaryOp where
  | add
  | sub
  | mul
  | div
  | pow
deriving Repr, DecidableEq

/-- The elementary functions. -/
inductive Elementary where
  | exp
  | ln
  | sin
  | cos
  | tan
  | arcsin
  | arccos
  | arctan
deriving Repr, DecidableEq

/-- An expression in named variables with constants in `α`. -/
inductive Expr (α : Type) where
  | var (name : String)
  | const (value : α)
  | binary (op : BinaryOp) (left right : Expr α)
  | apply (function : Elementary) (argument : Expr α)
deriving Repr

/-- A name added to an ordered list of distinct names. -/
def insertName (name : String) : List String → List String
  | [] => [name]
  | first :: others =>
    if name = first then first :: others
    else if name < first then name :: first :: others
    else first :: insertName name others

namespace Expr

variable {α : Type}

/-- Equality of trees with constants compared as numbers. -/
def same [BEq α] : Expr α → Expr α → Bool
  | var left, var right => left == right
  | const left, const right => left == right
  | binary op left right, binary op' left' right' =>
    op == op' && left.same left' && right.same right'
  | apply function argument, apply function' argument' =>
    function == function' && argument.same argument'
  | _, _ => false

/-- Whether a variable occurs. -/
def mentions (name : String) : Expr α → Bool
  | var other => other == name
  | const _ => false
  | binary _ left right => left.mentions name || right.mentions name
  | apply _ argument => argument.mentions name

/-- The variables in the order in which they are written, repeated as often as they occur. -/
def occurrences : Expr α → List String
  | var name => [name]
  | const _ => []
  | binary _ left right => left.occurrences ++ right.occurrences
  | apply _ argument => argument.occurrences

/-- The expression and all its parts. -/
def nodes : Expr α → List (Expr α)
  | var name => [var name]
  | const value => [const value]
  | binary op left right => binary op left right :: (left.nodes ++ right.nodes)
  | apply function argument => apply function argument :: argument.nodes

/-- The variables in order of name, each of them once. -/
def variableNames (expr : Expr α) : List String := expr.occurrences.foldr insertName []

/-- Whether an expression is the constant zero. -/
def isZero [Number α] : Expr α → Bool
  | const value => value == 0
  | _ => false

/-- Whether an expression is the constant one. -/
def isOne [Number α] : Expr α → Bool
  | const value => value == 1
  | _ => false

/-- The negative, written as a product with minus one. -/
def negated [Number α] (expr : Expr α) : Expr α := binary .mul (const (-1)) expr

end Expr

/-- The parts of a text between commas. -/
def splitAtCommas (text : List Char) : List (List Char) :=
  text.foldr
    (fun char parts =>
      if char = ',' then [] :: parts
      else
        match parts with
        | [] => [[char]]
        | part :: others => (char :: part) :: others)
    [[]]

/-- The names between commas without the blanks around them; empty ones are left out. -/
def symbolNames (text : String) : List String :=
  (((splitAtCommas text.toList).map Text.trim).filter (· ≠ [])).map String.ofList

/-- The variables named by a list with commas. -/
def Expr.symbols {α : Type} (text : String) : List (Expr α) := (symbolNames text).map Expr.var

end MultipleShooting
