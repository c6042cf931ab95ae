/-
**The text of an expression.**

Every binary operation stands in parentheses with a blank on either side of its sign, and every
function is followed by its argument in parentheses. Constants are written by `DecimalText.write`.
-/
import MultipleShooting.Expr.Basic
import MultipleShooting.Decimal.Text

namespace MultipleShooting

/-- The sign of an operation. -/
def BinaryOp.sign : BinaryOp → Char
  | add => '+'
  | sub => '-'
  | mul => '*'
  | div => '/'
  | pow => '^'

/-- The name of a function. -/
def Elementary.name : Elementary → String
  | exp => "exp"
  | ln => "ln"
  | sin => "sin"
  | cos => "cos"
  | tan => "tg"
  | arcsin => "arcsin"
  | arccos => "arccos"
  | arctan => "arctg"

namespace Expr

variable {α : Type} [DecimalText α]

/-- The characters of an expression. -/
def chars : Expr α → List Char
  | var name => name.toList
  | const value => DecimalText.write value
  | binary op left right =>
    '(' :: (left.chars ++ ' ' :: op.sign :: ' ' :: (right.chars ++ [')']))
  | apply function argument => function.name.toList ++ '(' :: (argument.chars ++ [')'])

/-- The text of an expression. -/
def text (expr : Expr α) : String := String.ofList expr.chars

end Expr

end MultipleShooting
