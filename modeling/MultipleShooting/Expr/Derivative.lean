/-
**Symbolic derivatives.**

Sum, product, quotient and chain rule for one variable. The derivative of a power has its second
term, with the logarithm of the base, only when the exponent mentions the variable. The result is
not simplified.
-/
import MultipleShooting.Expr.Basic

namespace MultipleShooting

namespace Expr

variable {α : Type} [Number α]

/-- The derivative of an elementary function at its argument, times that of the argument. -/
def chainRule (function : Elementary) (argument inner : Expr α) : Expr α :=
  let square := binary .pow argument (const 2.0)
  let root := binary .pow (binary .sub (const 1) square) (const 0.5)
  match function with
  | .exp => binary .mul (apply .exp argument) inner
  | .ln => binary .div inner argument
  | .sin => binary .mul (apply .cos argument) inner
  | .cos => binary .mul (apply .sin argument).negated inner
  | .tan =>
    binary .mul (binary .div (const 1) (binary .pow (apply .cos argument) (const 2.0))) inner
  | .arcsin => binary .div inner root
  | .arccos => binary .div inner.negated root
  | .arctan => binary .div inner (binary .add (const 1) square)

/-- The derivative with respect to a variable. -/
def derivative (name : String) : Expr α → Expr α
  | var other => if other = name then const 1 else const 0
  | const _ => const 0
  | binary .add left right => binary .add (left.derivative name) (right.derivative name)
  | binary .sub left right => binary .sub (left.derivative name) (right.derivative name)
  | binary .mul left right =>
    binary .add (binary .mul (left.derivative name) right)
      (binary .mul left (right.derivative name))
  | binary .div left right =>
    binary .div
      (binary .sub (binary .mul (left.derivative name) right)
        (binary .mul (right.derivative name) left))
      (binary .mul right right)
  | binary .pow base exponent =>
    let reduced := binary .pow base (binary .sub exponent (const 1))
    let baseTerm := binary .mul (binary .mul exponent reduced) (base.derivative name)
    if exponent.mentions name then
      binary .add baseTerm
        (binary .mul (binary .mul (binary .pow base exponent) (apply .ln base))
          (exponent.derivative name))
    else baseTerm
  | apply function argument => chainRule function argument (argument.derivative name)

end Expr

end MultipleShooting
