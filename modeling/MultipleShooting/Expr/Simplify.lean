/-
**Simplification.**

One pass from the leaves to the root folds operations on constants and drops neutral and
annihilating operands. The rules of an operation are tried in the order in which they are written,
on operands that are simplified already.
-/
import MultipleShooting.Expr.Basic

namespace MultipleShooting

namespace Expr

variable {α : Type} [Number α]

/-- A sum: constants are added, a zero is dropped. -/
def simpleSum (left right : Expr α) : Expr α :=
  match left, right with
  | const a, const b => const (a + b)
  | left, right =>
    if left.isZero then right
    else if right.isZero then left
    else binary .add left right

/-- A difference: constants are subtracted, a zero is dropped, equal operands cancel. -/
def simpleDifference (left right : Expr α) : Expr α :=
  match left, right with
  | const a, const b => const (a - b)
  | left, right =>
    if right.isZero then left
    else if left.isZero then right.negated
    else if left.same right then const 0
    else binary .sub left right

/-- A product: constants are multiplied, a zero annihilates, a one is dropped, and a constant is
joined with the constant factor of the other operand. -/
def simpleProduct (left right : Expr α) : Expr α :=
  match left, right with
  | const a, const b => const (a * b)
  | left, right =>
    if left.isZero || right.isZero then const 0
    else if left.isOne then right
    else if right.isOne then left
    else
      match left, right with
      | const a, binary .mul (const b) factor => binary .mul (const (a * b)) factor
      | left, right => binary .mul left right

/-- A quotient: constants are divided unless the divisor is zero, zero over anything but a zero is
zero, a divisor of one is dropped. -/
def simpleQuotient (left right : Expr α) : Expr α :=
  let unfolded :=
    if left.isZero && !right.isZero then const 0
    else if right.isOne then left
    else binary .div left right
  match left, right with
  | const a, const b => if b == 0 then unfolded else const (a / b)
  | _, _ => unfolded

/-- A power: constants are raised, an exponent of zero gives one, an exponent of one is dropped. -/
def simplePower (base exponent : Expr α) : Expr α :=
  match base, exponent with
  | const a, const b => const (Number.pow a b)
  | base, exponent =>
    if exponent.isZero then const 1
    else if exponent.isOne then base
    else binary .pow base exponent

/-- A binary operation on simplified operands. -/
def simpleBinary : BinaryOp → Expr α → Expr α → Expr α
  | .add => simpleSum
  | .sub => simpleDifference
  | .mul => simpleProduct
  | .div => simpleQuotient
  | .pow => simplePower

/-- A function of a simplified argument: exponential, sine, cosine and the logarithm of a positive
value are computed on constants. -/
def simpleApply (function : Elementary) (argument : Expr α) : Expr α :=
  match function, argument with
  | .exp, const a => const (Number.exp a)
  | .ln, const a => if 0 < a then const (Number.log a) else apply .ln (const a)
  | .sin, const a => const (Number.sin a)
  | .cos, const a => const (Number.cos a)
  | function, argument => apply function argument

/-- One pass of simplification from the leaves to the root. -/
def simplify : Expr α → Expr α
  | var name => var name
  | const value => const value
  | binary op left right => simpleBinary op left.simplify right.simplify
  | apply function argument => simpleApply function argument.simplify

end Expr

end MultipleShooting
