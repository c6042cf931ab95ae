/-
**The arithmetic that models, integrators and solvers are written over.**

Every numerical definition of the library is generic in `Number α`. The class names the operations
and asks no law of them, so a fact proved for every `Number` holds of doubles with their infinities
and NaNs as well as of the real numbers.

* `isNaN`, `larger`, `smaller`: the choice of a maximum or minimum drops an operand that is no
  number, and of two equal ones, such as zeros of different sign, it takes the second.
* `binaryPow`, `integerPow`: powers with an integer exponent by repeated squaring, one reciprocal at
  the end for a negative exponent.
-/

namespace MultipleShooting

/-- The operations that models and solvers need of their numbers; none of them has to obey a law. -/
class Number (α : Type) extends Zero α, One α, Add α, Sub α, Mul α, Div α, Neg α, LE α, LT α,
    BEq α, NatCast α, OfScientific α where
  /-- Comparisons can be decided. -/
  leDecidable : (left right : α) → Decidable (left ≤ right)
  /-- Strict comparisons can be decided. -/
  ltDecidable : (left right : α) → Decidable (left < right)
  /-- The magnitude. -/
  abs : α → α
  /-- Whether a value is an ordinary number, neither infinite nor undefined. -/
  isFinite : α → Bool
  /-- The value beyond all others, in an arithmetic that has one. -/
  infinity : α
  /-- The general power. -/
  pow : α → α → α
  exp : α → α
  log : α → α
  sin : α → α
  cos : α → α
  tan : α → α
  arcsin : α → α
  arccos : α → α
  arctan : α → α
  /-- The integer that a value is, if it is one of magnitude at most `2147483647`. -/
  toExponent? : α → Option Int

namespace Number

variable {α : Type} [Number α]

instance (left right : α) : Decidable (left ≤ right) := Number.leDecidable left right

instance (left right : α) : Decidable (left < right) := Number.ltDecidable left right

/-- A value that differs from itself is no number. -/
def isNaN (value : α) : Bool := !(value == value)

/-- The larger of two values, the second of two equal ones; an operand that is no number is
dropped. -/
def larger (left right : α) : α :=
  if isNaN left then right else if isNaN right then left else if right < left then left else right

/-- The smaller of two values, the second of two equal ones; an operand that is no number is
dropped. -/
def smaller (left right : α) : α :=
  if isNaN left then right else if isNaN right then left else if left < right then left else right

/-- `factor * base ^ exponent`, squaring the base once for every binary digit of the exponent. -/
def binaryPow (base : α) (exponent : Nat) (factor : α) : α :=
  if exponent = 0 then factor
  else
    binaryPow (base * base) (exponent / 2) (if exponent % 2 = 1 then factor * base else factor)
termination_by exponent
decreasing_by omega

/-- A power with an integer exponent; a negative one takes the reciprocal at the end. -/
def integerPow (base : α) (exponent : Int) : α :=
  let magnitude := binaryPow base exponent.natAbs 1
  if exponent < 0 then 1 / magnitude else magnitude

end Number

end MultipleShooting
