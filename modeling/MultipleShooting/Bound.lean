/-
**Bounds of a variable.**

A bound is a number or one of the two infinities, and an infinite bound excludes nothing. Keeping
the infinities apart from the numbers gives bounds a meaning in an arithmetic that has none.

* `Bound.raise`, `Bound.lower`: the nearest value on the allowed side of a lower or an upper bound;
* `Bound.clamp`: both, the lower bound first.
-/
import MultipleShooting.Number.Basic
import MultipleShooting.Decimal.Text

namespace MultipleShooting

/-- A bound: a number or an infinity. -/
inductive Bound (α : Type) where
  | minusInfinity
  | limit (value : α)
  | plusInfinity
deriving Repr, DecidableEq

namespace Bound

variable {α : Type} [Number α]

/-- The bound that a number with infinities stands for. -/
def ofNumber (value : α) : Bound α :=
  if Number.isFinite value || Number.isNaN value then limit value
  else if value < 0 then minusInfinity
  else plusInfinity

/-- The bound as a number with infinities. -/
def toNumber : Bound α → α
  | minusInfinity => -Number.infinity
  | limit value => value
  | plusInfinity => Number.infinity

/-- Whether the bound is no number at all. -/
def isNaN : Bound α → Bool
  | limit value => Number.isNaN value
  | _ => false

/-- Whether a lower bound is above an upper bound. -/
def exceeds : (lower upper : Bound α) → Bool
  | minusInfinity, _ => false
  | _, plusInfinity => false
  | limit lower, limit upper => upper < lower
  | limit value, minusInfinity => !isNaN (limit value)
  | plusInfinity, limit value => !isNaN (limit value)
  | plusInfinity, minusInfinity => true

/-- Whether a lower and an upper bound leave no room or one of them is no number. -/
def crossed (lower upper : Bound α) : Bool := lower.isNaN || upper.isNaN || lower.exceeds upper

/-- Whether an ordinary number is below a lower bound. -/
def isAbove (lower : Bound α) (value : α) : Bool :=
  match lower with
  | minusInfinity => false
  | limit bound => value < bound
  | plusInfinity => true

/-- Whether an ordinary number is above an upper bound. -/
def isBelow (upper : Bound α) (value : α) : Bool :=
  match upper with
  | minusInfinity => true
  | limit bound => bound < value
  | plusInfinity => false

/-- Whether a value is at or below a lower bound. -/
def reachedFromAbove (lower : Bound α) (value : α) : Bool :=
  match lower with
  | minusInfinity => !Number.isFinite value && value < 0
  | limit bound => value ≤ bound
  | plusInfinity => !Number.isNaN value

/-- Whether a value is at or above an upper bound. -/
def reachedFromBelow (upper : Bound α) (value : α) : Bool :=
  match upper with
  | minusInfinity => !Number.isNaN value
  | limit bound => bound ≤ value
  | plusInfinity => !Number.isFinite value && 0 < value

/-- The nearest value that is not below a lower bound; a value that is no number or equals the
bound becomes the bound. -/
def raise (lower : Bound α) (value : α) : α :=
  match lower with
  | minusInfinity => if Number.isNaN value then -Number.infinity else value
  | limit bound => Number.larger value bound
  | plusInfinity => Number.infinity

/-- The nearest value that is not above an upper bound; a value that is no number or equals the
bound becomes the bound. -/
def lower (upper : Bound α) (value : α) : α :=
  match upper with
  | minusInfinity => -Number.infinity
  | limit bound => Number.smaller value bound
  | plusInfinity => if Number.isNaN value then Number.infinity else value

/-- The nearest value between two bounds. -/
def clamp (lower upper : Bound α) (value : α) : α := upper.lower (lower.raise value)

/-- The text of a bound. -/
def text [DecimalText α] : Bound α → String
  | minusInfinity => "-inf"
  | limit value => DecimalText.text value
  | plusInfinity => "inf"

end Bound

end MultipleShooting
