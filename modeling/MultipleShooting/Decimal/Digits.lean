/-
**Decimal digits of a double.**

A finite double is `± significand * 2 ^ exponent`. Its decimal forms are found in exact natural
arithmetic on that pair:

* `Dyadic.shortest`: the fewest digits that read back as the same double, and of those the nearest;
  an exact tie goes up;
* `Dyadic.nearest`: the nearest multiple of a power of ten, a tie going to the even multiple.
-/

namespace MultipleShooting

/-- The magnitude `coefficient * 10 ^ exponent`. -/
structure Decimal where
  coefficient : Nat
  exponent : Int
deriving Repr, DecidableEq

namespace Decimal

/-- The digits of the coefficient, most significant first. -/
def digits (number : Decimal) : List Char := Nat.toDigits 10 number.coefficient

/-- The power of ten of the leading digit. -/
def leading (number : Decimal) : Int := number.exponent + number.digits.length - 1

end Decimal

/-- The magnitude `significand * 2 ^ exponent` of a finite double. -/
structure Dyadic where
  significand : Nat
  exponent : Int
deriving Repr, DecidableEq

namespace Dyadic

/-- The smallest significand of a normal double, two to the 52. -/
def leastNormal : Nat := 0x10000000000000

/-- The magnitude of a finite double, read from its bits. -/
def ofDouble (value : Float) : Dyadic :=
  let bits := value.toBits.toNat
  let fraction : Nat := bits % leastNormal
  let biased : Nat := bits / leastNormal % 2048
  if biased = 0 then ⟨fraction, -1074⟩ else ⟨leastNormal + fraction, (biased : Int) - 1075⟩

/-- The number of decimal digits of a positive natural number. -/
def decimalLength (number : Nat) : Nat := (Nat.toDigits 10 number).length

/-- The power of ten of the leading decimal digit: the largest `p` with `10 ^ p ≤ value`. -/
def leading (value : Dyadic) : Int :=
  let numerator := value.significand * Nat.pow 2 value.exponent.toNat
  let denominator := Nat.pow 2 (-value.exponent).toNat
  if denominator ≤ numerator then (decimalLength (numerator / denominator) : Int) - 1
  else -(decimalLength ((denominator + numerator - 1) / numerator - 1) : Int)

/-- A double, its two halfway neighbours and the spacing of a decimal grid, in one common unit. -/
structure Scaled where
  value : Nat
  below : Nat
  above : Nat
  spacing : Nat

/-- The unit is a quarter of the last binary place over a power of ten that makes all four whole.
The spacing to the next double below is halved at a power of two. -/
def scaled (value : Dyadic) (grid : Int) : Scaled :=
  let binary := value.exponent - 2
  let unit := Nat.pow 2 binary.toNat * Nat.pow 10 (-grid).toNat
  let powerOfTwo := value.significand = leastNormal ∧ -1074 < value.exponent
  { value := 4 * value.significand * unit
    below := (4 * value.significand - if powerOfTwo then 1 else 2) * unit
    above := (4 * value.significand + 2) * unit
    spacing := Nat.pow 10 grid.toNat * Nat.pow 2 (-binary).toNat }

/-- The point of the grid `10 ^ grid` that reads back as the double and is nearest to it, if there
is one; the ends of the interval belong to it when the significand is even. -/
def hit? (value : Dyadic) (grid : Int) : Option Decimal :=
  let exact := value.scaled grid
  let even := value.significand % 2 = 0
  let lower := exact.value / exact.spacing
  let remainder := exact.value % exact.spacing
  let lowerHits := exact.below < lower * exact.spacing ∨ even ∧ exact.below = lower * exact.spacing
  let upperEnd := (lower + 1) * exact.spacing
  let upperHits := upperEnd < exact.above ∨ even ∧ upperEnd = exact.above
  if lowerHits ∧ (¬ upperHits ∨ 2 * remainder < exact.spacing) then some ⟨lower, grid⟩
  else if upperHits then some ⟨lower + 1, grid⟩
  else none

/-- The first grid with a hit among those of one, two, ... digits; after `remaining` tries the
double is rounded down on the last one. -/
def shortestFrom (value : Dyadic) (top : Int) : (remaining : Nat) → (places : Nat) → Decimal
  | 0, places =>
    let grid := top - places
    let exact := value.scaled grid
    ⟨exact.value / exact.spacing, grid⟩
  | remaining + 1, places =>
    match value.hit? (top - places) with
    | some number => number
    | none => shortestFrom value top remaining (places + 1)

/-- The fewest digits that read back as the double, and of those the nearest; a tie goes up. Ten
units of the leading place are written as one of the next. -/
def shortest (value : Dyadic) : Decimal :=
  if value.significand = 0 then ⟨0, 0⟩
  else
    let number := value.shortestFrom value.leading 17 0
    if number.coefficient = 10 then ⟨1, number.exponent + 1⟩ else number

/-- The nearest multiple of `10 ^ grid`; a tie goes to the even multiple. -/
def nearest (value : Dyadic) (grid : Int) : Decimal :=
  let exact := value.scaled grid
  let lower := exact.value / exact.spacing
  let remainder := exact.value % exact.spacing
  if 2 * remainder < exact.spacing ∨ 2 * remainder = exact.spacing ∧ lower % 2 = 0 then
    ⟨lower, grid⟩
  else ⟨lower + 1, grid⟩

/-- The nearest decimal with `places` digits after its leading one; a tie goes to the even
neighbour. -/
def nearestPlaces (value : Dyadic) (places : Nat) : Decimal :=
  let number := value.nearest (value.leading - places)
  if number.coefficient = Nat.pow 10 (places + 1) then ⟨Nat.pow 10 places, number.exponent + 1⟩
  else number

end Dyadic

end MultipleShooting
