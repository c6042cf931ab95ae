/-
**Doubles as numbers.**

The instance with which the library runs: arithmetic, comparison and elementary functions of the
64-bit binary format.
-/
import MultipleShooting.Number.Basic

namespace MultipleShooting

/-- The integer that a double is, if it is one of magnitude at most `2147483647`. -/
def doubleToExponent? (value : Float) : Option Int :=
  if value.isFinite && value.abs ≤ 2147483647.0 && value.floor == value then
    let magnitude := Int.ofNat value.abs.toUInt64.toNat
    some (if value < 0.0 then -magnitude else magnitude)
  else none

instance : Number Float where
  natCast := Float.ofNat
  leDecidable := inferInstance
  ltDecidable := inferInstance
  abs := Float.abs
  isFinite := Float.isFinite
  infinity := 1.0 / 0.0
  pow := Float.pow
  exp := Float.exp
  log := Float.log
  sin := Float.sin
  cos := Float.cos
  tan := Float.tan
  arcsin := Float.asin
  arccos := Float.acos
  arctan := Float.atan
  toExponent? := doubleToExponent?

end MultipleShooting
