/-
**How a decimal is written.**

A layout says which powers of ten are written positionally and whether a whole number keeps a
point. The library writes doubles in three ways:

* `plain`: never with an exponent, `1`, `0.0001`, `300000000`;
* `listed`: with a point or an exponent, `1.0`, `1e16`, `1.5e-5`, as numbers stand in a list;
* `exponential`: always with an exponent, `0e0`, `9.5e2`.

Values that are no ordinary number are `NaN`, `inf` and `-inf` in every layout, and the minus sign
of a zero is kept.
-/
import MultipleShooting.Decimal.Digits

namespace MultipleShooting

namespace Decimal

/-- Digits with the point placed by the exponent, padded with zeros on either side of it. -/
def positional (number : Decimal) : List Char :=
  let digits := number.digits
  if 0 ≤ number.exponent then digits ++ List.replicate number.exponent.toNat '0'
  else
    let places := (-number.exponent).toNat
    if places < digits.length then
      digits.take (digits.length - places) ++ '.' :: digits.drop (digits.length - places)
    else '0' :: '.' :: (List.replicate (places - digits.length) '0' ++ digits)

/-- One digit, the others after a point, and the power of ten of the first. -/
def withPower (power : Int) (digits : List Char) : List Char :=
  let mark := 'e' :: (toString power).toList
  match digits with
  | first :: second :: others => first :: '.' :: second :: (others ++ mark)
  | digits => digits ++ mark

/-- The digits of a decimal with the power of ten of the first. -/
def scientific (number : Decimal) : List Char := withPower number.leading number.digits

/-- Which powers of ten are written positionally, and whether whole numbers keep a point. -/
structure Layout where
  isPositional : (leading : Int) → Bool
  keepsPoint : Bool

namespace Layout

/-- Never an exponent, and a point only before a fraction. -/
def plain : Layout := ⟨fun _ => true, false⟩

/-- Positional from `10 ^ -4` to below `10 ^ 16`, a whole number ending in `.0`. -/
def listed : Layout := ⟨fun leading => -4 ≤ leading && leading < 16, true⟩

/-- Always an exponent. -/
def exponential : Layout := ⟨fun _ => false, false⟩

/-- The text of a magnitude. -/
def write (layout : Layout) (number : Decimal) : List Char :=
  if layout.isPositional number.leading then
    if layout.keepsPoint && 0 ≤ number.exponent then number.positional ++ ['.', '0']
    else number.positional
  else number.scientific

end Layout

/-- Whether a double carries the minus sign. -/
def isNegative (value : Float) : Bool := value.toBits.toNat / 0x8000000000000000 = 1

/-- The text of a double: its sign and the text of its magnitude, or the name of a value that is
no ordinary number. -/
def signed (value : Float) (magnitude : Dyadic → List Char) : List Char :=
  if value.isNaN then ['N', 'a', 'N']
  else
    let body := if value.isFinite then magnitude (Dyadic.ofDouble value) else ['i', 'n', 'f']
    if isNegative value then '-' :: body else body

/-- The shortest text of a double in a layout. -/
def shortestText (layout : Layout) (value : Float) : String :=
  String.ofList (signed value fun magnitude => layout.write magnitude.shortest)

/-- A double with `places` digits after the point of its scientific form. -/
def scientificText (places : Nat) (value : Float) : String :=
  String.ofList <| signed value fun magnitude =>
    if magnitude.significand = 0 then withPower 0 (List.replicate (places + 1) '0')
    else (magnitude.nearestPlaces places).scientific

/-- A double with `places` digits after the point of its positional form. -/
def fixedText (places : Nat) (value : Float) : String :=
  String.ofList (signed value fun magnitude => (magnitude.nearest (-(places : Int))).positional)

/-- A double with `places` digits after the point: scientific from one on, positional below and
without the sign of a zero. -/
def roundedText (places : Nat) (value : Float) : String :=
  let scientific := scientificText places value
  let negativePower := (scientific.toList.dropWhile (· ≠ 'e')).contains '-'
  if !value.isFinite || value != 0.0 && !negativePower then scientific
  else
    match (fixedText places value).toList with
    | '-' :: magnitude =>
      if magnitude.all fun char => char == '0' || char == '.' then String.ofList magnitude
      else String.ofList ('-' :: magnitude)
    | text => String.ofList text

end Decimal

end MultipleShooting
