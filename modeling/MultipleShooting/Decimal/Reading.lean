/-
**Reading decimal numbers.**

* `readNumeral?`: an unsigned or signed decimal numeral, `12`, `5.`, `.5`, `1.5e-3`, all of the
  text;
* `readDouble?`: a numeral, or `inf`, `infinity`, `nan` in any case, with an optional sign, as the
  nearest double;
* `readInteger?`: digits with an optional sign, within 64 signed bits.
-/
import MultipleShooting.Decimal.Digits

namespace MultipleShooting

namespace Decimal

/-- The natural number that decimal digits write. -/
def naturalOf (digits : List Char) : Nat :=
  digits.foldl (fun number digit => 10 * number + (digit.toNat - '0'.toNat)) 0

/-- An optional sign and the text after it; the answer is whether the sign is a minus. -/
def splitSign : List Char → Bool × List Char
  | '-' :: rest => (true, rest)
  | '+' :: rest => (false, rest)
  | text => (false, text)

/-- Digits and nothing else, at least one. -/
def digits? (text : List Char) : Option (List Char) :=
  if text ≠ [] ∧ text.all Char.isDigit then some text else none

/-- The power of ten written after a fraction: nothing, or the mark and a whole number. -/
def readPower? : List Char → Option Int
  | [] => some 0
  | mark :: rest =>
    if mark = 'e' ∨ mark = 'E' then
      let (negative, body) := splitSign rest
      (digits? body).map fun digits =>
        if negative then -(naturalOf digits : Int) else naturalOf digits
    else none

/-- An unsigned numeral: digits with an optional point among or beside them, and an optional power
of ten. -/
def readNumeral? (text : List Char) : Option Decimal :=
  let whole := text.takeWhile Char.isDigit
  let (fraction, rest) :=
    match text.dropWhile Char.isDigit with
    | '.' :: after => (after.takeWhile Char.isDigit, after.dropWhile Char.isDigit)
    | after => ([], after)
  if whole = [] ∧ fraction = [] then none
  else (readPower? rest).map fun power =>
    ⟨naturalOf (whole ++ fraction), power - fraction.length⟩

/-- The nearest double. A magnitude whose leading digit stands far outside the range of doubles is
infinite or zero without further computation. -/
def toDouble (number : Decimal) : Float :=
  if number.coefficient = 0 then 0.0
  else if 310 < number.leading then 1.0 / 0.0
  else if number.leading < -330 then 0.0
  else if 0 ≤ number.exponent then
    Float.ofScientific number.coefficient false number.exponent.toNat
  else Float.ofScientific number.coefficient true (-number.exponent).toNat

/-- The magnitudes that have names. -/
def named? (text : List Char) : Option Float :=
  match String.ofList (text.map Char.toLower) with
  | "inf" | "infinity" => some (1.0 / 0.0)
  | "nan" => some (0.0 / 0.0)
  | _ => none

/-- The double that a text writes: an optional sign, and a numeral or a name. -/
def readDouble? (text : List Char) : Option Float :=
  let (negative, body) := splitSign text
  let magnitude :=
    match readNumeral? body with
    | some number => some number.toDouble
    | none => named? body
  magnitude.map fun value => if negative then -value else value

/-- The whole number that a text writes, if it fits in 64 signed bits. -/
def readInteger? (text : List Char) : Option Int :=
  let (negative, body) := splitSign text
  match digits? body with
  | none => none
  | some digits =>
    let value : Int := if negative then -(naturalOf digits : Int) else naturalOf digits
    if -0x8000000000000000 ≤ value ∧ value < 0x8000000000000000 then some value else none

end Decimal

end MultipleShooting
