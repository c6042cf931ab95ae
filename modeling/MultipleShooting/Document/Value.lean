/-
**Values of a document.**

A token of a document is read as the first that fits of a whole number of 64 bits, a double, a truth
value and a text.
-/
import MultipleShooting.Decimal.Layout
import MultipleShooting.Decimal.Reading

namespace MultipleShooting

/-- A value of a document. -/
inductive Value where
  | integer (value : Int)
  | float (value : Float)
  | boolean (value : Bool)
  | text (value : String)

namespace Value

/-- The value of a token. -/
def ofToken (token : List Char) : Value :=
  match Decimal.readInteger? token with
  | some value => integer value
  | none =>
    match Decimal.readDouble? token with
    | some value => float value
    | none =>
      match String.ofList token with
      | "true" => boolean true
      | "false" => boolean false
      | other => text other

/-- The text of a value. -/
def toText : Value → String
  | integer value => toString value
  | float value => Decimal.shortestText .plain value
  | boolean value => if value then "true" else "false"
  | text value => value

/-- The text, if the value is one. -/
def asText? : Value → Option String
  | text value => some value
  | _ => none

/-- The number, if the value is a double or a whole number. -/
def asFloat? : Value → Option Float
  | float value => some value
  | integer value =>
    let magnitude := Decimal.toDouble ⟨value.natAbs, 0⟩
    some (if value < 0 then -magnitude else magnitude)
  | _ => none

/-- The whole number, if the value is one. -/
def asInteger? : Value → Option Int
  | integer value => some value
  | _ => none

/-- The truth value, if the value is one. -/
def asBoolean? : Value → Option Bool
  | boolean value => some value
  | _ => none

end Value

end MultipleShooting
