/-
**Numbers with a decimal text.**

What the library asks of numbers in order to read them from expressions and to write them into
expressions, tables and messages.
-/
import MultipleShooting.Decimal.Layout
import MultipleShooting.Decimal.Reading

namespace MultipleShooting

/-- Numbers with a decimal text. -/
class DecimalText (α : Type) where
  /-- The value of an unsigned numeral. -/
  read? : List Char → Option α
  /-- The text of a value in expressions, tables and most messages. -/
  write : α → List Char
  /-- The text of a value as an item of a list. -/
  writeListed : α → List Char
  /-- The text of a value with an exponent. -/
  writeExponential : α → List Char

instance : DecimalText Float where
  read? numeral := (Decimal.readNumeral? numeral).map Decimal.toDouble
  write value := (Decimal.shortestText .plain value).toList
  writeListed value := (Decimal.shortestText .listed value).toList
  writeExponential value := (Decimal.shortestText .exponential value).toList

namespace DecimalText

variable {α : Type} [DecimalText α]

/-- The text of a value. -/
def text (value : α) : String := String.ofList (write value)

/-- The text of a value with an exponent. -/
def exponentialText (value : α) : String := String.ofList (writeExponential value)

/-- The text of a list of values, in brackets. -/
def listText (values : List α) : String :=
  "[" ++ String.intercalate ", " (values.map fun value => String.ofList (writeListed value)) ++ "]"

end DecimalText

end MultipleShooting
