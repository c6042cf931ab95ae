/-
**Quoted text.**

A quoted text stands between double quotes. Inside it a double quote and a backslash follow a
backslash, four controls have letters of their own, and any other character that is not printable
is given by its code point in hexadecimal.
-/
import MultipleShooting.Text.Printable

namespace MultipleShooting

namespace Text

/-- A character as it stands in a quoted text. -/
def quoteChar (char : Char) : List Char :=
  match char with
  | '"' => ['\\', '"']
  | '\\' => ['\\', '\\']
  | '\n' => ['\\', 'n']
  | '\r' => ['\\', 'r']
  | '\t' => ['\\', 't']
  | '\x00' => ['\\', '0']
  | char =>
    if isPrintable char then [char]
    else '\\' :: 'u' :: '\x7b' :: (Nat.toDigits 16 char.toNat ++ ['\x7d'])

/-- The text between double quotes. -/
def quote (text : List Char) : List Char := '"' :: (text.flatMap quoteChar ++ ['"'])

end Text

end MultipleShooting
