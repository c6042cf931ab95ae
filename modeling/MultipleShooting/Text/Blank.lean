/-
**Blank characters.**

`isBlank` is the Unicode property of white space. `trim` takes blanks off both ends of a text and
`trimStart` off its beginning.
-/

namespace MultipleShooting

namespace Text

/-- White space in the sense of Unicode. -/
def isBlank (char : Char) : Bool :=
  let code := char.toNat
  9 ≤ code && code ≤ 13 || code == 0x20 || code == 0x85 || code == 0xa0 || code == 0x1680 ||
    0x2000 ≤ code && code ≤ 0x200a || code == 0x2028 || code == 0x2029 || code == 0x202f ||
    code == 0x205f || code == 0x3000

/-- The text without its leading blanks. -/
def trimStart (text : List Char) : List Char := text.dropWhile isBlank

/-- The text without its trailing blanks. -/
def trimEnd (text : List Char) : List Char := (text.reverse.dropWhile isBlank).reverse

/-- The text without blanks at either end. -/
def trim (text : List Char) : List Char := trimEnd (trimStart text)

end Text

end MultipleShooting
