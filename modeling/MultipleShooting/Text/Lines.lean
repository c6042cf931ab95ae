/-
**Lines of a text.**

A line ends at a line feed, or at a carriage return directly before one. A text that ends in a line
feed has no further empty line after it.
-/

namespace MultipleShooting

namespace Text

/-- A line without the carriage return that stood before its line feed; the line is held in
reverse. -/
def finishLine : List Char → List Char
  | '\r' :: line => line.reverse
  | line => line.reverse

/-- The lines of a text, `line` holding in reverse what has been read of the present one. -/
def linesFrom (line : List Char) : List Char → List (List Char)
  | [] => if line = [] then [] else [line.reverse]
  | '\n' :: rest => finishLine line :: linesFrom [] rest
  | char :: rest => linesFrom (char :: line) rest

/-- The lines of a text. -/
def lines (text : List Char) : List (List Char) := linesFrom [] text

/-- Lines with a line feed between each two. -/
def joinLines (lines : List (List Char)) : List Char := List.intercalate ['\n'] lines

end Text

end MultipleShooting
