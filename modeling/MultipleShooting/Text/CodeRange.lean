/-
**Classes of characters given by their code points.**

A class is a table of runs, each with its first and its last code point. `isWithin` looks a
character up.
-/

namespace MultipleShooting

namespace Text

/-- A run of characters with consecutive code points. -/
structure CodeRange where
  first : Nat
  last : Nat

/-- Whether a character belongs to a run. -/
def CodeRange.contains (range : CodeRange) (char : Char) : Bool :=
  range.first ≤ char.toNat && char.toNat ≤ range.last

/-- Whether a character belongs to one of the runs of a table. -/
def isWithin (ranges : Array CodeRange) (char : Char) : Bool :=
  ranges.any fun range => range.contains char

end Text

end MultipleShooting
