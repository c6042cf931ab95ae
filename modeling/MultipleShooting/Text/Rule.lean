/-
**Rules of a grammar.**

A rule reads a beginning of a text. It accepts with a value and the rest of the text, or it rejects,
and then another alternative may be tried on the same text, or it aborts, and then no alternative
is tried. A failure carries the place where it arose, as the text from there on.
-/

namespace MultipleShooting

/-- The answer of a rule: a value and the rest of the text, or the place of a failure. -/
inductive Reply (β : Type) where
  | accept (value : β) (rest : List Char)
  | reject (place : List Char)
  | abort (place : List Char)
deriving Repr

/-- A rule of the grammar. -/
abbrev Rule (β : Type) := List Char → Reply β

namespace Rule

variable {β γ : Type}

/-- The blanks of the grammar. -/
def isSpace (char : Char) : Bool := char == ' ' || char == '\t' || char == '\r' || char == '\n'

/-- The text after its leading blanks. -/
def skip (text : List Char) : List Char := text.dropWhile isSpace

/-- The first rule, or the second on the same text where the first rejects. -/
def orElse (first second : Rule β) : Rule β := fun text =>
  match first text with
  | .reject _ => second text
  | reply => reply

/-- A rule with blanks on both sides. -/
def spaced (rule : Rule β) : Rule β := fun text =>
  match rule (skip text) with
  | .accept value rest => .accept value (skip rest)
  | reply => reply

/-- A rule and another one after it that knows its value. -/
def andThen (first : Rule β) (next : β → Rule γ) : Rule γ := fun text =>
  match first text with
  | .accept value rest => next value rest
  | .reject place => .reject place
  | .abort place => .abort place

end Rule

end MultipleShooting
