/-
**Reading expressions.**

The grammar, lowest precedence first, with optional blanks (space, tab, carriage return, line feed)
around every token:

```text
sum     := product (('+' | '-') product)*
product := signed (('*' | '/') signed)*
signed  := '-' signed | '+'? power
power   := atom ('^' signed)?
atom    := number | function '(' sum ')' | identifier | '(' sum ')'
```

Sums and products associate to the left, powers to the right. A rule accepts some text and leaves
the rest, or it rejects, and then another alternative may be tried, or it aborts, and then the whole
text is refused: a power of ten without digits and a call of an unknown function abort. A call whose
argument does not parse is no call, and its name is a variable.

* `Expr.parse`: the tree of a text, all of which has to be read.
-/
import MultipleShooting.Expr.Printer
import MultipleShooting.Text.Rule

namespace MultipleShooting

/-! ### Tokens -/

/-- The digits of a numeral with a point after, among or before them, and the rest. -/
def pointedDigits? (text : List Char) : Option (List Char × List Char) :=
  let whole := text.takeWhile Char.isDigit
  match text.dropWhile Char.isDigit with
  | '.' :: after =>
    let fraction := after.takeWhile Char.isDigit
    if whole = [] ∧ fraction = [] then none
    else some (whole ++ '.' :: fraction, after.dropWhile Char.isDigit)
  | rest => if whole = [] then none else some (whole, rest)

/-- An optional sign, as it is written, and the rest. -/
def splitSignMark : List Char → List Char × List Char
  | '+' :: rest => (['+'], rest)
  | '-' :: rest => (['-'], rest)
  | text => ([], text)

/-- A numeral without sign. The digits of a power of ten are mandatory after its mark. -/
def numeral : Rule (List Char) := fun text =>
  match pointedDigits? text with
  | none => .reject text
  | some (digits, rest) =>
    match rest with
    | [] => .accept digits rest
    | mark :: after =>
      if mark = 'e' ∨ mark = 'E' then
        let (sign, body) := splitSignMark after
        let power := body.takeWhile Char.isDigit
        if power = [] then .abort body
        else .accept (digits ++ mark :: (sign ++ power)) (body.dropWhile Char.isDigit)
      else .accept digits rest

/-- Whether a character may begin an identifier. -/
def isIdentifierStart (char : Char) : Bool := char.isAlpha || char == '_'

/-- Whether a character may stand in an identifier. -/
def isIdentifierPart (char : Char) : Bool := char.isAlphanum || char == '_' || char == '.'

/-- An identifier and the rest. -/
def identifier? : List Char → Option (List Char × List Char)
  | [] => none
  | first :: others =>
    if isIdentifierStart first then
      some (first :: others.takeWhile isIdentifierPart, others.dropWhile isIdentifierPart)
    else none

/-- The operations of a sum. -/
def additive? : Char → Option BinaryOp
  | '+' => some .add
  | '-' => some .sub
  | _ => none

/-- The operations of a product. -/
def multiplicative? : Char → Option BinaryOp
  | '*' => some .mul
  | '/' => some .div
  | _ => none

namespace Expr

variable {α : Type} [Number α] [DecimalText α]

/-- The call of a function by name; a square root is a power. -/
def call? (name : String) (argument : Expr α) : Option (Expr α) :=
  match name with
  | "exp" => some (apply .exp argument)
  | "ln" | "log" => some (apply .ln argument)
  | "sin" => some (apply .sin argument)
  | "cos" => some (apply .cos argument)
  | "tg" | "tan" => some (apply .tan argument)
  | "arcsin" | "asin" => some (apply .arcsin argument)
  | "arccos" | "acos" => some (apply .arccos argument)
  | "arctg" | "atan" => some (apply .arctan argument)
  | "sqrt" => some (binary .pow argument (const 0.5))
  | _ => none

/-- The negative that a minus sign before an operand means. -/
def signChanged : Expr α → Expr α
  | const value => const (-value)
  | operand => operand.negated

/-- A number. A sign directly before the digits is not part of one, but a numeral after it that
aborts does so here too. -/
def number : Rule (Expr α) := fun text =>
  match splitSignMark text with
  | ([], _) =>
    match numeral text with
    | .accept digits rest =>
      match DecimalText.read? digits with
      | some value => .accept (const value) rest
      | none => .reject text
    | .reject place => .reject place
    | .abort place => .abort place
  | (_, unsigned) =>
    match numeral unsigned with
    | .abort place => .abort place
    | _ => .reject text

/-! ### Rules -/

/-- Operands after a first one, joined to the left; `fuel` bounds their number. -/
def chain (op? : Char → Option BinaryOp) (operand : Rule (Expr α)) :
    (fuel : Nat) → Expr α → Rule (Expr α)
  | 0, left => fun text => .accept left text
  | fuel + 1, left => fun text =>
    match Rule.skip text with
    | [] => .accept left text
    | char :: after =>
      match op? char with
      | none => .accept left text
      | some op =>
        match operand (Rule.skip after) with
        | .accept right rest => chain op? operand fuel (binary op left right) rest
        | .reject _ => .accept left text
        | .abort place => .abort place

/-- A first operand and the chain after it. -/
def joined (op? : Char → Option BinaryOp) (operand : Rule (Expr α)) : Rule (Expr α) :=
  Rule.andThen operand fun left rest => chain op? operand rest.length left rest

/-- A sum of products, given the rule for a signed operand. -/
def sum (signed : Rule (Expr α)) : Rule (Expr α) := joined additive? (joined multiplicative? signed)

/-- A rule between parentheses. -/
def enclosed (inner : Rule (Expr α)) : Rule (Expr α) := fun text =>
  match text with
  | '(' :: inside =>
    match inner inside with
    | .accept value (')' :: rest) => .accept value rest
    | .accept _ rest => .reject rest
    | reply => reply
  | _ => .reject text

/-- A call, or a variable where no parenthesised argument follows the identifier. -/
def callOrVariable (inner : Rule (Expr α)) : Rule (Expr α) := fun text =>
  match identifier? text with
  | none => .reject text
  | some (name, rest) =>
    match enclosed inner (Rule.skip rest) with
    | .accept argument after =>
      match call? (String.ofList name) argument with
      | some expr => .accept expr after
      | none => .abort text
    | .reject _ => .accept (var (String.ofList name)) rest
    | .abort place => .abort place

/-- A number, a call, a variable or a sum in parentheses. -/
def atom (inner : Rule (Expr α)) : Rule (Expr α) :=
  Rule.spaced (Rule.orElse number (Rule.orElse (callOrVariable inner) (enclosed inner)))

/-- An atom with an optional exponent. -/
def power (signed : Rule (Expr α)) : Rule (Expr α) :=
  Rule.andThen (atom (sum signed)) fun base rest =>
    match rest with
    | '^' :: after =>
      match signed after with
      | .accept exponent rest => .accept (binary .pow base exponent) rest
      | .reject _ => .accept base rest
      | .abort place => .abort place
    | _ => .accept base rest

/-- A power with an optional plus sign. -/
def unsigned (signed : Rule (Expr α)) : Rule (Expr α) := fun text =>
  match Rule.skip text with
  | '+' :: after => power signed (Rule.skip after)
  | _ => power signed text

/-- An operand with its signs; `depth` bounds the nesting of signs, exponents and parentheses. -/
def signed : (depth : Nat) → Rule (Expr α)
  | 0 => fun text => .reject text
  | depth + 1 => fun text =>
    match Rule.skip text with
    | '-' :: after =>
      match signed depth (Rule.skip after) with
      | .accept operand rest => .accept operand.signChanged rest
      | .reject _ => unsigned (signed depth) text
      | .abort place => .abort place
    | _ => unsigned (signed depth) text

/-! ### Whole texts -/

/-- Why a text is no expression: it is blank, or reading stopped at some place of it. -/
inductive SyntaxFault where
  | blank
  | unexpected (place : List Char)
deriving Repr, DecidableEq

/-- The wording of a fault in a text. -/
def SyntaxFault.message (input : String) : SyntaxFault → String
  | blank => "empty expression"
  | unexpected place =>
    "cannot parse '" ++ input ++ "': unexpected input at '" ++ String.ofList place ++ "'"

/-- The expression that a list of characters writes. Every level of nesting takes a character, so
the length of the text bounds the depth. -/
def parseChars (text : List Char) : Except SyntaxFault (Expr α) :=
  if Text.trim text = [] then .error .blank
  else
    match Rule.spaced (sum (signed (text.length + 1))) text with
    | .accept expr [] => .ok expr
    | .accept _ rest => .error (.unexpected rest)
    | .reject place => .error (.unexpected place)
    | .abort place => .error (.unexpected place)

/-- The expression that a text writes. -/
def parse (text : String) : Except SyntaxFault (Expr α) := parseChars text.toList

/-- The expressions that several texts write, or the first text that writes none, with its fault. -/
def parseAll : List String → Except (String × SyntaxFault) (List (Expr α))
  | [] => .ok []
  | text :: others =>
    match parse text with
    | .error fault => .error (text, fault)
    | .ok expr => (parseAll others).map (expr :: ·)

end Expr

end MultipleShooting
