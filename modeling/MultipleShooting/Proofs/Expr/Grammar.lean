/-
**The grammar of expressions.**

What a text writes, said without a parser:

* `Grammar.Numeral`, `Grammar.IsIdentifier`: digits with an optional point among or beside them and
  an optional power of ten, and the decimal number that they write; names;
* `Grammar.Calls`: the functions with all their spellings;
* `Grammar.Token`: a word with optional blanks around it;
* `Grammar.Derives`: the phrases, one production a constructor. A sum of products of signed operands
  associates to the left, and an exponent is a signed operand, so that powers associate to the right
  and bind more tightly than a sign.

A phrase is derived at the beginning of a text, and `rest` is the text after it. A text writes an
expression if it is a sum and nothing after it (`Grammar.Writes`).
-/
import MultipleShooting.Expr.Parser
import MultipleShooting.Decimal.Reading
import MultipleShooting.Proofs.Text.Rule

namespace MultipleShooting

namespace Grammar

/-! ### Words -/

/-- A text of decimal digits, possibly empty. -/
def Digits (text : List Char) : Prop := ∀ char ∈ text, char.isDigit = true

/-- Digits with an optional point among or beside them: `12`, `12.`, `12.5` and `.5`, with the
digits before and after the point. -/
inductive Mantissa : List Char → List Char → List Char → Prop
  | whole {whole : List Char} (nonempty : whole ≠ []) (digits : Digits whole) :
      Mantissa whole whole []
  | pointed {whole fraction : List Char} (nonempty : whole ≠ []) (digits : Digits whole)
      (fractionDigits : Digits fraction) : Mantissa (whole ++ '.' :: fraction) whole fraction
  | fraction {fraction : List Char} (nonempty : fraction ≠ []) (digits : Digits fraction) :
      Mantissa ('.' :: fraction) [] fraction

/-- An optional sign, and whether it is a minus. -/
inductive SignMark : List Char → Bool → Prop
  | none : SignMark [] false
  | plus : SignMark ['+'] false
  | minus : SignMark ['-'] true

/-- An optional power of ten: nothing, or a mark, an optional sign and digits. -/
inductive Scale : List Char → Int → Prop
  | none : Scale [] 0
  | power {mark : Char} {sign digits : List Char} {negative : Bool}
      (isMark : mark = 'e' ∨ mark = 'E') (signed : SignMark sign negative)
      (nonempty : digits ≠ []) (allDigits : Digits digits) :
      Scale (mark :: (sign ++ digits))
        (if negative then -(Decimal.naturalOf digits : Int) else Decimal.naturalOf digits)

/-- An unsigned numeral and the decimal number that it writes. -/
inductive Numeral : List Char → Decimal → Prop
  | mk {mantissa whole fraction scale : List Char} {power : Int}
      (digits : Mantissa mantissa whole fraction) (scaled : Scale scale power) :
      Numeral (mantissa ++ scale) ⟨Decimal.naturalOf (whole ++ fraction), power - fraction.length⟩

/-- A letter or an underscore, and after it letters, digits, underscores and points. -/
inductive IsIdentifier : List Char → Prop
  | mk {first : Char} {others : List Char} (start : first.isAlpha = true ∨ first = '_')
      (parts : ∀ char ∈ others, char.isAlphanum = true ∨ char = '_' ∨ char = '.') :
      IsIdentifier (first :: others)

/-- A word with optional blanks around it stands at the beginning of a text. -/
def Token (word text rest : List Char) : Prop :=
  ∃ before after, Rule.Blanks before ∧ Rule.Blanks after ∧
    text = before ++ (word ++ (after ++ rest))

/-! ### Functions -/

/-- The spellings of a function. -/
def spellings : Elementary → List String
  | .exp => ["exp"]
  | .ln => ["ln", "log"]
  | .sin => ["sin"]
  | .cos => ["cos"]
  | .tan => ["tg", "tan"]
  | .arcsin => ["arcsin", "asin"]
  | .arccos => ["arccos", "acos"]
  | .arctan => ["arctg", "atan"]

variable {α : Type} [Number α]

/-- What a function means by its name: an elementary function, or the square root as a power. -/
inductive Calls : String → Expr α → Expr α → Prop
  | elementary {name : String} {function : Elementary} (spelled : name ∈ spellings function)
      (argument : Expr α) : Calls name argument (.apply function argument)
  | squareRoot (argument : Expr α) :
      Calls "sqrt" argument (.binary .pow argument (.const 0.5))

/-! ### Phrases -/

/-- The phrases, lowest precedence first. -/
inductive Phrase where
  | sum
  | product
  | signed
  | power
  | atom

variable [DecimalText α]

/-- A phrase at the beginning of a text writes an expression, and the rest of the text is after
it. -/
inductive Derives : Phrase → List Char → Expr α → List Char → Prop
  | ofProduct {text rest : List Char} {expr : Expr α} (product : Derives .product text expr rest) :
      Derives .sum text expr rest
  | sum {op : BinaryOp} {text middle after rest : List Char} {left right : Expr α}
      (isAdditive : op = .add ∨ op = .sub) (first : Derives .sum text left middle)
      (sign : Token [op.sign] middle after) (second : Derives .product after right rest) :
      Derives .sum text (.binary op left right) rest
  | ofSigned {text rest : List Char} {expr : Expr α} (signed : Derives .signed text expr rest) :
      Derives .product text expr rest
  | product {op : BinaryOp} {text middle after rest : List Char} {left right : Expr α}
      (isMultiplicative : op = .mul ∨ op = .div) (first : Derives .product text left middle)
      (sign : Token [op.sign] middle after) (second : Derives .signed after right rest) :
      Derives .product text (.binary op left right) rest
  | minus {text after rest : List Char} {operand : Expr α} (sign : Token ['-'] text after)
      (signed : Derives .signed after operand rest) : Derives .signed text operand.signChanged rest
  | plus {text after rest : List Char} {expr : Expr α} (sign : Token ['+'] text after)
      (power : Derives .power after expr rest) : Derives .signed text expr rest
  | ofPower {text rest : List Char} {expr : Expr α} (power : Derives .power text expr rest) :
      Derives .signed text expr rest
  | power {text middle after rest : List Char} {base exponent : Expr α}
      (first : Derives .atom text base middle) (sign : Token ['^'] middle after)
      (second : Derives .signed after exponent rest) :
      Derives .power text (.binary .pow base exponent) rest
  | ofAtom {text rest : List Char} {expr : Expr α} (atom : Derives .atom text expr rest) :
      Derives .power text expr rest
  | number {digits text rest : List Char} {decimal : Decimal} {value : α}
      (numeral : Numeral digits decimal) (read : DecimalText.read? digits = some value)
      (token : Token digits text rest) : Derives .atom text (.const value) rest
  | identifier {name text rest : List Char} (isIdentifier : IsIdentifier name)
      (token : Token name text rest) : Derives .atom text (.var (String.ofList name)) rest
  | call {name text after inside closing rest : List Char} {argument expr : Expr α}
      (isIdentifier : IsIdentifier name) (token : Token name text after)
      (opened : Token ['('] after inside) (sum : Derives .sum inside argument closing)
      (closed : Token [')'] closing rest) (calls : Calls (String.ofList name) argument expr) :
      Derives .atom text expr rest
  | enclosed {text inside closing rest : List Char} {expr : Expr α}
      (opened : Token ['('] text inside) (sum : Derives .sum inside expr closing)
      (closed : Token [')'] closing rest) : Derives .atom text expr rest

/-- A text writes an expression. -/
def Writes (text : String) (expr : Expr α) : Prop := Derives .sum text.toList expr []

/-! ### Words and lengths -/

theorem token_append (word rest : List Char) : Token word (word ++ rest) rest :=
  ⟨[], [], Rule.blanks_nil, Rule.blanks_nil, rfl⟩

theorem Mantissa.ne_nil {text whole fraction : List Char}
    (mantissa : Mantissa text whole fraction) : text ≠ [] := by
  cases mantissa with
  | whole nonempty _ => exact nonempty
  | pointed _ _ _ => simp
  | fraction _ _ => simp

/-- Digits with an optional point are a numeral without a power of ten. -/
theorem Mantissa.numeral {text whole fraction : List Char}
    (mantissa : Mantissa text whole fraction) : ∃ decimal, Numeral text decimal := by
  have written := Numeral.mk mantissa .none
  rw [List.append_nil] at written
  exact ⟨_, written⟩

theorem Numeral.ne_nil {digits : List Char} {decimal : Decimal} (numeral : Numeral digits decimal) :
    digits ≠ [] := by
  obtain ⟨mantissa, -⟩ := numeral
  simp [mantissa.ne_nil]

theorem IsIdentifier.ne_nil {name : List Char} (isIdentifier : IsIdentifier name) : name ≠ [] := by
  cases isIdentifier
  simp

omit [Number α] [DecimalText α] in
theorem Token.length_le {word text rest : List Char} (token : Token word text rest) :
    word.length + rest.length ≤ text.length := by
  obtain ⟨before, after, -, -, rfl⟩ := token
  simp only [List.length_append]
  omega

omit [Number α] [DecimalText α] in
theorem Token.length_lt {char : Char} {text rest : List Char} (token : Token [char] text rest) :
    rest.length < text.length := by
  have short := token.length_le
  rw [List.length_singleton] at short
  omega

/-- A phrase takes at least one character. -/
theorem Derives.length_lt {phrase : Phrase} {text rest : List Char} {expr : Expr α}
    (derived : Derives phrase text expr rest) : rest.length < text.length := by
  induction derived with
  | ofProduct _ ih | ofSigned _ ih | ofPower _ ih | ofAtom _ ih => exact ih
  | sum _ _ sign _ ihFirst ihSecond | product _ _ sign _ ihFirst ihSecond
  | power _ sign _ ihFirst ihSecond => exact ihSecond.trans (sign.length_lt.trans ihFirst)
  | minus sign _ ih | plus sign _ ih => exact ih.trans sign.length_lt
  | number numeral _ token =>
    have short := token.length_le
    have nonempty := List.length_pos_iff.mpr numeral.ne_nil
    omega
  | identifier isIdentifier token =>
    have short := token.length_le
    have nonempty := List.length_pos_iff.mpr isIdentifier.ne_nil
    omega
  | call _ token opened _ closed _ ih =>
    have named := token.length_le
    have inside := opened.length_lt
    have behind := closed.length_lt
    omega
  | enclosed opened _ closed ih => exact closed.length_lt.trans (ih.trans opened.length_lt)

end Grammar

end MultipleShooting
