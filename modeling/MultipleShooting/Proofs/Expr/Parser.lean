/-
**The parser and the grammar.**

A text is parsed as an expression if and only if it writes it (`Expr.parse_eq_ok`). For doubles this
is `Expr.parse_eq_ok_iff_writes`, where every numeral has a value.
-/
import MultipleShooting.Number.Double
import MultipleShooting.Proofs.Expr.Completeness

namespace MultipleShooting

open Grammar

namespace Expr

section Generic

variable {α : Type} [Number α] [DecimalText α] {text : String} {expr : Expr α}

/-- **A text that writes an expression is parsed**, and the answer is the expression. -/
theorem parse_of_writes (writes : Writes text expr) : parse text = .ok expr := by
  have deep : text.toList.length ≤ ([] : List Char).length + text.toList.length := by simp
  have read := (readAs_of_derives writes deep).sum (follows_nil .sum)
  rw [← sum_ignoresBlanks] at read
  have whole : Rule.spaced (sum (signed (text.toList.length + 1))) text.toList =
      .accept expr [] := Rule.spaced_eq_accept.mpr ⟨[], read, rfl⟩
  rw [parse, parseChars, if_neg writes.trim_ne_nil, whole]

/-- The parser accepts exactly the texts that write an expression. -/
theorem parse_eq_ok : parse text = .ok expr ↔ Writes text expr :=
  ⟨writes_of_parse, parse_of_writes⟩

end Generic

/-- **The parser accepts exactly the grammar**: a text is parsed as an expression if and only if it
writes it. So a text writes at most one expression, a text that writes none is refused, and every
numeral stands for the double nearest to the decimal number that it writes. -/
theorem parse_eq_ok_iff_writes (text : String) :
    (∀ expr : Expr Float, parse text = .ok expr ↔ Writes text expr) ∧
      (∀ first second : Expr Float, Writes text first → Writes text second → first = second) ∧
      ((∃ fault, (parse text : Except SyntaxFault (Expr Float)) = .error fault) ↔
        ¬ ∃ expr : Expr Float, Writes text expr) ∧
      ∀ digits decimal, Numeral digits decimal →
        DecimalText.read? digits = some decimal.toDouble := by
  refine ⟨fun expr => parse_eq_ok, ?_, ?_, ?_⟩
  · intro first second writesFirst writesSecond
    exact Except.ok.inj ((parse_of_writes writesFirst).symm.trans (parse_of_writes writesSecond))
  · constructor
    · rintro ⟨fault, refused⟩ ⟨expr, writes⟩
      rw [parse_of_writes writes] at refused
      cases refused
    · intro nothing
      cases answer : (parse text : Except SyntaxFault (Expr Float)) with
      | error fault => exact ⟨fault, rfl⟩
      | ok expr => exact (nothing ⟨expr, writes_of_parse answer⟩).elim
  · intro digits decimal written
    show (Decimal.readNumeral? digits).map Decimal.toDouble = _
    rw [Decimal.readNumeral?_eq_some written, Option.map_some]

/-- The negative of a square. -/
def negatedSquare : Expr Float := (binary .pow (var "x") (const 2.0)).negated

/-- The power in `-x ^ 2` is read before the sign. -/
theorem parse_eq_ok_iff_writes_negatedSquare : Numeral ['2'] ⟨2, 0⟩ ∧
    Writes "-x ^ 2" negatedSquare ∧ parse "-x ^ 2" = .ok negatedSquare := by
  have digit : Digits ['2'] := fun char among => List.mem_singleton.mp among ▸ rfl
  have numeral : Numeral ['2'] ⟨2, 0⟩ := .mk (.whole (by decide) digit) .none
  obtain ⟨parses, -, -, reads⟩ := parse_eq_ok_iff_writes "-x ^ 2"
  have two : Decimal.toDouble ⟨2, 0⟩ = 2.0 := by decide +kernel
  have read := reads _ _ numeral
  rw [two] at read
  have isIdentifier : IsIdentifier ['x'] := .mk (.inl rfl) fun char among => by cases among
  have base : Derives .atom ['x', ' ', '^', ' ', '2'] (var "x" : Expr Float) ['^', ' ', '2'] :=
    .identifier isIdentifier ⟨[], [' '], Rule.blanks_nil, Rule.blanks_space, rfl⟩
  have exponent : Derives .atom ['2'] (const 2.0 : Expr Float) [] :=
    .number numeral read (token_append _ _)
  have square : Derives .power ['x', ' ', '^', ' ', '2'] (binary .pow (var "x") (const 2.0)) [] :=
    .power base ⟨[], [' '], Rule.blanks_nil, Rule.blanks_space, rfl⟩ (.ofPower (.ofAtom exponent))
  have writes : Writes "-x ^ 2" negatedSquare :=
    .ofProduct (.ofSigned (.minus (token_append ['-'] _) (.ofPower square)))
  exact ⟨numeral, writes, (parses negatedSquare).mpr writes⟩

end Expr

end MultipleShooting
