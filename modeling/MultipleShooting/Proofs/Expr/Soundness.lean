/-
**What is read as an expression writes it.**

Whatever a rule of the parser accepts is a phrase of the grammar at the beginning of the text, and
the rest is what it leaves (`Reads`). This holds of every rule if it holds of the rules that it is
given, so for signed operands it holds at every depth (`reads_signed`), and a whole text that is
parsed is a sum (`Expr.writes_of_parse`).

A call that is abandoned and an operator without a second operand need no argument here: what was
read before them is a phrase already.
-/
import MultipleShooting.Proofs.Expr.Token

namespace MultipleShooting

open Grammar

variable {α : Type} [Number α] [DecimalText α]

/-- Whatever a rule accepts is a phrase at the beginning of the text. -/
def Reads (rule : Rule (Expr α)) (phrase : Phrase) : Prop :=
  ∀ ⦃text : List Char⦄ ⦃expr : Expr α⦄ ⦃rest : List Char⦄,
    rule text = .accept expr rest → Derives phrase text expr rest

/-! ### Tokens -/

/-- A word after blanks is a token, with or without the blanks after it. -/
theorem token_of_skip (word : List Char) {text rest : List Char}
    (read : Rule.skip text = word ++ rest) :
    Token word text rest ∧ Token word text (Rule.skip rest) := by
  obtain ⟨before, blankBefore, parted⟩ := Rule.exists_blanks text
  obtain ⟨after, blankAfter, partedRest⟩ := Rule.exists_blanks rest
  rw [read] at parted
  refine ⟨⟨before, [], blankBefore, Rule.blanks_nil, parted⟩,
    ⟨before, after, blankBefore, blankAfter, ?_⟩⟩
  rw [← partedRest]
  exact parted

theorem Grammar.Token.skip_rest {word text rest : List Char} (token : Token word text rest) :
    Token word text (Rule.skip rest) := by
  obtain ⟨before, after, blankBefore, blankAfter, rfl⟩ := token
  obtain ⟨more, blankMore, parted⟩ := Rule.exists_blanks rest
  refine ⟨before, after ++ more, blankBefore, ?_, ?_⟩
  · exact fun char among => (List.mem_append.mp among).elim (blankAfter char) (blankMore char)
  · rw [List.append_assoc, ← parted]

theorem Grammar.Token.append_blanks {word text rest blanks : List Char}
    (token : Token word text rest) (blank : Rule.Blanks blanks) :
    Token word (blanks ++ text) rest := by
  obtain ⟨before, after, blankBefore, blankAfter, rfl⟩ := token
  refine ⟨blanks ++ before, after, ?_, blankAfter, (List.append_assoc _ _ _).symm⟩
  exact fun char among => (List.mem_append.mp among).elim (blank char) (blankBefore char)

/-- Blanks after a phrase belong to its last word. -/
theorem Grammar.Derives.skip_rest {phrase : Phrase} {text rest : List Char} {expr : Expr α}
    (derived : Derives phrase text expr rest) : Derives phrase text expr (Rule.skip rest) := by
  induction derived with
  | ofProduct _ ih => exact .ofProduct ih
  | sum isAdditive first sign _ _ ih => exact .sum isAdditive first sign ih
  | ofSigned _ ih => exact .ofSigned ih
  | product isMultiplicative first sign _ _ ih => exact .product isMultiplicative first sign ih
  | minus sign _ ih => exact .minus sign ih
  | plus sign _ ih => exact .plus sign ih
  | ofPower _ ih => exact .ofPower ih
  | power first sign _ _ ih => exact .power first sign ih
  | ofAtom _ ih => exact .ofAtom ih
  | number numeral read token => exact .number numeral read token.skip_rest
  | identifier isIdentifier token => exact .identifier isIdentifier token.skip_rest
  | call isIdentifier token opened sum closed calls _ =>
    exact .call isIdentifier token opened sum closed.skip_rest calls
  | enclosed opened sum closed _ => exact .enclosed opened sum closed.skip_rest

/-- Blanks before a phrase belong to its first word. -/
theorem Grammar.Derives.append_blanks {phrase : Phrase} {text rest blanks : List Char}
    {expr : Expr α} (derived : Derives phrase text expr rest) (blank : Rule.Blanks blanks) :
    Derives phrase (blanks ++ text) expr rest := by
  induction derived with
  | ofProduct _ ih => exact .ofProduct ih
  | sum isAdditive _ sign second ih _ => exact .sum isAdditive ih sign second
  | ofSigned _ ih => exact .ofSigned ih
  | product isMultiplicative _ sign second ih _ => exact .product isMultiplicative ih sign second
  | minus sign signed _ => exact .minus (sign.append_blanks blank) signed
  | plus sign power _ => exact .plus (sign.append_blanks blank) power
  | ofPower _ ih => exact .ofPower ih
  | power _ sign second ih _ => exact .power ih sign second
  | ofAtom _ ih => exact .ofAtom ih
  | number numeral read token => exact .number numeral read (token.append_blanks blank)
  | identifier isIdentifier token => exact .identifier isIdentifier (token.append_blanks blank)
  | call isIdentifier token opened sum closed calls _ =>
    exact .call isIdentifier (token.append_blanks blank) opened sum closed calls
  | enclosed opened sum closed _ => exact .enclosed (opened.append_blanks blank) sum closed

/-! ### Atoms -/

namespace Expr

omit [Number α] in
theorem number_eq_accept {text rest : List Char} {expr : Expr α}
    (accepted : number text = .accept expr rest) : ∃ digits decimal value,
      Numeral digits decimal ∧ DecimalText.read? digits = some value ∧ expr = const value ∧
        text = digits ++ rest := by
  unfold number at accepted
  split at accepted
  · split at accepted
    · next digits remaining read =>
      split at accepted
      · next value known =>
        cases accepted
        obtain ⟨⟨decimal, written⟩, parted⟩ := numeral_eq_accept read
        exact ⟨digits, decimal, value, written, known, rfl, parted⟩
      · cases accepted
    · cases accepted
    · cases accepted
  · split at accepted <;> cases accepted

omit [Number α] [DecimalText α] in
theorem enclosed_eq_accept {inner : Rule (Expr α)} {text rest : List Char} {expr : Expr α} :
    enclosed inner text = .accept expr rest ↔
      ∃ inside, text = '(' :: inside ∧ inner inside = .accept expr (')' :: rest) := by
  constructor
  · intro accepted
    unfold enclosed at accepted
    split at accepted
    · next inside =>
      split at accepted
      · next value remaining read =>
        cases accepted
        exact ⟨inside, rfl, read⟩
      · cases accepted
      · next refused => exact (refused _ _ accepted).elim
    · cases accepted
  · rintro ⟨inside, rfl, read⟩
    simp only [enclosed, read]

omit [DecimalText α] in
theorem callOrVariable_eq_accept {inner : Rule (Expr α)} {text rest : List Char} {expr : Expr α}
    (accepted : callOrVariable inner text = .accept expr rest) :
    ∃ name after, IsIdentifier name ∧ text = name ++ after ∧
      ((∃ argument, enclosed inner (Rule.skip after) = .accept argument rest ∧
          Calls (String.ofList name) argument expr) ∨
        expr = var (String.ofList name) ∧ rest = after) := by
  unfold callOrVariable at accepted
  split at accepted
  · cases accepted
  · next name after read =>
    obtain ⟨isIdentifier, parted⟩ := identifier?_eq_some read
    refine ⟨name, after, isIdentifier, parted, ?_⟩
    split at accepted
    · next argument remaining called =>
      split at accepted
      · next known =>
        cases accepted
        exact .inl ⟨argument, called, call?_eq_some.mp known⟩
      · cases accepted
    · cases accepted
      exact .inr ⟨rfl, rfl⟩
    · cases accepted

theorem reads_atom {inner : Rule (Expr α)} (reads : Reads inner .sum) :
    Reads (atom inner) .atom := by
  intro text expr rest accepted
  obtain ⟨middle, chosen, rfl⟩ := Rule.spaced_eq_accept.mp accepted
  rcases Rule.orElse_eq_accept.mp chosen with isNumber | ⟨-, chosen⟩
  · obtain ⟨digits, decimal, value, written, known, rfl, parted⟩ := number_eq_accept isNumber
    exact .number written known (token_of_skip _ parted).2
  rcases Rule.orElse_eq_accept.mp chosen with isWord | ⟨-, isEnclosed⟩
  · obtain ⟨name, after, isIdentifier, parted, ⟨argument, called, calls⟩ | ⟨rfl, rfl⟩⟩ :=
      callOrVariable_eq_accept isWord
    · obtain ⟨inside, opened, read⟩ := enclosed_eq_accept.mp called
      exact .call isIdentifier (token_of_skip _ parted).1 (token_of_skip _ opened).1 (reads read)
        (token_of_skip _ (Rule.skip_cons rfl)).2 calls
    · exact .identifier isIdentifier (token_of_skip _ parted).2
  · obtain ⟨inside, opened, read⟩ := enclosed_eq_accept.mp isEnclosed
    exact .enclosed (token_of_skip _ opened).1 (reads read) (token_of_skip _ (Rule.skip_cons rfl)).2

/-! ### Powers and signs -/

theorem reads_power {signed : Rule (Expr α)} (reads : Reads signed .signed)
    (readsSum : Reads (sum signed) .sum) : Reads (power signed) .power := by
  intro text expr rest accepted
  obtain ⟨base, middle, read, accepted⟩ := Rule.andThen_eq_accept.mp accepted
  have isAtom := reads_atom readsSum read
  split at accepted
  · next after =>
    split at accepted
    · next exponent remaining raised =>
      cases accepted
      exact .power isAtom (token_of_skip _ (Rule.skip_cons rfl)).1 (reads raised)
    · cases accepted
      exact .ofAtom isAtom
    · cases accepted
  · cases accepted
    exact .ofAtom isAtom

theorem reads_unsigned {signed : Rule (Expr α)} (reads : Reads (power signed) .power) :
    Reads (unsigned signed) .signed := by
  intro text expr rest accepted
  unfold unsigned at accepted
  split at accepted
  · next after opened => exact .plus (token_of_skip ['+'] opened).2 (reads accepted)
  · exact .ofPower (reads accepted)

/-! ### Chains -/

/-- A chain continues the phrase on its left, if an operator and an operand do. -/
theorem derives_of_chain {op? : Char → Option BinaryOp} {operand : Rule (Expr α)}
    {phrase part : Phrase} (reads : Reads operand part)
    (joins : ∀ {sign op text middle after rest} {left right : Expr α}, op? sign = some op →
      Derives phrase text left middle → Token [sign] middle after → Derives part after right rest →
        Derives phrase text (binary op left right) rest)
    {start text rest : List Char} {left expr : Expr α} {fuel : Nat}
    (begun : Derives phrase start left text)
    (accepted : chain op? operand fuel left text = .accept expr rest) :
    Derives phrase start expr rest := by
  -- what has been read so far is a phrase at every step
  induction fuel generalizing left text with
  | zero =>
    cases accepted
    exact begun
  | succ fuel ih =>
    unfold chain at accepted
    split at accepted
    · cases accepted
      exact begun
    · next sign after shown =>
      split at accepted
      · cases accepted
        exact begun
      · next op known =>
        split at accepted
        · next right remaining read =>
          exact ih (joins known begun (token_of_skip [sign] shown).2 (reads read)) accepted
        · cases accepted
          exact begun
        · cases accepted

theorem additive?_eq_some {sign : Char} {op : BinaryOp} :
    additive? sign = some op ↔ (op = .add ∨ op = .sub) ∧ sign = op.sign := by
  constructor
  · intro known
    unfold additive? at known
    split at known <;> cases known
    · exact ⟨.inl rfl, rfl⟩
    · exact ⟨.inr rfl, rfl⟩
  · rintro ⟨rfl | rfl, rfl⟩ <;> rfl

theorem multiplicative?_eq_some {sign : Char} {op : BinaryOp} :
    multiplicative? sign = some op ↔ (op = .mul ∨ op = .div) ∧ sign = op.sign := by
  constructor
  · intro known
    unfold multiplicative? at known
    split at known <;> cases known
    · exact ⟨.inl rfl, rfl⟩
    · exact ⟨.inr rfl, rfl⟩
  · rintro ⟨rfl | rfl, rfl⟩ <;> rfl

theorem reads_product {signed : Rule (Expr α)} (reads : Reads signed .signed) :
    Reads (joined multiplicative? signed) .product := by
  intro text expr rest accepted
  obtain ⟨first, middle, read, accepted⟩ := Rule.andThen_eq_accept.mp accepted
  refine derives_of_chain reads ?_ (.ofSigned (reads read)) accepted
  intro sign op text middle after rest left right known begun token continued
  obtain ⟨isMultiplicative, rfl⟩ := multiplicative?_eq_some.mp known
  exact .product isMultiplicative begun token continued

theorem reads_sum {signed : Rule (Expr α)} (reads : Reads signed .signed) :
    Reads (sum signed) .sum := by
  intro text expr rest accepted
  obtain ⟨first, middle, read, accepted⟩ := Rule.andThen_eq_accept.mp accepted
  refine derives_of_chain (reads_product reads) ?_ (.ofProduct (reads_product reads read)) accepted
  intro sign op text middle after rest left right known begun token continued
  obtain ⟨isAdditive, rfl⟩ := additive?_eq_some.mp known
  exact .sum isAdditive begun token continued

/-! ### Whole texts -/

/-- At every depth a signed operand is read as one. -/
theorem reads_signed (depth : Nat) : Reads (signed depth : Rule (Expr α)) .signed := by
  induction depth with
  | zero =>
    intro text expr rest accepted
    cases accepted
  | succ depth ih =>
    have readsUnsigned := reads_unsigned (reads_power ih (reads_sum ih))
    intro text expr rest accepted
    unfold signed at accepted
    split at accepted
    · next after opened =>
      split at accepted
      · next operand remaining read =>
        cases accepted
        exact .minus (token_of_skip ['-'] opened).2 (ih read)
      · exact readsUnsigned accepted
      · cases accepted
    · exact readsUnsigned accepted

/-- **A text that is parsed writes the expression.** -/
theorem writes_of_parse {text : String} {expr : Expr α} (parsed : parse text = .ok expr) :
    Writes text expr := by
  unfold parse parseChars at parsed
  split at parsed
  · cases parsed
  · split at parsed
    · next read =>
      cases parsed
      obtain ⟨middle, read, ended⟩ := Rule.spaced_eq_accept.mp read
      have derived := (reads_sum (reads_signed _) read).skip_rest
      rw [← ended] at derived
      obtain ⟨before, blank, parted⟩ := Rule.exists_blanks text.toList
      rw [Writes, parted]
      exact derived.append_blanks blank
    · cases parsed
    · cases parsed
    · cases parsed

end Expr

end MultipleShooting
