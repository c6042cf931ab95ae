/-
**What writes an expression is read as it.**

A phrase of the grammar is accepted by its rule, with its expression, whenever what comes after it
cannot continue it (`Expr.readAs_of_derives`). The induction is on the derivation:

* an atom, a power and a signed operand are accepted at once;
* a sum and a product grow at their right end, so for them the statement is that the parser has come
  to the expression as the left operand of a chain (`Expr.ChainsTo`), with enough fuel for the rest;
* the depth that the parser is given is at least the number of characters of the phrase.

No alternative that is tried before the right one aborts: it is ruled out by the first character of
the phrase.
-/
import MultipleShooting.Proofs.Expr.Ends
import MultipleShooting.Proofs.Expr.Soundness

namespace MultipleShooting

open Grammar

variable {α : Type} [Number α] [DecimalText α]

namespace Expr

/-! ### Leading blanks -/

theorem atom_ignoresBlanks (inner : Rule (Expr α)) : Rule.IgnoresBlanks (atom inner) :=
  Rule.spaced_ignoresBlanks _

theorem power_ignoresBlanks (signed : Rule (Expr α)) : Rule.IgnoresBlanks (power signed) :=
  (atom_ignoresBlanks _).andThen _

theorem unsigned_ignoresBlanks (signed : Rule (Expr α)) : Rule.IgnoresBlanks (unsigned signed) := by
  intro text
  rw [unsigned, unsigned, Rule.skip_skip, power_ignoresBlanks signed text]

theorem signed_ignoresBlanks (depth : Nat) :
    Rule.IgnoresBlanks (signed (depth + 1) : Rule (Expr α)) := by
  intro text
  rw [signed]
  beta_reduce
  rw [Rule.skip_skip, unsigned_ignoresBlanks (signed depth) text]

omit [Number α] [DecimalText α] in
theorem joined_ignoresBlanks (op? : Char → Option BinaryOp) {operand : Rule (Expr α)}
    (ignores : Rule.IgnoresBlanks operand) : Rule.IgnoresBlanks (joined op? operand) :=
  ignores.andThen _

theorem sum_ignoresBlanks (depth : Nat) :
    Rule.IgnoresBlanks (sum (signed (depth + 1)) : Rule (Expr α)) :=
  joined_ignoresBlanks _ (joined_ignoresBlanks _ (signed_ignoresBlanks depth))

/-! ### Chains -/

/-- The parser has read a text up to `rest` as the left operand of a chain, and its fuel is enough
for the rest. -/
def ChainsTo (op? : Char → Option BinaryOp) (operand : Rule (Expr α)) (text : List Char)
    (left : Expr α) (rest : List Char) : Prop :=
  ∃ fuel, (Rule.skip rest).length ≤ fuel ∧
    joined op? operand text = chain op? operand fuel left (Rule.skip rest)

omit [Number α] [DecimalText α] in
theorem chainsTo_of_accept {op? : Char → Option BinaryOp} {operand : Rule (Expr α)}
    {text rest : List Char} {expr : Expr α}
    (read : operand text = .accept expr (Rule.skip rest)) :
    ChainsTo op? operand text expr rest := by
  refine ⟨_, le_rfl, ?_⟩
  rw [joined, Rule.andThen, read]

omit [Number α] [DecimalText α] in
/-- A chain ends where no operator comes next. -/
theorem ChainsTo.accept {op? : Char → Option BinaryOp} {operand : Rule (Expr α)}
    {text rest : List Char} {expr : Expr α} (chains : ChainsTo op? operand text expr rest)
    (ends : ∀ char ∈ (Rule.skip rest).head?, op? char = none) :
    joined op? operand text = .accept expr (Rule.skip rest) := by
  obtain ⟨fuel, -, begun⟩ := chains
  rw [begun]
  cases fuel with
  | zero => rfl
  | succ fuel =>
    rw [chain]
    beta_reduce
    rw [Rule.skip_skip]
    generalize Rule.skip rest = remaining at ends ⊢
    cases remaining with
    | nil => rfl
    | cons char others => simp only [ends char rfl]

omit [Number α] [DecimalText α] in
/-- A chain goes on with an operator and an operand. -/
theorem ChainsTo.step {op? : Char → Option BinaryOp} {operand : Rule (Expr α)}
    {text middle after rest : List Char} {left right : Expr α} {sign : Char} {op : BinaryOp}
    (chains : ChainsTo op? operand text left middle) (token : Token [sign] middle after)
    (visible : Rule.isSpace sign = false) (known : op? sign = some op)
    (ignores : Rule.IgnoresBlanks operand)
    (read : operand after = .accept right (Rule.skip rest)) (shorter : rest.length ≤ after.length) :
    ChainsTo op? operand text (binary op left right) rest := by
  obtain ⟨fuel, enough, begun⟩ := chains
  obtain ⟨blanks, blank, shown⟩ := token.skip_eq visible
  rw [shown] at enough begun
  have short := Rule.length_skip_le rest
  simp only [List.nil_append, List.length_cons, List.length_append] at enough
  -- the sign takes a character, so there is fuel for its operand
  obtain ⟨fuel, rfl⟩ := Nat.exists_eq_add_of_lt (Nat.lt_of_lt_of_le (Nat.succ_pos _) enough)
  refine ⟨0 + fuel, by omega, ?_⟩
  rw [begun, chain]
  beta_reduce
  rw [Rule.skip_cons visible]
  simp only [known, List.nil_append, Rule.skip_append blank, ignores after, read]

/-! ### Atoms -/

omit [Number α] in
/-- Where neither a digit, a point nor a sign stands, no number is read. -/
theorem number_reject {char : Char} {others : List Char} (noNumber : isPointOrDigit char = false)
    (noSign : char ≠ '+' ∧ char ≠ '-') :
    (number (char :: others) : Reply (Expr α)) = .reject (char :: others) := by
  obtain ⟨noDigit, noPoint⟩ : char.isDigit = false ∧ char ≠ '.' := by
    simpa [isPointOrDigit] using noNumber
  have unsigned := (unsigned_cons noSign others).1
  have nothing : pointedDigits? (char :: others) = none := by
    simp [pointedDigits?, noDigit, noPoint]
  simp only [number, unsigned, numeral, nothing]

theorem accept_number {inner : Rule (Expr α)} {digits text rest : List Char} {decimal : Decimal}
    {value : α} (written : Numeral digits decimal) (known : DecimalText.read? digits = some value)
    (token : Token digits text rest) (stop : Stops isIdentifierPart (Rule.skip rest)) :
    atom inner text = .accept (const value) (Rule.skip rest) := by
  obtain ⟨char, others, rfl, inside⟩ := written.head
  have part := isIdentifierPart_of_isPointOrDigit inside
  obtain ⟨after, blank, shown⟩ := token.skip_eq (isSpace_of_isIdentifierPart part)
  have read := numeral_append written (stops_of_skip blank stop)
  have unsigned :=
    (unsigned_cons (noSign_of_isPointOrDigit inside) (others ++ (after ++ rest))).1
  refine Rule.spaced_eq_accept.mpr ⟨after ++ rest, ?_, (Rule.skip_append blank rest).symm⟩
  rw [shown]
  refine Rule.orElse_eq_accept.mpr (.inl ?_)
  rw [List.cons_append] at read
  simp only [number, unsigned, read, known]

omit [Number α] [DecimalText α] in
/-- A closed parenthesis around a phrase that is read. -/
theorem accept_enclosed {inner : Rule (Expr α)} {text inside closing rest : List Char}
    {expr : Expr α} (ignores : Rule.IgnoresBlanks inner) (opened : Token ['('] text inside)
    (read : inner inside = .accept expr (Rule.skip closing)) (closed : Token [')'] closing rest) :
    ∃ after, Rule.Blanks after ∧
      enclosed inner (Rule.skip text) = .accept expr (after ++ rest) := by
  obtain ⟨before, blankBefore, shown⟩ := opened.skip_eq rfl
  obtain ⟨after, blankAfter, shownClosing⟩ := closed.skip_eq rfl
  refine ⟨after, blankAfter, enclosed_eq_accept.mpr ⟨_, shown, ?_⟩⟩
  rw [List.nil_append, ← ignores, Rule.skip_append blankBefore, ignores, read, shownClosing,
    List.nil_append]

/-- An atom that begins with an identifier is no number. -/
theorem atom_of_identifier {inner : Rule (Expr α)} {name text rest closing : List Char}
    {expr : Expr α} (isIdentifier : IsIdentifier name) (token : Token name text rest)
    (read : ∀ after, Rule.Blanks after → ∃ middle, Rule.skip middle = closing ∧
      callOrVariable inner (name ++ (after ++ rest)) = .accept expr middle) :
    atom inner text = .accept expr closing := by
  obtain ⟨char, others, rfl, start⟩ := isIdentifier.head
  have part := isIdentifierPart_of_isIdentifierStart start
  obtain ⟨noNumber, noSign⟩ := noNumber_of_isIdentifierStart start
  obtain ⟨after, blank, shown⟩ := token.skip_eq (isSpace_of_isIdentifierPart part)
  obtain ⟨middle, rfl, accepted⟩ := read after blank
  refine Rule.spaced_eq_accept.mpr ⟨middle, ?_, rfl⟩
  rw [shown]
  exact Rule.orElse_eq_accept.mpr (.inr ⟨⟨_, number_reject noNumber noSign⟩,
    Rule.orElse_eq_accept.mpr (.inl accepted)⟩)

theorem accept_identifier {inner : Rule (Expr α)} {name text rest : List Char}
    (isIdentifier : IsIdentifier name) (token : Token name text rest)
    (follows : Follows .atom rest) :
    atom inner text = .accept (var (String.ofList name)) (Rule.skip rest) := by
  refine atom_of_identifier isIdentifier token fun after blank =>
    ⟨after ++ rest, Rule.skip_append blank rest, ?_⟩
  -- nothing that may follow an atom opens an argument
  have uncalled : enclosed inner (Rule.skip (after ++ rest)) =
      .reject (Rule.skip (after ++ rest)) := by
    rw [Rule.skip_append blank, enclosed]
    intro inside shown
    have listed := follows '(' (by rw [shown]; rfl)
    simp [Phrase.followers] at listed
  rw [callOrVariable, identifier?_append isIdentifier (stops_of_skip blank follows.stops)]
  simp only [uncalled]

theorem accept_call {inner : Rule (Expr α)} {name text after inside closing rest : List Char}
    {argument expr : Expr α} (ignores : Rule.IgnoresBlanks inner)
    (isIdentifier : IsIdentifier name) (token : Token name text after)
    (opened : Token ['('] after inside)
    (read : inner inside = .accept argument (Rule.skip closing))
    (closed : Token [')'] closing rest) (calls : Calls (String.ofList name) argument expr) :
    atom inner text = .accept expr (Rule.skip rest) := by
  refine atom_of_identifier isIdentifier token fun before blankBefore => ?_
  obtain ⟨behind, blankBehind, called⟩ := accept_enclosed ignores opened read closed
  refine ⟨behind ++ rest, Rule.skip_append blankBehind rest, ?_⟩
  have stop : Stops isIdentifierPart (Rule.skip after) := by
    obtain ⟨_, -, shown⟩ := opened.skip_eq rfl
    rw [shown]
    exact stops_cons.mpr rfl
  rw [callOrVariable, identifier?_append isIdentifier (stops_of_skip blankBefore stop)]
  simp only [Rule.skip_append blankBefore, called, call?_eq_some.mpr calls]

theorem accept_parenthesis {inner : Rule (Expr α)} {text inside closing rest : List Char}
    {expr : Expr α} (ignores : Rule.IgnoresBlanks inner) (opened : Token ['('] text inside)
    (read : inner inside = .accept expr (Rule.skip closing)) (closed : Token [')'] closing rest) :
    atom inner text = .accept expr (Rule.skip rest) := by
  obtain ⟨before, -, shown⟩ := opened.skip_eq rfl
  obtain ⟨after, blank, accepted⟩ := accept_enclosed ignores opened read closed
  refine Rule.spaced_eq_accept.mpr ⟨after ++ rest, ?_, (Rule.skip_append blank rest).symm⟩
  rw [shown] at accepted ⊢
  exact Rule.orElse_eq_accept.mpr (.inr ⟨⟨_, number_reject rfl (by decide)⟩,
    Rule.orElse_eq_accept.mpr (.inr ⟨⟨_, rfl⟩, accepted⟩)⟩)

/-! ### Powers and signs -/

theorem accept_power {depth : Nat} {text middle after rest : List Char} {base exponent : Expr α}
    (first : atom (sum (signed (depth + 1))) text = .accept base (Rule.skip middle))
    (sign : Token ['^'] middle after)
    (second : signed (depth + 1) after = .accept exponent (Rule.skip rest)) :
    power (signed (depth + 1)) text = .accept (binary .pow base exponent) (Rule.skip rest) := by
  obtain ⟨blanks, blank, shown⟩ := sign.skip_eq rfl
  rw [← signed_ignoresBlanks, ← Rule.skip_append blank, signed_ignoresBlanks] at second
  rw [shown] at first
  exact Rule.andThen_eq_accept.mpr ⟨base, _, first, by simp only [List.nil_append, second]⟩

theorem power_of_atom {signed : Rule (Expr α)} {text rest : List Char} {expr : Expr α}
    (read : atom (sum signed) text = .accept expr (Rule.skip rest))
    (follows : Follows .signed rest) :
    power signed text = .accept expr (Rule.skip rest) := by
  refine Rule.andThen_eq_accept.mpr ⟨expr, _, read, ?_⟩
  split
  · next after shown =>
    have listed := follows '^' (by rw [shown]; rfl)
    simp [Phrase.followers] at listed
  · rfl

theorem signed_of_power {depth : Nat} {text rest : List Char} {expr : Expr α}
    (derived : Derives .power text expr rest)
    (read : power (signed depth) text = .accept expr (Rule.skip rest)) :
    signed (depth + 1) text = .accept expr (Rule.skip rest) := by
  obtain ⟨char, others, shown, start⟩ := derived.power_head
  have noSign : char ≠ '+' ∧ char ≠ '-' := by
    refine ⟨?_, ?_⟩ <;> rintro rfl <;> exact start.elim (by decide) (by decide)
  have isUnsigned : unsigned (signed depth) text = .accept expr (Rule.skip rest) := by
    rw [unsigned, shown]
    split
    · next same => exact absurd (List.cons.inj same).1 noSign.1
    · exact read
  rw [signed]
  beta_reduce
  rw [shown]
  split
  · next same => exact absurd (List.cons.inj same).1 noSign.2
  · exact isUnsigned

theorem accept_plus {depth : Nat} {text after rest : List Char} {expr : Expr α}
    (sign : Token ['+'] text after)
    (read : power (signed depth) after = .accept expr (Rule.skip rest)) :
    signed (depth + 1) text = .accept expr (Rule.skip rest) := by
  obtain ⟨blanks, blank, shown⟩ := sign.skip_eq rfl
  rw [signed]
  beta_reduce
  simp only [shown, unsigned, List.nil_append, Rule.skip_append blank]
  rw [power_ignoresBlanks, read]
  rfl

theorem accept_minus {depth : Nat} {text after rest : List Char} {operand : Expr α}
    (sign : Token ['-'] text after)
    (read : signed (depth + 1) after = .accept operand (Rule.skip rest)) :
    signed (depth + 2) text = .accept operand.signChanged (Rule.skip rest) := by
  obtain ⟨blanks, blank, shown⟩ := sign.skip_eq rfl
  rw [signed]
  beta_reduce
  simp only [shown, List.nil_append, Rule.skip_append blank]
  rw [signed_ignoresBlanks, read]

/-! ### Phrases -/

/-- How a phrase is read when nothing after it continues it, with a depth for what it nests. A sum
and a product are still open at their right end. -/
def ReadAs (depth : Nat) : Phrase → List Char → Expr α → List Char → Prop
  | .sum, text, expr, rest => Follows .product rest →
      ChainsTo additive? (joined multiplicative? (signed (depth + 1))) text expr rest
  | .product, text, expr, rest => Follows .signed rest →
      ChainsTo multiplicative? (signed (depth + 1)) text expr rest
  | .signed, text, expr, rest => Follows .signed rest →
      signed (depth + 1) text = .accept expr (Rule.skip rest)
  | .power, text, expr, rest => Follows .signed rest →
      power (signed depth) text = .accept expr (Rule.skip rest)
  | .atom, text, expr, rest => Follows .atom rest →
      atom (sum (signed depth)) text = .accept expr (Rule.skip rest)

theorem ReadAs.product {depth : Nat} {text rest : List Char} {expr : Expr α}
    (reads : ReadAs depth .product text expr rest) (follows : Follows .product rest) :
    joined multiplicative? (signed (depth + 1)) text = .accept expr (Rule.skip rest) := by
  refine (reads (follows.of_subset (by decide))).accept fun char among => ?_
  have listed := follows char among
  simp only [Phrase.followers, List.mem_cons, List.not_mem_nil, or_false] at listed
  rcases listed with rfl | rfl | rfl <;> rfl

theorem ReadAs.sum {depth : Nat} {text rest : List Char} {expr : Expr α}
    (reads : ReadAs depth .sum text expr rest) (follows : Follows .sum rest) :
    sum (signed (depth + 1)) text = .accept expr (Rule.skip rest) := by
  refine (reads (follows.of_subset (by decide))).accept fun char among => ?_
  have listed := follows char among
  simp only [Phrase.followers, List.mem_cons, List.not_mem_nil, or_false] at listed
  rw [listed]
  rfl

theorem isSpace_sign (op : BinaryOp) : Rule.isSpace op.sign = false := by
  cases op <;> rfl

/-- **What is derived is read**, if the depth is at least the number of characters of the phrase. -/
theorem readAs_of_derives {phrase : Phrase} {text rest : List Char} {expr : Expr α}
    (derived : Derives phrase text expr rest) {depth : Nat}
    (deep : text.length ≤ rest.length + depth) : ReadAs depth phrase text expr rest := by
  -- every production that nests a signed operand or a sum spends a character on it
  induction derived generalizing depth with
  | ofProduct _ ih => exact fun follows => chainsTo_of_accept ((ih deep).product follows)
  | @sum op text middle after rest left right isAdditive first sign second ihFirst ihSecond =>
    intro follows
    have before := first.length_lt
    have behind := second.length_lt
    have between := sign.length_lt
    have visible := isSpace_sign op
    have listed : op.sign ∈ Phrase.followers .product := by
      rcases isAdditive with rfl | rfl <;> decide
    exact (ihFirst (by omega) (sign.follows visible listed)).step sign visible
      (additive?_eq_some.mpr ⟨isAdditive, rfl⟩)
      (joined_ignoresBlanks _ (signed_ignoresBlanks depth))
      ((ihSecond (by omega)).product follows) behind.le
  | ofSigned _ ih => exact fun follows => chainsTo_of_accept (ih deep follows)
  | @product op text middle after rest left right isMultiplicative first sign second ihFirst
      ihSecond =>
    intro follows
    have before := first.length_lt
    have behind := second.length_lt
    have between := sign.length_lt
    have visible := isSpace_sign op
    have listed : op.sign ∈ Phrase.followers .signed := by
      rcases isMultiplicative with rfl | rfl <;> decide
    exact (ihFirst (by omega) (sign.follows visible listed)).step sign visible
      (multiplicative?_eq_some.mpr ⟨isMultiplicative, rfl⟩) (signed_ignoresBlanks depth)
      (ihSecond (by omega) follows) behind.le
  | minus sign signed ih =>
    have inside := signed.length_lt
    have short := sign.length_lt
    obtain ⟨nested, rfl⟩ := Nat.exists_eq_add_one.mpr (show 0 < depth by omega)
    exact fun follows => accept_minus sign (ih (by omega) follows)
  | plus sign _ ih =>
    have short := sign.length_lt
    exact fun follows => accept_plus sign (ih (by omega) follows)
  | ofPower power ih => exact fun follows => signed_of_power power (ih deep follows)
  | power first sign second ihFirst ihSecond =>
    have before := first.length_lt
    have behind := second.length_lt
    have between := sign.length_lt
    obtain ⟨nested, rfl⟩ := Nat.exists_eq_add_one.mpr (show 0 < depth by omega)
    exact fun follows => accept_power (ihFirst (by omega) (sign.follows rfl (by decide))) sign
      (ihSecond (by omega) follows)
  | ofAtom _ ih =>
    exact fun follows => power_of_atom (ih deep (follows.of_subset (by decide))) follows
  | number numeral read token => exact fun follows => accept_number numeral read token follows.stops
  | identifier isIdentifier token => exact accept_identifier isIdentifier token
  | call isIdentifier token opened sum closed calls ih =>
    have inside := sum.length_lt
    have named := token.length_le
    have before := opened.length_lt
    have behind := closed.length_lt
    obtain ⟨nested, rfl⟩ := Nat.exists_eq_add_one.mpr (show 0 < depth by omega)
    exact fun _ => accept_call (sum_ignoresBlanks nested) isIdentifier token opened
      ((ih (by omega)).sum (closed.follows rfl (by decide))) closed calls
  | enclosed opened sum closed ih =>
    have inside := sum.length_lt
    have before := opened.length_lt
    have behind := closed.length_lt
    obtain ⟨nested, rfl⟩ := Nat.exists_eq_add_one.mpr (show 0 < depth by omega)
    exact fun _ => accept_parenthesis (sum_ignoresBlanks nested) opened
      ((ih (by omega)).sum (closed.follows rfl (by decide))) closed

end Expr

end MultipleShooting
