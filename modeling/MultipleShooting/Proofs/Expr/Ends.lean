/-
**The ends of a phrase.**

Which characters a phrase begins with, and which may come after it:

* `Grammar.Follows`: what comes after a phrase does not continue it. No such character is part of an
  identifier (`Grammar.Follows.stops`), so the last word of the phrase is read to its end;
* `Grammar.Derives.atom_head`: an atom begins with a part of an identifier or a parenthesis, so an
  operand without sign is not taken for one with a sign;
* `Grammar.Derives.trim_ne_nil`: a text that begins with a phrase is not blank.
-/
import MultipleShooting.Proofs.Expr.Token

namespace MultipleShooting

open Grammar

/-! ### Characters -/

theorem isDigit_of_isAlpha {char : Char} (letter : char.isAlpha = true) : char.isDigit = false := by
  simp only [Char.isAlpha, Char.isUpper, Char.isLower, Char.isDigit, UInt32.le_iff_toNat_le]
    at letter ⊢
  grind

/-- The characters of identifiers lie between the point and the last letter. -/
theorem toNat_of_isIdentifierPart {char : Char} (part : isIdentifierPart char = true) :
    46 ≤ char.toNat ∧ char.toNat ≤ 122 := by
  rcases isIdentifierPart_iff.mp part with letter | rfl | rfl
  · simp only [Char.isAlphanum, Char.isAlpha, Char.isUpper, Char.isLower, Char.isDigit,
      UInt32.le_iff_toNat_le] at letter
    simp only [Char.toNat]
    grind
  · decide
  · decide

/-- No white space is part of an identifier. -/
theorem isBlank_of_isIdentifierPart {char : Char} (part : isIdentifierPart char = true) :
    Text.isBlank char = false := by
  have range := toNat_of_isIdentifierPart part
  simp only [Text.isBlank]
  grind

theorem isIdentifierPart_of_isIdentifierStart {char : Char}
    (start : isIdentifierStart char = true) : isIdentifierPart char = true := by
  refine isIdentifierPart_iff.mpr ((isIdentifierStart_iff.mp start).imp (fun letter => ?_) .inl)
  rw [Char.isAlphanum, letter, Bool.true_or]

/-- No number begins as an identifier does. -/
theorem noNumber_of_isIdentifierStart {char : Char} (start : isIdentifierStart char = true) :
    isPointOrDigit char = false ∧ char ≠ '+' ∧ char ≠ '-' := by
  rcases isIdentifierStart_iff.mp start with letter | rfl
  · refine ⟨?_, ?_, ?_⟩
    · rw [isPointOrDigit, isDigit_of_isAlpha letter, Bool.false_or]
      exact beq_eq_false_iff_ne.mpr fun same => by rw [same] at letter; cases letter
    · exact fun same => by rw [same] at letter; cases letter
    · exact fun same => by rw [same] at letter; cases letter
  · decide

/-- The blanks of the grammar are no part of an identifier. -/
theorem isIdentifierPart_of_isSpace {char : Char} (blank : Rule.isSpace char = true) :
    isIdentifierPart char = false := by
  simp only [Rule.isSpace, Bool.or_eq_true, beq_iff_eq] at blank
  rcases blank with ((rfl | rfl) | rfl) | rfl <;> rfl

theorem isSpace_of_isIdentifierPart {char : Char} (part : isIdentifierPart char = true) :
    Rule.isSpace char = false := by
  by_contra blank
  rw [isIdentifierPart_of_isSpace (Bool.not_eq_false _ ▸ blank)] at part
  cases part

/-- Where no part of an identifier comes after the blanks, none continues an identifier. -/
theorem stops_of_skip {blanks rest : List Char} (blank : Rule.Blanks blanks)
    (stop : Stops isIdentifierPart (Rule.skip rest)) :
    Stops isIdentifierPart (blanks ++ rest) := by
  intro char among
  by_cases visible : Rule.isSpace char = true
  · exact isIdentifierPart_of_isSpace visible
  · have unskipped : Rule.skip (blanks ++ rest) = blanks ++ rest := by
      refine Rule.skip_of_stops fun first same => ?_
      rw [Option.mem_unique same among]
      exact Bool.eq_false_iff.mpr visible
    rw [Rule.skip_append blank] at unskipped
    exact stop char (unskipped ▸ among)

namespace Grammar

/-! ### What comes after a phrase -/

/-- The characters that may come after a phrase without continuing it. -/
def Phrase.followers : Phrase → List Char
  | .sum => [')']
  | .product => ['+', '-', ')']
  | .signed | .power => ['*', '/', '+', '-', ')']
  | .atom => ['^', '*', '/', '+', '-', ')']

/-- What comes after a phrase does not continue it. -/
def Follows (phrase : Phrase) (rest : List Char) : Prop :=
  ∀ char ∈ (Rule.skip rest).head?, char ∈ phrase.followers

theorem follows_nil (phrase : Phrase) : Follows phrase [] := fun _ among => by cases among

theorem Follows.of_subset {phrase wider : Phrase} {rest : List Char} (follows : Follows phrase rest)
    (subset : phrase.followers ⊆ wider.followers) : Follows wider rest :=
  fun char among => subset (follows char among)

/-- No follower is a part of an identifier. -/
theorem Follows.stops {phrase : Phrase} {rest : List Char} (follows : Follows phrase rest) :
    Stops isIdentifierPart (Rule.skip rest) := by
  intro char among
  have listed := follows char among
  cases phrase <;> simp only [Phrase.followers, List.mem_cons, List.not_mem_nil, or_false] at listed
  case sum => rw [listed]; rfl
  case product => rcases listed with rfl | rfl | rfl <;> rfl
  case signed | power => rcases listed with rfl | rfl | rfl | rfl | rfl <;> rfl
  case atom => rcases listed with rfl | rfl | rfl | rfl | rfl | rfl <;> rfl

/-- A token after blanks. -/
theorem Token.skip_eq {char : Char} {word text rest : List Char}
    (token : Token (char :: word) text rest) (visible : Rule.isSpace char = false) :
    ∃ after, Rule.Blanks after ∧ Rule.skip text = char :: (word ++ (after ++ rest)) := by
  obtain ⟨before, after, blankBefore, blankAfter, rfl⟩ := token
  refine ⟨after, blankAfter, ?_⟩
  rw [Rule.skip_append blankBefore]
  exact Rule.skip_cons visible

theorem Token.follows {phrase : Phrase} {char : Char} {text rest : List Char}
    (token : Token [char] text rest) (visible : Rule.isSpace char = false)
    (listed : char ∈ phrase.followers) : Follows phrase text := by
  obtain ⟨after, -, shown⟩ := token.skip_eq visible
  intro first among
  rw [shown] at among
  cases among
  exact listed

end Grammar

variable {α : Type} [Number α] [DecimalText α]

/-! ### Beginnings -/

/-- The first character of a numeral is a digit or a point. -/
theorem Grammar.Numeral.head {digits : List Char} {decimal : Decimal}
    (written : Numeral digits decimal) :
    ∃ char others, digits = char :: others ∧ isPointOrDigit char = true := by
  obtain ⟨mantissa, -⟩ := written
  cases mantissa with
  | fraction _ _ => exact ⟨'.', _, rfl, rfl⟩
  | whole nonempty digits =>
    obtain ⟨digit, others, rfl⟩ := List.exists_cons_of_ne_nil nonempty
    refine ⟨digit, _, rfl, ?_⟩
    rw [isPointOrDigit, digits digit List.mem_cons_self, Bool.true_or]
  | pointed nonempty digits _ =>
    obtain ⟨digit, others, rfl⟩ := List.exists_cons_of_ne_nil nonempty
    refine ⟨digit, _, rfl, ?_⟩
    rw [isPointOrDigit, digits digit List.mem_cons_self, Bool.true_or]

theorem Grammar.IsIdentifier.head {name : List Char} (isIdentifier : IsIdentifier name) :
    ∃ char others, name = char :: others ∧ isIdentifierStart char = true := by
  obtain ⟨start, -⟩ := isIdentifier
  exact ⟨_, _, rfl, isIdentifierStart_iff.mpr start⟩

theorem Grammar.IsIdentifier.parts {name : List Char} (isIdentifier : IsIdentifier name) :
    ∀ char ∈ name, isIdentifierPart char = true := by
  obtain ⟨start, parts⟩ := isIdentifier
  exact List.forall_mem_cons.mpr
    ⟨isIdentifierPart_of_isIdentifierStart (isIdentifierStart_iff.mpr start),
      fun char among => isIdentifierPart_iff.mpr (parts char among)⟩

/-- The first character of an atom is part of an identifier or opens a parenthesis. -/
theorem Grammar.Derives.atom_head {text rest : List Char} {expr : Expr α}
    (derived : Derives .atom text expr rest) : ∃ char others, Rule.skip text = char :: others ∧
      (isIdentifierPart char = true ∨ char = '(') := by
  cases derived with
  | number written _ token =>
    obtain ⟨char, others, rfl, inside⟩ := written.head
    have part := isIdentifierPart_of_isPointOrDigit inside
    obtain ⟨after, -, shown⟩ := token.skip_eq (isSpace_of_isIdentifierPart part)
    exact ⟨char, _, shown, .inl part⟩
  | identifier isIdentifier token | call isIdentifier token _ _ _ _ =>
    obtain ⟨char, others, rfl, start⟩ := isIdentifier.head
    have part := isIdentifierPart_of_isIdentifierStart start
    obtain ⟨after, -, shown⟩ := token.skip_eq (isSpace_of_isIdentifierPart part)
    exact ⟨char, _, shown, .inl part⟩
  | enclosed opened =>
    obtain ⟨after, -, shown⟩ := opened.skip_eq rfl
    exact ⟨'(', _, shown, .inr rfl⟩

/-- A power begins with its base. -/
theorem Grammar.Derives.power_head {text rest : List Char} {expr : Expr α}
    (derived : Derives .power text expr rest) : ∃ char others, Rule.skip text = char :: others ∧
      (isIdentifierPart char = true ∨ char = '(') := by
  cases derived with
  | power base _ _ => exact base.atom_head
  | ofAtom atom => exact atom.atom_head

/-- A phrase has a character that is no white space. -/
theorem Grammar.Derives.exists_visible {phrase : Phrase} {text rest : List Char} {expr : Expr α}
    (derived : Derives phrase text expr rest) : ∃ char ∈ text, Text.isBlank char = false := by
  have visible {text rest : List Char} {expr : Expr α} (atom : Derives .atom text expr rest) :
      ∃ char ∈ text, Text.isBlank char = false := by
    obtain ⟨char, others, shown, start⟩ := atom.atom_head
    have among : char ∈ Rule.skip text := by
      rw [shown]
      exact List.mem_cons_self
    refine ⟨char, (List.dropWhile_suffix Rule.isSpace).subset among, ?_⟩
    · rcases start with part | rfl
      · exact isBlank_of_isIdentifierPart part
      · rfl
  induction derived with
  | ofProduct _ ih | ofSigned _ ih | ofPower _ ih | ofAtom _ ih => exact ih
  | sum _ _ _ _ ih _ | product _ _ _ _ ih _ | power _ _ _ ih _ => exact ih
  | minus sign _ _ | plus sign _ _ =>
    obtain ⟨before, after, -, -, rfl⟩ := sign
    exact ⟨_, List.mem_append_right _ List.mem_cons_self, rfl⟩
  | number numeral read token => exact visible (.number numeral read token)
  | identifier isIdentifier token =>
    exact visible (.identifier isIdentifier token)
  | call isIdentifier token opened sum closed calls _ =>
    exact visible (.call isIdentifier token opened sum closed calls)
  | enclosed opened sum closed _ => exact visible (.enclosed opened sum closed)

/-- A text that begins with a phrase is not blank. -/
theorem Grammar.Derives.trim_ne_nil {phrase : Phrase} {text rest : List Char} {expr : Expr α}
    (derived : Derives phrase text expr rest) : Text.trim text ≠ [] := by
  obtain ⟨char, among, visible⟩ := derived.exists_visible
  intro empty
  have blank : Text.isBlank char = true := by
    have trailing := List.dropWhile_eq_nil_iff.mp (List.reverse_eq_nil_iff.mp empty)
    rw [← List.takeWhile_append_dropWhile (p := Text.isBlank) (l := text)] at among
    rcases List.mem_append.mp among with leading | kept
    · exact List.mem_takeWhile_imp leading
    · exact trailing char (List.mem_reverse.mpr kept)
  rw [visible] at blank
  cases blank

end MultipleShooting
