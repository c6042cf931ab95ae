/-
**What a document makes of names and expressions.**

A token is read as a value, and the text of the value is what names and expressions are taken from.

* `Document.KeepsMeaning`: that text is read as the same expression as the token, and a name stays
  the name that it is;
* `Document.IsOrdinary`: a token that is read as no infinite or undefined double;
* `Document.keepsMeaning_iff`: **exactly the ordinary tokens keep their meaning**, and of the others
  those that are written as such a double is.

A token that is read as a number is digits under an optional sign, and its text is other digits of
the same number (`Document.keepsMeaning_of_integer`, `Document.keepsMeaning_of_isFinite`).
-/
import MultipleShooting.Proofs.Decimal.ReadBack
import MultipleShooting.Proofs.Decimal.Reading
import MultipleShooting.Proofs.Document.Writing
import MultipleShooting.Proofs.Expr.Parser
import MultipleShooting.Proofs.Expr.Same

namespace MultipleShooting

open Grammar

/-! ### Words under a sign -/

namespace Expr

variable {sign digits name : List Char} {negative : Bool} {decimal : Decimal} {value : Float}

/-- A word under an optional sign is an expression. -/
theorem writes_signed {expr : Expr Float} (signed : SignMark sign negative)
    (atom : Derives .atom name expr []) :
    Writes (String.ofList (sign ++ name)) (if negative then expr.signChanged else expr) := by
  rw [Writes, String.toList_ofList]
  cases signed with
  | none => exact .ofProduct (.ofSigned (.ofPower (.ofAtom atom)))
  | plus => exact .ofProduct (.ofSigned (.plus (token_append ['+'] _) (.ofAtom atom)))
  | minus =>
    exact .ofProduct (.ofSigned (.minus (token_append ['-'] _) (.ofPower (.ofAtom atom))))

/-- A numeral under an optional sign is a constant. -/
theorem parse_numeral (signed : SignMark sign negative) (written : Numeral digits decimal) :
    parse (String.ofList (sign ++ digits)) =
      .ok (const (if negative then -decimal.toDouble else decimal.toDouble)) := by
  have token : Grammar.Token digits digits [] := by
    simpa using token_append digits []
  have atom := Derives.number written (Decimal.read?_eq_some written) token
  rw [parse_of_writes (writes_signed signed atom)]
  split_ifs <;> rfl

/-- An identifier under an optional sign is a variable or its negative. -/
theorem parse_name (signed : SignMark sign negative) (isIdentifier : IsIdentifier name) :
    parse (String.ofList (sign ++ name)) = .ok (if negative then
      (var (String.ofList name) : Expr Float).negated else var (String.ofList name)) := by
  have token : Grammar.Token name name [] := by
    simpa using token_append name []
  have atom : Derives .atom name (var (String.ofList name) : Expr Float) [] :=
    .identifier isIdentifier token
  rw [parse_of_writes (writes_signed signed atom)]
  rfl

/-- The text of a finite double is a constant. -/
theorem parse_shortestText (finite : Number.isFinite value = true) :
    parse (Decimal.shortestText .plain value) = .ok (const value) := by
  obtain ⟨decimal, written, magnitude⟩ := Decimal.numeral_magnitude finite
  have whole := Double.signed_abs (Double.unpacked_isFinite_iff.mp finite).1
  have shown := Decimal.write_eq finite
  have same : Decimal.shortestText .plain value = String.ofList (DecimalText.write value) :=
    String.ofList_toList.symm
  rw [same, shown]
  split_ifs at whole ⊢ with negative
  · have parsed := parse_numeral .minus written
    rwa [if_pos rfl, magnitude, whole] at parsed
  · have parsed := parse_numeral .none written
    rwa [if_neg Bool.false_ne_true, magnitude, whole] at parsed

end Expr

namespace Document

variable {token : List Char}

/-! ### Tokens and their texts -/

/-- The text that is handed on for a token. -/
def handedOn (token : List Char) : String := (Value.ofToken token).toText

/-- A token keeps its meaning: it is read as the expression that its text is read as, and a name
stays the name that it is. -/
structure KeepsMeaning (token : List Char) : Prop where
  parses : Expr.ReadAlike (Expr.parse (handedOn token)) (Expr.parse (String.ofList token))
  named : IsIdentifier token → handedOn token = String.ofList token

/-- A token that is read as no infinite or undefined double. -/
def IsOrdinary (token : List Char) : Prop :=
  ∀ value, Value.ofToken token = .float value → Number.isFinite value = true

theorem keepsMeaning_of_eq (same : handedOn token = String.ofList token) : KeepsMeaning token :=
  ⟨same ▸ Expr.ReadAlike.refl _, fun _ => same⟩

/-- Digits under an optional sign are no identifier. -/
theorem not_isIdentifier_of_head {sign : List Char} {negative : Bool} {char : Char}
    {others : List Char} (signed : SignMark sign negative) (inside : isPointOrDigit char = true) :
    ¬ IsIdentifier (sign ++ char :: others) := by
  intro isIdentifier
  obtain ⟨first, rest, same, start⟩ := isIdentifier.head
  cases signed with
  | none =>
    cases same
    rw [(noNumber_of_isIdentifierStart start).1] at inside
    cases inside
  | plus =>
    cases same
    cases start
  | minus =>
    cases same
    cases start

/-- The text of a whole number: its digits, under a minus sign if it is negative. -/
theorem toString_integer (value : ℤ) : ∃ sign, SignMark sign (decide (value < 0)) ∧
    toString value = String.ofList (sign ++ Nat.toDigits 10 value.natAbs) := by
  cases value with
  | ofNat natural => exact ⟨[], .none, rfl⟩
  | negSucc natural =>
    have below : decide (Int.negSucc natural < 0) = true := decide_eq_true (Int.negSucc_lt_zero _)
    exact ⟨['-'], below ▸ .minus, String.ofList_append.symm⟩

theorem digits_toDigits (natural : ℕ) : Digits (Nat.toDigits 10 natural) :=
  Decimal.digits_digits ⟨natural, 0⟩

/-- Digits are a numeral without decimal places. -/
theorem numeral_of_digits {digits : List Char} (nonempty : digits ≠ [])
    (allDigits : Digits digits) : Numeral digits ⟨Decimal.naturalOf digits, 0⟩ := by
  have written := Decimal.numeral_of_mantissa (.whole nonempty allDigits)
  rwa [List.append_nil] at written

/-- Digits under an optional sign are read as the double of their number. -/
theorem readDouble?_of_digits {sign digits : List Char} {negative : Bool}
    (signed : SignMark sign negative) (nonempty : digits ≠ []) (allDigits : Digits digits) :
    Decimal.readDouble? (sign ++ digits) =
      some (if negative then -Decimal.toDouble ⟨Decimal.naturalOf digits, 0⟩
        else Decimal.toDouble ⟨Decimal.naturalOf digits, 0⟩) :=
  Decimal.readDouble?_iff.mpr ⟨sign, negative, digits, _, signed, rfl,
    .numeral (numeral_of_digits nonempty allDigits), rfl⟩

/-- What the text of a whole number is read as. -/
theorem parse_toString (value : ℤ) : Expr.parse (toString value) = .ok (.const
    (if value < 0 then -Decimal.toDouble ⟨value.natAbs, 0⟩
      else Decimal.toDouble ⟨value.natAbs, 0⟩)) := by
  obtain ⟨sign, signed, shown⟩ := toString_integer value
  have written := numeral_of_digits Nat.toDigits_ne_nil (digits_toDigits value.natAbs)
  rw [Decimal.naturalOf_toDigits] at written
  rw [shown, Expr.parse_numeral signed written]
  simp only [decide_eq_true_eq]

theorem ofToken_integer {value : ℤ} (read : Decimal.readInteger? token = some value) :
    Value.ofToken token = .integer value := by
  unfold Value.ofToken
  rw [read]

/-- **A token that is read as a whole number keeps its meaning.** The sign of a zero is lost. -/
theorem keepsMeaning_of_integer {value : ℤ} (read : Decimal.readInteger? token = some value) :
    KeepsMeaning token := by
  have shown : handedOn token = toString value := congrArg Value.toText (ofToken_integer read)
  obtain ⟨sign, negative, digits, signed, rfl, nonempty, allDigits, same, -⟩ :=
    Decimal.readInteger?_iff.mp read
  obtain ⟨digit, others, rfl, inside⟩ := Decimal.head_digits nonempty allDigits
  refine ⟨?_, fun name => absurd name (not_isIdentifier_of_head signed inside)⟩
  rw [shown, parse_toString, Expr.parse_numeral signed (numeral_of_digits nonempty allDigits)]
  refine .read (.const ?_)
  generalize Decimal.naturalOf (digit :: others) = natural at same
  have magnitude : value.natAbs = natural := by
    rw [same]
    split_ifs <;> omega
  rw [magnitude]
  by_cases below : value < 0
  · have minus : negative = true := by
      by_contra plus
      rw [if_neg plus] at same
      omega
    rw [if_pos below, if_pos minus]
    exact .inl rfl
  · rw [if_neg below]
    by_cases minus : negative = true
    · -- only of a zero the sign is not kept
      have zero : natural = 0 := by
        rw [if_pos minus] at same
        omega
      rw [if_pos minus, zero]
      exact .inr ⟨by decide, by decide⟩
    · rw [if_neg minus]
      exact .inl rfl

theorem ofToken_float {value : Float} (notWhole : Decimal.readInteger? token = none)
    (read : Decimal.readDouble? token = some value) : Value.ofToken token = .float value := by
  unfold Value.ofToken
  rw [notWhole, read]

theorem handedOn_of_readDouble? {value : Float} (notWhole : Decimal.readInteger? token = none)
    (read : Decimal.readDouble? token = some value) :
    handedOn token = Decimal.shortestText .plain value :=
  congrArg Value.toText (ofToken_float notWhole read)

/-- A value that has a name is not finite. -/
theorem not_isFinite_of_names {magnitude : Float} {text : List Char} {negative : Bool}
    (names : Decimal.Names text magnitude) :
    Number.isFinite (if negative then -magnitude else magnitude) = false := by
  rcases names with named | named <;> cases negative <;> decide

/-- **A token that is read as a finite double keeps its meaning.** -/
theorem keepsMeaning_of_isFinite {value : Float} (notWhole : Decimal.readInteger? token = none)
    (read : Decimal.readDouble? token = some value) (finite : Number.isFinite value = true) :
    KeepsMeaning token := by
  have shown := handedOn_of_readDouble? notWhole read
  obtain ⟨sign, negative, body, magnitude, signed, rfl, written, rfl⟩ :=
    Decimal.readDouble?_iff.mp read
  rcases written with written | named
  · obtain ⟨char, others, rfl, inside⟩ := written.head
    refine ⟨?_, fun name => absurd name (not_isIdentifier_of_head signed inside)⟩
    rw [shown, Expr.parse_shortestText finite, Expr.parse_numeral signed written]
    exact .read (.refl _)
  · rw [not_isFinite_of_names named] at finite
    cases finite

/-- A token that is read as no number is handed on as it is. -/
theorem handedOn_of_none (notWhole : Decimal.readInteger? token = none)
    (notDouble : Decimal.readDouble? token = none) :
    handedOn token = String.ofList token := by
  have types := types_ofToken token
  unfold handedOn
  generalize Value.ofToken token = value at types
  cases types with
  | integer whole =>
    rw [notWhole] at whole
    cases whole
  | float _ double =>
    rw [notDouble] at double
    cases double
  | boolean _ _ truth =>
    rw [truth]
    rfl
  | text _ _ _ _ => rfl

/-- A token that is read as no number is ordinary. -/
theorem isOrdinary_of_none (notDouble : Decimal.readDouble? token = none) : IsOrdinary token := by
  intro value typed
  have types := types_ofToken token
  rw [typed] at types
  cases types with
  | float _ double =>
    rw [notDouble] at double
    cases double

/-- **An ordinary token keeps its meaning.** -/
theorem keepsMeaning_of_isOrdinary (ordinary : IsOrdinary token) : KeepsMeaning token := by
  cases whole : Decimal.readInteger? token with
  | some value => exact keepsMeaning_of_integer whole
  | none =>
    cases read : Decimal.readDouble? token with
    | none => exact keepsMeaning_of_eq (handedOn_of_none whole read)
    | some value =>
      exact keepsMeaning_of_isFinite whole read (ordinary value (ofToken_float whole read))

/-! ### Infinite and undefined doubles -/

/-- The texts that write an infinite or undefined double as it is handed on, with an optional plus
sign. -/
def plainNames : List (List Char) :=
  [['i', 'n', 'f'], ['+', 'i', 'n', 'f'], ['-', 'i', 'n', 'f'], ['N', 'a', 'N'],
    ['+', 'N', 'a', 'N']]

/-- What is handed on for a double that is not finite. -/
theorem shortestText_of_not_isFinite {value : Float} (infinite : Number.isFinite value = false) :
    Decimal.shortestText .plain value = "NaN" ∨ Decimal.shortestText .plain value = "inf" ∨
      Decimal.shortestText .plain value = "-inf" := by
  have other : value.isFinite = false := infinite
  unfold Decimal.shortestText Decimal.signed
  simp only [other, Bool.false_eq_true, if_false]
  split_ifs
  · exact .inl rfl
  · exact .inr (.inr rfl)
  · exact .inr (.inl rfl)

/-- A plain name under an optional plus sign is a variable. -/
theorem parse_plainName {sign name : List Char} {magnitude : Float}
    (signed : SignMark sign false) (names : Decimal.Names name magnitude) :
    Expr.parse (String.ofList (sign ++ name)) = .ok (.var (String.ofList name) : Expr Float) :=
  (Expr.parse_name signed names.isIdentifier).trans rfl

theorem names_inf : Decimal.Names ['i', 'n', 'f'] (1.0 / 0.0) := .infinite List.mem_cons_self

theorem names_nan : Decimal.Names ['N', 'a', 'N'] (0.0 / 0.0) := .undefined rfl

theorem parse_inf : Expr.parse "inf" = .ok (.var "inf" : Expr Float) := by
  have parsed := parse_plainName .none names_inf
  rwa [List.nil_append] at parsed

theorem parse_nan : Expr.parse "NaN" = .ok (.var "NaN" : Expr Float) := by
  have parsed := parse_plainName .none names_nan
  rwa [List.nil_append] at parsed

theorem parse_minusInf : Expr.parse "-inf" = .ok (.negated (.var "inf") : Expr Float) := by
  have parsed := Expr.parse_name .minus names_inf.isIdentifier
  rwa [if_pos rfl] at parsed

/-- The name of an infinite or undefined double is no constant. -/
theorem not_readAlike_const {value number : Float} (infinite : Number.isFinite value = false) :
    ¬ Expr.ReadAlike (Expr.parse (Decimal.shortestText .plain value)) (.ok (.const number)) := by
  intro alike
  rcases shortestText_of_not_isFinite infinite with shown | shown | shown
  · rw [shown, parse_nan] at alike
    obtain ⟨⟩ | ⟨⟨⟩⟩ := alike
  · rw [shown, parse_inf] at alike
    obtain ⟨⟩ | ⟨⟨⟩⟩ := alike
  · rw [shown, parse_minusInf] at alike
    obtain ⟨⟩ | ⟨⟨⟩⟩ := alike

/-- A variable that is read as one with a known name has that name. -/
theorem eq_of_readAlike_var {name : String} {body : List Char}
    (alike : Expr.ReadAlike (.ok (.var name)) (.ok (.var (String.ofList body)))) :
    body = name.toList := by
  obtain ⟨⟩ | ⟨same⟩ := alike
  generalize written : String.ofList body = other at same
  cases same
  rw [← written, String.toList_ofList]

/-- A name of the infinite double keeps its meaning only if it is the plain one. -/
theorem mem_plainNames_infinite {sign body : List Char} {negative : Bool}
    (signed : SignMark sign negative) (isIdentifier : IsIdentifier body)
    (alike : Expr.ReadAlike
      (Expr.parse (Decimal.shortestText .plain (if negative then -(1.0 / 0.0) else 1.0 / 0.0)))
      (Expr.parse (String.ofList (sign ++ body)))) : sign ++ body ∈ plainNames := by
  rw [Expr.parse_name signed isIdentifier] at alike
  cases signed with
  | none | plus =>
    have shown : Decimal.shortestText .plain (1.0 / 0.0) = "inf" := by decide +kernel
    rw [if_neg Bool.false_ne_true, if_neg Bool.false_ne_true, shown, parse_inf] at alike
    rw [eq_of_readAlike_var alike]
    decide
  | minus =>
    have shown : Decimal.shortestText .plain (-(1.0 / 0.0)) = "-inf" := by decide +kernel
    rw [if_pos rfl, if_pos rfl, shown, parse_minusInf] at alike
    obtain ⟨⟩ | ⟨- | - | ⟨-, -, same⟩⟩ := alike
    rw [eq_of_readAlike_var (.read same)]
    decide

/-- A name of the undefined double keeps its meaning only if it is the plain one. -/
theorem mem_plainNames_undefined {sign body : List Char} {negative : Bool} {value : Float}
    (undefined : value.isNaN = true) (signed : SignMark sign negative)
    (isIdentifier : IsIdentifier body)
    (alike : Expr.ReadAlike (Expr.parse (Decimal.shortestText .plain value))
      (Expr.parse (String.ofList (sign ++ body)))) : sign ++ body ∈ plainNames := by
  have shown : Decimal.shortestText .plain value = "NaN" := by
    rw [Decimal.shortestText, Decimal.signed, if_pos undefined]
  rw [Expr.parse_name signed isIdentifier, shown, parse_nan] at alike
  cases signed with
  | none | plus =>
    rw [if_neg Bool.false_ne_true] at alike
    rw [eq_of_readAlike_var alike]
    decide
  | minus => obtain ⟨⟩ | ⟨⟨⟩⟩ := alike

/-- A name of an infinite or undefined double keeps its meaning only if it is the plain one. -/
theorem mem_plainNames {sign body : List Char} {negative : Bool} {magnitude : Float}
    (signed : SignMark sign negative) (names : Decimal.Names body magnitude)
    (alike : Expr.ReadAlike
      (Expr.parse (Decimal.shortestText .plain (if negative then -magnitude else magnitude)))
      (Expr.parse (String.ofList (sign ++ body)))) : sign ++ body ∈ plainNames := by
  have isIdentifier := names.isIdentifier
  rcases names with named | named
  · exact mem_plainNames_infinite signed isIdentifier alike
  · exact mem_plainNames_undefined (by cases negative <;> decide) signed isIdentifier alike

/-- A plain name after a plus sign is handed on without it. -/
theorem keepsMeaning_of_plus {name : List Char} {magnitude : Float}
    (names : Decimal.Names name magnitude)
    (shown : handedOn ('+' :: name) = String.ofList name) : KeepsMeaning ('+' :: name) := by
  refine ⟨?_, fun isIdentifier => ?_⟩
  · have unsigned := parse_plainName .none names
    have withPlus := parse_plainName .plus names
    rw [List.nil_append] at unsigned
    rw [List.singleton_append] at withPlus
    rw [shown, unsigned, withPlus]
    exact .read (.refl _)
  · obtain ⟨first, others, same, start⟩ := isIdentifier.head
    cases same
    cases start

/-- The plain names keep their meaning. -/
theorem keepsMeaning_of_mem_plainNames (plain : token ∈ plainNames) : KeepsMeaning token := by
  simp only [plainNames, List.mem_cons, List.not_mem_nil, or_false] at plain
  rcases plain with rfl | rfl | rfl | rfl | rfl
  · exact keepsMeaning_of_eq (by decide +kernel)
  · exact keepsMeaning_of_plus names_inf (by decide +kernel)
  · exact keepsMeaning_of_eq (by decide +kernel)
  · exact keepsMeaning_of_eq (by decide +kernel)
  · exact keepsMeaning_of_plus names_nan (by decide +kernel)

/-- A token of an infinite or undefined double keeps its meaning only as a plain name. -/
theorem mem_plainNames_of_keepsMeaning {value : Float}
    (notWhole : Decimal.readInteger? token = none)
    (read : Decimal.readDouble? token = some value) (infinite : Number.isFinite value = false)
    (keeps : KeepsMeaning token) : token ∈ plainNames := by
  have shown := handedOn_of_readDouble? notWhole read
  have alike := keeps.parses
  rw [shown] at alike
  obtain ⟨sign, negative, body, magnitude, signed, rfl, written, rfl⟩ :=
    Decimal.readDouble?_iff.mp read
  rcases written with written | names
  · -- a numeral beyond the range of doubles is a constant, its name is not
    rw [Expr.parse_numeral signed written] at alike
    exact absurd alike (not_readAlike_const infinite)
  · exact mem_plainNames signed names alike

/-- **Which tokens keep their meaning**: the ordinary ones, and of the others those that have the
plain name of an infinite or undefined double, with an optional plus sign. -/
theorem keepsMeaning_iff (token : Token) :
    KeepsMeaning token.chars ↔ IsOrdinary token.chars ∨ token.chars ∈ plainNames := by
  constructor
  · intro keeps
    by_contra neither
    obtain ⟨notOrdinary, notPlain⟩ := not_or.mp neither
    unfold IsOrdinary at notOrdinary
    push Not at notOrdinary
    obtain ⟨value, typed, infinite⟩ := notOrdinary
    have types := types_ofToken token.chars
    rw [typed] at types
    cases types with
    | float notWhole read =>
      exact notPlain (mem_plainNames_of_keepsMeaning notWhole read
        (Bool.not_eq_true _ ▸ infinite) keeps)
  · exact fun either => either.elim keepsMeaning_of_isOrdinary keepsMeaning_of_mem_plainNames

/-- A state that is called `nan` is handed on as `NaN`. -/
theorem not_keepsMeaning_nan : IsIdentifier ['n', 'a', 'n'] ∧ handedOn ['n', 'a', 'n'] = "NaN" ∧
    ¬ KeepsMeaning ['n', 'a', 'n'] := by
  have undefined : Decimal.Names ['n', 'a', 'n'] _ := .undefined rfl
  have isIdentifier := undefined.isIdentifier
  have shown : handedOn ['n', 'a', 'n'] = "NaN" := by decide +kernel
  refine ⟨isIdentifier, shown, fun keeps => ?_⟩
  have named := keeps.named isIdentifier
  rw [shown] at named
  exact absurd named (by decide)

end Document

end MultipleShooting
