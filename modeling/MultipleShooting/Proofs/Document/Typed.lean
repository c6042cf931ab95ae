/-
**Tokens of numbers, counts and flags.**

Which tokens write a number (`Document.WritesNumber`), a count (`Document.WritesCount`) and a flag
(`Document.WritesFlag`), and that the values of these tokens are read as what they write. A whole
zero is written without a sign, and a count is read only if it fits in 64 signed bits.

* `Document.exists_writesNumber`, `Document.exists_writesCount`: every double and every natural
  number is written by some token.
-/
import MultipleShooting.Problem
import MultipleShooting.Proofs.Document.Meaning
import MultipleShooting.Proofs.Number.Order

namespace MultipleShooting

open Grammar

namespace Document

variable {token : List Char}

/-! ### Numbers -/

/-- A token writes the double that it is read as; a whole zero has no sign. -/
def WritesNumber (token : List Char) (value : Float) : Prop :=
  if Decimal.readInteger? token = some 0 then value = 0.0
  else Decimal.readDouble? token = some value

/-- The double nearest to a whole number, as it is read from the digits. -/
theorem readDouble?_of_readInteger? {whole : ℤ} (read : Decimal.readInteger? token = some whole)
    (nonzero : whole ≠ 0) : Decimal.readDouble? token = some
      (if whole < 0 then -Decimal.toDouble ⟨whole.natAbs, 0⟩
        else Decimal.toDouble ⟨whole.natAbs, 0⟩) := by
  obtain ⟨sign, negative, digits, signed, rfl, nonempty, allDigits, rfl, -⟩ :=
    Decimal.readInteger?_iff.mp read
  rw [readDouble?_of_digits signed nonempty allDigits]
  generalize Decimal.naturalOf digits = natural at nonzero ⊢
  cases negative with
  | true =>
    have below : (if true = true then -(natural : ℤ) else natural) < 0 := by
      rw [if_pos rfl] at nonzero ⊢
      omega
    rw [if_pos below, if_pos rfl, if_pos rfl, Int.natAbs_neg, Int.natAbs_natCast]
  | false =>
    have above : ¬ (if false = true then -(natural : ℤ) else natural) < 0 := by
      rw [if_neg Bool.false_ne_true]
      omega
    rw [if_neg above, if_neg Bool.false_ne_true, if_neg Bool.false_ne_true, Int.natAbs_natCast]

/-- **The value of a token that writes a number** is this number. -/
theorem asFloat?_ofToken {value : Float} (written : WritesNumber token value) :
    (Value.ofToken token).asFloat? = some value := by
  unfold WritesNumber at written
  cases whole : Decimal.readInteger? token with
  | none =>
    rw [whole, if_neg (fun same => by cases same)] at written
    rw [ofToken_float whole written]
    rfl
  | some number =>
    rw [ofToken_integer whole]
    split_ifs at written with zero
    · rw [whole] at zero
      cases zero
      rw [written]
      decide
    · have nonzero : number ≠ 0 := fun same => zero (same ▸ whole)
      rw [readDouble?_of_readInteger? whole nonzero] at written
      exact written

/-! ### Every double has a token -/

/-- The characters of numbers, among others. -/
def isNumberPart (char : Char) : Bool := isIdentifierPart char || char == '+' || char == '-'

theorem isNumberPart_of_isIdentifierPart {char : Char} (part : isIdentifierPart char = true) :
    isNumberPart char = true := by
  rw [isNumberPart, part, Bool.true_or, Bool.true_or]

/-- What may stand in a number may stand in a token. -/
theorem separate_of_isNumberPart {char : Char} (part : isNumberPart char = true) :
    char ≠ ',' ∧ char ≠ ';' ∧ Text.isBlank char = false := by
  simp only [isNumberPart, Bool.or_eq_true, beq_iff_eq] at part
  rcases part with (part | rfl) | rfl
  · refine ⟨?_, ?_, isBlank_of_isIdentifierPart part⟩ <;> rintro rfl <;> cases part
  · decide
  · decide

/-- A token of such characters. -/
def Token.ofParts (chars : List Char) (ne_nil : chars ≠ [])
    (parts : chars.all isNumberPart = true) : Token :=
  ⟨chars, ne_nil, fun char among => separate_of_isNumberPart (List.all_eq_true.mp parts char among)⟩

theorem isNumberPart_of_digits {digits : List Char} (allDigits : Digits digits) :
    ∀ char ∈ digits, isNumberPart char = true := by
  intro char among
  refine isNumberPart_of_isIdentifierPart (isIdentifierPart_of_isPointOrDigit ?_)
  rw [isPointOrDigit, allDigits char among, Bool.true_or]

/-- The characters of a numeral. -/
theorem isNumberPart_of_numeral {digits : List Char} {decimal : Decimal}
    (written : Numeral digits decimal) : ∀ char ∈ digits, isNumberPart char = true := by
  obtain ⟨mantissa, scaled⟩ := written
  rw [List.forall_mem_append]
  constructor
  · cases mantissa with
    | whole _ digits => exact isNumberPart_of_digits digits
    | pointed _ digits fractionDigits =>
      exact List.forall_mem_append.mpr ⟨isNumberPart_of_digits digits,
        List.forall_mem_cons.mpr ⟨rfl, isNumberPart_of_digits fractionDigits⟩⟩
    | fraction _ digits => exact List.forall_mem_cons.mpr ⟨rfl, isNumberPart_of_digits digits⟩
  · cases scaled with
    | none => exact fun _ among => by cases among
    | power isMark signed _ digits =>
      refine List.forall_mem_cons.mpr ⟨by rcases isMark with rfl | rfl <;> rfl,
        List.forall_mem_append.mpr ⟨?_, isNumberPart_of_digits digits⟩⟩
      cases signed with
      | none => exact fun _ among => by cases among
      | plus => exact List.forall_mem_singleton.mpr rfl
      | minus => exact List.forall_mem_singleton.mpr rfl

/-- The double of a whole zero is a zero. -/
theorem eq_zero_of_readInteger? {value : Float} (whole : Decimal.readInteger? token = some 0)
    (read : Decimal.readDouble? token = some value) : value = 0.0 ∨ value = -0.0 := by
  obtain ⟨sign, negative, digits, signed, rfl, nonempty, allDigits, zero, -⟩ :=
    Decimal.readInteger?_iff.mp whole
  have other := readDouble?_of_digits signed nonempty allDigits
  have natural : Decimal.naturalOf digits = 0 := by
    split_ifs at zero <;> omega
  rw [read, natural] at other
  rw [Option.some.inj other]
  cases negative with
  | true => exact .inr rfl
  | false => exact .inl rfl

theorem writesNumber_of_readDouble? {value : Float} (read : Decimal.readDouble? token = some value)
    (signed : value ≠ -0.0) : WritesNumber token value := by
  unfold WritesNumber
  split_ifs with zero
  · exact (eq_zero_of_readInteger? zero read).resolve_right signed
  · exact read

theorem writesNumber_of_notWhole {value : Float} (notWhole : Decimal.readInteger? token = none)
    (read : Decimal.readDouble? token = some value) : WritesNumber token value := by
  rw [WritesNumber, if_neg (fun same => by rw [notWhole] at same; cases same)]
  exact read

/-- **Every double is written by some token.** -/
theorem exists_writesNumber (value : Float) : ∃ token : Token, WritesNumber token.chars value := by
  by_cases minusZero : value = -0.0
  · rw [minusZero]
    exact ⟨.ofParts ['-', '0', '.', '0'] (List.cons_ne_nil _ _) rfl,
      writesNumber_of_notWhole (by decide +kernel) (by decide +kernel)⟩
  · cases finite : Number.isFinite value with
    | true =>
      have read := Decimal.readDouble?_write finite
      obtain ⟨decimal, written, -⟩ := Decimal.numeral_magnitude finite
      have parts : (DecimalText.write value).all isNumberPart = true := by
        rw [Decimal.write_eq finite, List.all_eq_true]
        split_ifs
        · exact List.forall_mem_cons.mpr ⟨rfl, isNumberPart_of_numeral written⟩
        · exact isNumberPart_of_numeral written
      have nonempty : DecimalText.write value ≠ [] := by
        rw [Decimal.write_eq finite]
        split_ifs
        · exact List.cons_ne_nil _ _
        · exact written.ne_nil
      exact ⟨.ofParts _ nonempty parts, writesNumber_of_readDouble? read minusZero⟩
    | false =>
      rcases Double.eq_of_not_isFinite finite with rfl | rfl | rfl
      · exact ⟨.ofParts ['i', 'n', 'f'] (List.cons_ne_nil _ _) rfl,
          writesNumber_of_notWhole (by decide +kernel) (by decide +kernel)⟩
      · exact ⟨.ofParts ['-', 'i', 'n', 'f'] (List.cons_ne_nil _ _) rfl,
          writesNumber_of_notWhole (by decide +kernel) (by decide +kernel)⟩
      · exact ⟨.ofParts ['N', 'a', 'N'] (List.cons_ne_nil _ _) rfl,
          writesNumber_of_notWhole (by decide +kernel) (by decide +kernel)⟩

/-! ### Counts and flags -/

/-- A token writes a count: digits with an optional plus sign. -/
inductive WritesCount : List Char → ℕ → Prop
  | intro {sign digits : List Char} (signed : SignMark sign false) (nonempty : digits ≠ [])
      (allDigits : Digits digits) : WritesCount (sign ++ digits) (Decimal.naturalOf digits)

/-- **The value of a token that writes a count** is this count, if it fits in 64 signed bits. -/
theorem natural?_ofToken {count : ℕ} (written : WritesCount token count)
    (small : count < 0x8000000000000000) :
    ProblemSection.natural? (Value.ofToken token) = some count := by
  obtain @⟨sign, digits, signed, nonempty, allDigits⟩ := written
  have read : Decimal.readInteger? (sign ++ digits) = some (Decimal.naturalOf digits : ℤ) :=
    Decimal.readInteger?_iff.mpr ⟨sign, false, digits, signed, rfl, nonempty, allDigits, rfl,
      by omega, by omega⟩
  rw [ofToken_integer read, ProblemSection.natural?, Value.asInteger?]
  simp only [Int.natCast_nonneg, if_true, Int.toNat_natCast]

/-- A larger count is no whole number of a document. -/
theorem natural?_ofToken_of_large {count : ℕ} (written : WritesCount token count)
    (large : 0x8000000000000000 ≤ count) :
    ProblemSection.natural? (Value.ofToken token) = none := by
  obtain @⟨sign, digits, signed, nonempty, allDigits⟩ := written
  obtain ⟨digit, others, rfl, inside⟩ := Decimal.head_digits nonempty allDigits
  have notWhole : Decimal.readInteger? (sign ++ digit :: others) = none := by
    rw [Decimal.readInteger?,
      Decimal.splitSign_append signed (noSign_of_isPointOrDigit inside)]
    simp only [Decimal.digits?_eq_some.mpr ⟨rfl, nonempty, allDigits⟩]
    exact if_neg (by rw [if_neg Bool.false_ne_true]; omega)
  have types := types_ofToken (sign ++ digit :: others)
  generalize Value.ofToken (sign ++ digit :: others) = value at types
  cases types with
  | integer whole =>
    rw [notWhole] at whole
    cases whole
  | float | boolean | text => rfl

/-- **Every count is written by some token**: its digits. -/
theorem exists_writesCount (count : ℕ) : ∃ token : Token, WritesCount token.chars count := by
  have digits := digits_toDigits count
  have written := WritesCount.intro .none Nat.toDigits_ne_nil digits
  rw [Decimal.naturalOf_toDigits] at written
  exact ⟨.ofParts _ Nat.toDigits_ne_nil (List.all_eq_true.mpr (isNumberPart_of_digits digits)),
    written⟩

/-- A token writes a flag. -/
def WritesFlag (token : List Char) (flag : Bool) : Prop :=
  String.ofList token = if flag then "true" else "false"

/-- **The value of a token that writes a flag** is this flag. -/
theorem asBoolean?_ofToken {flag : Bool} (written : WritesFlag token flag) :
    (Value.ofToken token).asBoolean? = some flag := by
  have chars : token = if flag then ['t', 'r', 'u', 'e'] else ['f', 'a', 'l', 's', 'e'] := by
    rw [← String.toList_ofList (l := token), written]
    cases flag <;> rfl
  rw [chars]
  cases flag <;> decide +kernel

end Document

end MultipleShooting
