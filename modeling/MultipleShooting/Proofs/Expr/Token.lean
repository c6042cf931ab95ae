/-
**Reading words.**

A numeral and an identifier are read as far as they go, and nothing else is read:

* `numeral_eq_accept`, `numeral_append`: what is accepted as a numeral is one, and a numeral that
  nothing continues is accepted;
* `identifier?_eq_some`, `identifier?_append`: the same for identifiers;
* `Decimal.readNumeral?_eq_some`: **every numeral has a value**, the decimal number that it writes;
* `Expr.call?_eq_some`: the functions are those of the grammar.
-/
import MultipleShooting.Proofs.Expr.Grammar

namespace MultipleShooting

open Grammar

/-! ### Digits and signs -/

/-- The characters that continue digits with a point. -/
def isPointOrDigit (char : Char) : Bool := char.isDigit || char == '.'

theorem isIdentifierPart_of_isPointOrDigit {char : Char} (inside : isPointOrDigit char = true) :
    isIdentifierPart char = true := by
  unfold isPointOrDigit at inside
  unfold isIdentifierPart Char.isAlphanum
  rcases Bool.or_eq_true _ _ ▸ inside with digit | point
  · rw [digit, Bool.or_true, Bool.true_or, Bool.true_or]
  · rw [point, Bool.or_true]

theorem Stops.of_imp {isMember isOther : Char → Bool} {text : List Char}
    (stop : Stops isOther text) (imp : ∀ char, isMember char = true → isOther char = true) :
    Stops isMember text := by
  intro char among
  have outside := stop char among
  by_contra inside
  rw [imp char (Bool.not_eq_false _ ▸ inside)] at outside
  cases outside

theorem splitSignMark_eq {text sign body : List Char} (split : splitSignMark text = (sign, body)) :
    (∃ negative, SignMark sign negative) ∧ text = sign ++ body := by
  unfold splitSignMark at split
  split at split
  · cases split
    exact ⟨⟨_, .plus⟩, rfl⟩
  · cases split
    exact ⟨⟨_, .minus⟩, rfl⟩
  · cases split
    exact ⟨⟨_, .none⟩, rfl⟩

theorem noSign_of_isPointOrDigit {char : Char} (inside : isPointOrDigit char = true) :
    char ≠ '+' ∧ char ≠ '-' := by
  refine ⟨?_, ?_⟩ <;> rintro rfl <;> cases inside

/-- A text that begins with another character has no sign. -/
theorem unsigned_cons {char : Char} (noSign : char ≠ '+' ∧ char ≠ '-') (others : List Char) :
    splitSignMark (char :: others) = ([], char :: others) ∧
      Decimal.splitSign (char :: others) = (false, char :: others) := by
  simp [splitSignMark, Decimal.splitSign, noSign]

/-- Digits do not begin with a sign. -/
theorem signs_before_digits {sign digits : List Char} {negative : Bool}
    (signed : SignMark sign negative) (nonempty : digits ≠ []) (allDigits : Digits digits)
    (rest : List Char) :
    splitSignMark (sign ++ (digits ++ rest)) = (sign, digits ++ rest) ∧
      Decimal.splitSign (sign ++ (digits ++ rest)) = (negative, digits ++ rest) := by
  cases signed with
  | plus => exact ⟨rfl, rfl⟩
  | minus => exact ⟨rfl, rfl⟩
  | none =>
    obtain ⟨digit, others, rfl⟩ := List.exists_cons_of_ne_nil nonempty
    have inside : isPointOrDigit digit = true := by
      rw [isPointOrDigit, allDigits digit List.mem_cons_self, Bool.true_or]
    exact unsigned_cons (noSign_of_isPointOrDigit inside) (others ++ rest)

/-! ### Numerals -/

/-- Digits with a point are those at the beginning of the text. -/
theorem pointedDigits?_eq_some {text digits rest : List Char}
    (read : pointedDigits? text = some (digits, rest)) :
    (∃ whole fraction, Mantissa digits whole fraction) ∧ text = digits ++ rest := by
  have wholeDigits : Digits (text.takeWhile Char.isDigit) :=
    fun char among => List.mem_takeWhile_imp among
  have parted := List.takeWhile_append_dropWhile (p := Char.isDigit) (l := text)
  unfold pointedDigits? at read
  split at read
  · next after dropped =>
    have fractionDigits : Digits (after.takeWhile Char.isDigit) :=
      fun char among => List.mem_takeWhile_imp among
    have partedAfter := List.takeWhile_append_dropWhile (p := Char.isDigit) (l := after)
    simp only at read
    split_ifs at read with empty
    cases read
    refine ⟨?_, ?_⟩
    · by_cases nonempty : text.takeWhile Char.isDigit = []
      · rw [nonempty]
        exact ⟨_, _, .fraction (fun same => empty ⟨nonempty, same⟩) fractionDigits⟩
      · exact ⟨_, _, .pointed nonempty wholeDigits fractionDigits⟩
    · rw [List.append_assoc, List.cons_append, partedAfter, ← dropped, parted]
  · simp only at read
    split_ifs at read with empty
    cases read
    exact ⟨⟨_, _, .whole empty wholeDigits⟩, parted.symm⟩

/-- How a text falls apart that begins with a mantissa: the digits before the point, and then either
what follows the mantissa, or the point and the digits after it. -/
theorem Grammar.Mantissa.parts {mantissa whole fraction rest : List Char}
    (written : Mantissa mantissa whole fraction) (stop : Stops isPointOrDigit rest) :
    (mantissa ++ rest).takeWhile Char.isDigit = whole ∧ ¬ (whole = [] ∧ fraction = []) ∧
      ((mantissa ++ rest).dropWhile Char.isDigit = rest ∧ mantissa = whole ∧ fraction = [] ∨
        (mantissa ++ rest).dropWhile Char.isDigit = '.' :: (fraction ++ rest) ∧
          mantissa = whole ++ '.' :: fraction ∧
            (fraction ++ rest).takeWhile Char.isDigit = fraction ∧
              (fraction ++ rest).dropWhile Char.isDigit = rest) := by
  have stopDigits : Stops Char.isDigit rest :=
    stop.of_imp fun char digit => by rw [isPointOrDigit, digit, Bool.true_or]
  have point (text : List Char) : Stops Char.isDigit ('.' :: text) := stops_cons.mpr rfl
  cases written with
  | whole nonempty digits =>
    exact ⟨takeWhile_append_stop digits stopDigits, fun empty => nonempty empty.1,
      .inl ⟨dropWhile_append_stop digits stopDigits, rfl, rfl⟩⟩
  | pointed nonempty digits fractionDigits =>
    rw [List.append_assoc, List.cons_append]
    exact ⟨takeWhile_append_stop digits (point _), fun empty => nonempty empty.1,
      .inr ⟨dropWhile_append_stop digits (point _), rfl,
        takeWhile_append_stop fractionDigits stopDigits,
        dropWhile_append_stop fractionDigits stopDigits⟩⟩
  | fraction nonempty digits =>
    exact ⟨rfl, fun empty => nonempty empty.2, .inr ⟨rfl, rfl,
      takeWhile_append_stop digits stopDigits, dropWhile_append_stop digits stopDigits⟩⟩

/-- A mantissa that neither a digit nor a point continues is read as far as it goes. -/
theorem pointedDigits?_append {mantissa whole fraction rest : List Char}
    (written : Mantissa mantissa whole fraction) (stop : Stops isPointOrDigit rest) :
    pointedDigits? (mantissa ++ rest) = some (mantissa, rest) := by
  obtain ⟨taken, nonempty, ⟨dropped, rfl, rfl⟩ | ⟨dropped, same, takenAfter, droppedAfter⟩⟩ :=
    written.parts stop
  · rw [pointedDigits?, taken, dropped]
    split
    · exact absurd (stops_cons.mp stop) (by decide)
    · exact if_neg fun empty => nonempty ⟨empty, rfl⟩
  · rw [pointedDigits?, taken, dropped]
    simp only [takenAfter, droppedAfter, nonempty, if_false, same]

/-- What is accepted as a numeral is one at the beginning of the text. -/
theorem numeral_eq_accept {text digits rest : List Char}
    (accepted : numeral text = .accept digits rest) :
    (∃ decimal, Numeral digits decimal) ∧ text = digits ++ rest := by
  unfold numeral at accepted
  split at accepted
  · cases accepted
  · next mantissa remaining read =>
    obtain ⟨⟨whole, fraction, isMantissa⟩, rfl⟩ := pointedDigits?_eq_some read
    split at accepted
    · cases accepted
      exact ⟨isMantissa.numeral, rfl⟩
    · next mark after =>
      split_ifs at accepted with isMark
      · generalize parted : splitSignMark after = split at accepted
        obtain ⟨sign, body⟩ := split
        obtain ⟨⟨negative, signed⟩, rfl⟩ := splitSignMark_eq parted
        simp only at accepted
        split_ifs at accepted with empty
        cases accepted
        refine ⟨⟨_, .mk isMantissa (.power isMark signed empty ?_)⟩, ?_⟩
        · exact fun char among => List.mem_takeWhile_imp among
        · rw [List.append_assoc, List.cons_append, List.append_assoc,
            List.takeWhile_append_dropWhile]
      · cases accepted
        exact ⟨isMantissa.numeral, rfl⟩

/-- A scale begins with neither a digit nor a point. -/
theorem stops_scale {scale rest : List Char} {power : Int} (scaled : Scale scale power)
    (stop : Stops isPointOrDigit rest) : Stops isPointOrDigit (scale ++ rest) := by
  cases scaled with
  | none => exact stop
  | power isMark _ _ _ =>
    refine stops_cons.mpr ?_
    rcases isMark with rfl | rfl <;> rfl

/-- **A numeral that nothing continues is accepted**, all of it. -/
theorem numeral_append {digits rest : List Char} {decimal : Decimal}
    (written : Numeral digits decimal) (stop : Stops isIdentifierPart rest) :
    numeral (digits ++ rest) = .accept digits rest := by
  have stopNumber : Stops isPointOrDigit rest :=
    stop.of_imp fun char => isIdentifierPart_of_isPointOrDigit
  have stopDigits : Stops Char.isDigit rest :=
    stopNumber.of_imp fun char digit => by rw [isPointOrDigit, digit, Bool.true_or]
  obtain ⟨mantissa, scaled⟩ := written
  unfold numeral
  rw [List.append_assoc, pointedDigits?_append mantissa (stops_scale scaled stopNumber)]
  cases scaled with
  | none =>
    rw [List.nil_append, List.append_nil]
    cases rest with
    | nil => rfl
    | cons char others =>
      have notMark : ¬ (char = 'e' ∨ char = 'E') := by
        have outside := stops_cons.mp stop
        rintro (rfl | rfl) <;> cases outside
      simp only [notMark, if_false]
  | power isMark signed nonempty allDigits =>
    simp only [List.cons_append, isMark, if_true, List.append_assoc,
      (signs_before_digits signed nonempty allDigits rest).1,
      takeWhile_append_stop allDigits stopDigits, dropWhile_append_stop allDigits stopDigits,
      nonempty, if_false]

theorem Decimal.readPower?_eq_some {scale : List Char} {power : Int} (scaled : Scale scale power) :
    Decimal.readPower? scale = some power := by
  cases scaled with
  | none => rfl
  | @power mark sign digits negative isMark signed nonempty allDigits =>
    have parted := (signs_before_digits signed nonempty allDigits []).2
    rw [List.append_nil] at parted
    have read : Decimal.digits? digits = some digits :=
      if_pos ⟨nonempty, List.all_eq_true.mpr allDigits⟩
    simp only [Decimal.readPower?, isMark, if_true, parted, read, Option.map_some]

/-- **Every numeral has a value**, the decimal number that it writes. -/
theorem Decimal.readNumeral?_eq_some {digits : List Char} {decimal : Decimal}
    (written : Numeral digits decimal) : Decimal.readNumeral? digits = some decimal := by
  obtain ⟨mantissa, scaled⟩ := written
  have stop := stops_scale scaled stops_nil
  rw [List.append_nil] at stop
  have read := Decimal.readPower?_eq_some scaled
  obtain ⟨taken, nonempty, ⟨dropped, rfl, rfl⟩ | ⟨dropped, same, takenAfter, droppedAfter⟩⟩ :=
    mantissa.parts stop
  · rw [Decimal.readNumeral?, taken, dropped]
    split
    next fraction rest parted =>
    split at parted
    · exact absurd (stops_cons.mp stop) (by decide)
    · cases parted
      rw [if_neg nonempty, read, Option.map_some]
  · rw [Decimal.readNumeral?, taken, dropped]
    simp only [takenAfter, droppedAfter, nonempty, if_false, read, Option.map_some]

/-! ### Identifiers -/

theorem isIdentifierStart_iff {char : Char} :
    isIdentifierStart char = true ↔ char.isAlpha = true ∨ char = '_' := by
  simp [isIdentifierStart]

theorem isIdentifierPart_iff {char : Char} :
    isIdentifierPart char = true ↔ char.isAlphanum = true ∨ char = '_' ∨ char = '.' := by
  simp [isIdentifierPart, or_assoc]

/-- What is read as an identifier is one at the beginning of the text. -/
theorem identifier?_eq_some {text name rest : List Char}
    (read : identifier? text = some (name, rest)) : IsIdentifier name ∧ text = name ++ rest := by
  unfold identifier? at read
  split at read
  · cases read
  · next first others =>
    split_ifs at read with start
    cases read
    refine ⟨⟨isIdentifierStart_iff.mp start, ?_⟩, ?_⟩
    · exact fun char among => isIdentifierPart_iff.mp (List.mem_takeWhile_imp among)
    · rw [List.cons_append, List.takeWhile_append_dropWhile]

/-- An identifier that nothing continues is read, all of it. -/
theorem identifier?_append {name rest : List Char} (isIdentifier : IsIdentifier name)
    (stop : Stops isIdentifierPart rest) : identifier? (name ++ rest) = some (name, rest) := by
  obtain ⟨start, parts⟩ := isIdentifier
  have members : ∀ char ∈ _, isIdentifierPart char = true :=
    fun char among => isIdentifierPart_iff.mpr (parts char among)
  rw [List.cons_append, identifier?, if_pos (isIdentifierStart_iff.mpr start),
    takeWhile_append_stop members stop, dropWhile_append_stop members stop]

/-! ### Functions -/

/-- The functions that are read are those of the grammar. -/
theorem Expr.call?_eq_some {α : Type} [Number α] {name : String} {argument expr : Expr α} :
    Expr.call? name argument = some expr ↔ Calls name argument expr := by
  constructor
  · intro known
    unfold Expr.call? at known
    split at known <;> cases known
    case h_14 => exact .squareRoot argument
    all_goals exact .elementary (by simp [spellings]) argument
  · intro calls
    cases calls with
    | squareRoot argument => rfl
    | @elementary name function spelled argument =>
      cases function <;> simp only [spellings, List.mem_cons, List.not_mem_nil, or_false] at spelled
      case ln | tan | arcsin | arccos | arctan => rcases spelled with rfl | rfl <;> rfl
      all_goals rw [spelled]; rfl

end MultipleShooting
