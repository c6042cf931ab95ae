/-
**What is read as a number.**

The readers of numbers accept the following texts and no others:

* `Decimal.readNumeral?_iff`: the numerals of the grammar;
* `Decimal.readInteger?_iff`: digits with an optional sign, within 64 bits;
* `Decimal.readDouble?_iff`: a numeral, or a name of a value that is no ordinary number, with an
  optional sign. These names are identifiers of the grammar of expressions
  (`Decimal.named?_iff`).
-/
import MultipleShooting.Proofs.Expr.Ends

namespace MultipleShooting

open Grammar

namespace Decimal

variable {text : List Char}

/-! ### Signs and digits -/

/-- An optional sign is read off the beginning of a text. -/
theorem splitSign_eq {body : List Char} {negative : Bool}
    (split : splitSign text = (negative, body)) :
    ∃ sign, SignMark sign negative ∧ text = sign ++ body := by
  unfold splitSign at split
  split at split
  · cases split
    exact ⟨_, .minus, rfl⟩
  · cases split
    exact ⟨_, .plus, rfl⟩
  · cases split
    exact ⟨_, .none, rfl⟩

/-- A sign before a text that begins with none. -/
theorem splitSign_append {sign : List Char} {negative : Bool} {char : Char} {others : List Char}
    (signed : SignMark sign negative) (noSign : char ≠ '+' ∧ char ≠ '-') :
    splitSign (sign ++ char :: others) = (negative, char :: others) := by
  cases signed with
  | none => exact (unsigned_cons noSign others).2
  | plus => rfl
  | minus => rfl

theorem digits?_eq_some {digits : List Char} :
    digits? text = some digits ↔ text = digits ∧ digits ≠ [] ∧ Digits digits := by
  unfold digits?
  constructor
  · intro read
    split_ifs at read with all
    cases read
    exact ⟨rfl, all.1, List.all_eq_true.mp all.2⟩
  · rintro ⟨rfl, nonempty, digits⟩
    exact if_pos ⟨nonempty, List.all_eq_true.mpr digits⟩

/-- Digits begin with a digit. -/
theorem head_digits {digits : List Char} (nonempty : digits ≠ []) (allDigits : Digits digits) :
    ∃ digit others, digits = digit :: others ∧ isPointOrDigit digit = true := by
  obtain ⟨digit, others, rfl⟩ := List.exists_cons_of_ne_nil nonempty
  refine ⟨digit, others, rfl, ?_⟩
  rw [isPointOrDigit, allDigits digit List.mem_cons_self, Bool.true_or]

/-! ### Numerals -/

/-- What is read as a power of ten is one. -/
theorem scale_of_readPower? {power : ℤ} (read : readPower? text = some power) :
    Scale text power := by
  cases text with
  | nil =>
    cases read
    exact .none
  | cons mark rest =>
    rw [readPower?] at read
    split_ifs at read with isMark
    generalize parted : splitSign rest = split at read
    obtain ⟨negative, body⟩ := split
    obtain ⟨sign, signed, rfl⟩ := splitSign_eq parted
    obtain ⟨digits, found, rfl⟩ := Option.map_eq_some_iff.mp read
    obtain ⟨rfl, nonempty, allDigits⟩ := digits?_eq_some.mp found
    exact .power isMark signed nonempty allDigits

/-- **The numerals are what is read as a numeral**, with the decimal number that they write. -/
theorem readNumeral?_iff {decimal : Decimal} :
    readNumeral? text = some decimal ↔ Numeral text decimal := by
  refine ⟨fun read => ?_, readNumeral?_eq_some⟩
  have wholeDigits : Digits (text.takeWhile Char.isDigit) :=
    fun char among => List.mem_takeWhile_imp among
  have parted := List.takeWhile_append_dropWhile (p := Char.isDigit) (l := text)
  unfold readNumeral? at read
  split at read
  next fraction rest found =>
  dsimp only at read
  split_ifs at read with empty
  obtain ⟨power, scaled, rfl⟩ := Option.map_eq_some_iff.mp read
  have scale := scale_of_readPower? scaled
  split at found
  · next after dropped =>
    cases found
    have fractionDigits : Digits (after.takeWhile Char.isDigit) :=
      fun char among => List.mem_takeWhile_imp among
    have partedAfter := List.takeWhile_append_dropWhile (p := Char.isDigit) (l := after)
    by_cases nonempty : text.takeWhile Char.isDigit = []
    · have mantissa : Mantissa ('.' :: after.takeWhile Char.isDigit) [] _ :=
        .fraction (fun same => empty ⟨nonempty, same⟩) fractionDigits
      have written := Numeral.mk mantissa scale
      rw [List.cons_append, partedAfter, ← dropped, List.nil_append] at written
      rw [nonempty, List.nil_append] at parted ⊢
      rwa [parted] at written
    · have written := Numeral.mk (.pointed nonempty wholeDigits fractionDigits) scale
      rwa [List.append_assoc, List.cons_append, partedAfter, ← dropped, parted] at written
  · cases found
    have nonempty : text.takeWhile Char.isDigit ≠ [] := fun same => empty ⟨same, rfl⟩
    have written := Numeral.mk (.whole nonempty wholeDigits) scale
    rwa [parted] at written

/-- A numeral has a value for the grammar of expressions too. -/
theorem read?_eq_some {decimal : Decimal} (written : Numeral text decimal) :
    DecimalText.read? text = some decimal.toDouble := by
  show (readNumeral? text).map toDouble = _
  rw [readNumeral?_eq_some written, Option.map_some]

/-! ### Names -/

/-- The names of the values that are no ordinary numbers, in any case. -/
inductive Names (text : List Char) : Float → Prop
  | infinite (named : String.ofList (text.map Char.toLower) ∈ ["inf", "infinity"]) :
      Names text (1.0 / 0.0)
  | undefined (named : String.ofList (text.map Char.toLower) = "nan") : Names text (0.0 / 0.0)

theorem named?_iff {magnitude : Float} : named? text = some magnitude ↔ Names text magnitude := by
  constructor
  · intro read
    unfold named? at read
    split at read
    · next same =>
      cases read
      exact .infinite (same ▸ List.mem_cons_self)
    · next same =>
      cases read
      exact .infinite (same ▸ List.mem_cons_of_mem _ List.mem_cons_self)
    · next same =>
      cases read
      exact .undefined same
    · cases read
  · rintro (named | named)
    · simp only [List.mem_cons, List.not_mem_nil, or_false] at named
      rcases named with same | same <;> simp only [named?, same]
    · simp only [named?, named]

/-- A letter is a letter in upper case too. -/
theorem isAlpha_of_toLower {char : Char} (letter : char.toLower.isAlpha = true) :
    char.isAlpha = true := by
  by_cases upper : char.isUpper = true
  · rw [Char.isAlpha, upper, Bool.true_or]
  · have same : char.toLower = char := dif_neg fun both => upper (decide_eq_true both)
    rwa [same] at letter

/-- The names are identifiers of the grammar of expressions. -/
theorem Names.isIdentifier {magnitude : Float} (names : Names text magnitude) :
    IsIdentifier text := by
  obtain ⟨word, among, same⟩ : ∃ word ∈ ["inf", "infinity", "nan"],
      String.ofList (text.map Char.toLower) = word := by
    rcases names with named | named
    · exact ⟨_, List.mem_append_left ["nan"] named, rfl⟩
    · exact ⟨_, List.mem_append_right ["inf", "infinity"] List.mem_cons_self, named⟩
  have lower : text.map Char.toLower = word.toList := by
    rw [← same, String.toList_ofList]
  have letters : word.toList ≠ [] ∧ ∀ char ∈ word.toList, char.isAlpha = true := by
    simp only [List.mem_cons, List.not_mem_nil, or_false] at among
    rcases among with rfl | rfl | rfl <;> simp
  rw [← lower] at letters
  obtain ⟨first, others, rfl⟩ := List.exists_cons_of_ne_nil
    fun empty => letters.1 (List.map_eq_nil_iff.mpr empty)
  have letter (char : Char) (inside : char ∈ first :: others) : char.isAlpha = true :=
    isAlpha_of_toLower (letters.2 _ (List.mem_map_of_mem inside))
  refine .mk (.inl (letter first List.mem_cons_self)) fun char inside => .inl ?_
  rw [Char.isAlphanum, letter char (List.mem_cons_of_mem _ inside), Bool.true_or]

/-! ### Doubles -/

/-- A magnitude is a numeral or a name. -/
inductive Magnitude (text : List Char) : Float → Prop
  | numeral {decimal : Decimal} (written : Numeral text decimal) : Magnitude text decimal.toDouble
  | name {value : Float} (named : Names text value) : Magnitude text value

/-- What is read as a magnitude begins with no sign. -/
theorem Magnitude.head {magnitude : Float} (written : Magnitude text magnitude) :
    ∃ char others, text = char :: others ∧ char ≠ '+' ∧ char ≠ '-' := by
  rcases written with written | named
  · obtain ⟨char, others, rfl, inside⟩ := written.head
    exact ⟨char, others, rfl, noSign_of_isPointOrDigit inside⟩
  · obtain ⟨char, others, rfl, start⟩ := named.isIdentifier.head
    exact ⟨char, others, rfl, (noNumber_of_isIdentifierStart start).2⟩

/-- No name is a numeral. -/
theorem Names.readNumeral? {magnitude : Float} (names : Names text magnitude) :
    readNumeral? text = none := by
  refine Option.eq_none_iff_forall_ne_some.mpr fun decimal read => ?_
  obtain ⟨char, others, same, inside⟩ := (readNumeral?_iff.mp read).head
  obtain ⟨first, rest, rfl, start⟩ := names.isIdentifier.head
  cases same
  rw [(noNumber_of_isIdentifierStart start).1] at inside
  cases inside

/-- **What is read as a double**: a numeral or a name with an optional sign. -/
theorem readDouble?_iff {value : Float} : readDouble? text = some value ↔
    ∃ sign negative body magnitude, SignMark sign negative ∧ text = sign ++ body ∧
      Magnitude body magnitude ∧ value = if negative then -magnitude else magnitude := by
  constructor
  · intro read
    unfold readDouble? at read
    split at read
    next negative body parted =>
    obtain ⟨sign, signed, rfl⟩ := splitSign_eq parted
    obtain ⟨magnitude, found, rfl⟩ := Option.map_eq_some_iff.mp read
    refine ⟨sign, negative, body, magnitude, signed, rfl, ?_, rfl⟩
    split at found
    · next decimal isNumeral =>
      cases found
      exact .numeral (readNumeral?_iff.mp isNumeral)
    · exact .name (named?_iff.mp found)
  · rintro ⟨sign, negative, body, magnitude, signed, rfl, written, rfl⟩
    obtain ⟨char, others, rfl, noSign⟩ := written.head
    unfold readDouble?
    rw [splitSign_append signed noSign]
    rcases written with written | named
    · simp only [readNumeral?_eq_some written, Option.map_some]
    · simp only [named.readNumeral?, named?_iff.mpr named, Option.map_some]

/-! ### Whole numbers -/

/-- **What is read as a whole number**: digits with an optional sign, within 64 bits. -/
theorem readInteger?_iff {value : ℤ} : readInteger? text = some value ↔
    ∃ sign negative digits, SignMark sign negative ∧ text = sign ++ digits ∧ digits ≠ [] ∧
      Digits digits ∧ value = (if negative then -(naturalOf digits : ℤ) else naturalOf digits) ∧
        -0x8000000000000000 ≤ value ∧ value < 0x8000000000000000 := by
  constructor
  · intro read
    unfold readInteger? at read
    split at read
    next negative body parted =>
    obtain ⟨sign, signed, rfl⟩ := splitSign_eq parted
    split at read
    · cases read
    · next digits found =>
      obtain ⟨rfl, nonempty, allDigits⟩ := digits?_eq_some.mp found
      obtain ⟨inside, same⟩ := Option.ite_none_right_eq_some.mp read
      exact ⟨sign, negative, body, signed, rfl, nonempty, allDigits,
        (Option.some.inj same).symm, Option.some.inj same ▸ inside⟩
  · rintro ⟨sign, negative, digits, signed, rfl, nonempty, allDigits, rfl, inside⟩
    obtain ⟨digit, others, rfl, isDigit⟩ := head_digits nonempty allDigits
    unfold readInteger?
    rw [splitSign_append signed (noSign_of_isPointOrDigit isDigit)]
    simp only [digits?_eq_some.mpr ⟨rfl, nonempty, allDigits⟩]
    exact if_pos inside

end Decimal

end MultipleShooting
