/-
**The plain text of a double.**

A finite double is written as a numeral without a power of ten, after a minus sign if the double
carries one (`Decimal.write_of_positive`, `Decimal.write_of_negative`). If that text reads back as
the double, then the numeral alone reads as its magnitude.
-/
import MultipleShooting.Decimal.Text
import MultipleShooting.Proofs.Decimal.Digits
import MultipleShooting.Proofs.Expr.Ends
import MultipleShooting.Proofs.Number.Sign

namespace MultipleShooting

open Grammar

namespace Decimal

variable {value : Float}

/-- The text of the magnitude of a finite double. -/
def magnitudeText (value : Float) : List Char := (Dyadic.ofDouble value).shortest.positional

theorem numeral_magnitudeText (value : Float) :
    ∃ decimal, Numeral (magnitudeText value) decimal := by
  obtain ⟨decimal, written, -⟩ := numeral_positional (Dyadic.ofDouble value).shortest
  exact ⟨decimal, written⟩

/-! ### Signs -/

/-- A finite double is written as its sign and its magnitude. -/
theorem write_eq (finite : Number.isFinite value = true) : DecimalText.write value =
    if isNegative value then '-' :: magnitudeText value else magnitudeText value := by
  have ordinary : value.isFinite = true := finite
  have number : value.isNaN = false := by
    show (Double.parts value).isNaN = false
    have finite : (Double.parts value).isFinite = true := finite
    cases same : Double.parts value with
    | notANumber =>
      rw [same] at finite
      cases finite
    | _ => rfl
  show (String.ofList (signed value _)).toList = _
  rw [String.toList_ofList, signed, number, ordinary]
  rfl

/-- A numeral reads as the double nearest to it, and after a minus sign as the negative. -/
theorem readDouble?_eq_some {digits : List Char} {decimal : Decimal}
    (written : Numeral digits decimal) : readDouble? digits = some decimal.toDouble ∧
      readDouble? ('-' :: digits) = some (-decimal.toDouble) := by
  have read := readNumeral?_eq_some written
  obtain ⟨char, others, rfl, inside⟩ := written.head
  have unsigned := (unsigned_cons (noSign_of_isPointOrDigit inside) others).2
  have minus : splitSign ('-' :: char :: others) = (true, char :: others) := rfl
  simp only [readDouble?, unsigned, minus, read, Option.map_some]
  exact ⟨rfl, rfl⟩

/-- A double without the minus sign is written as a numeral that reads as it. -/
theorem write_of_positive (finite : Number.isFinite value = true)
    (positive : isNegative value = false)
    (readsBack : readDouble? (DecimalText.write value) = some value) :
    ∃ decimal, Numeral (DecimalText.write value) decimal ∧
      DecimalText.read? (DecimalText.write value) = some value := by
  obtain ⟨decimal, written⟩ := numeral_magnitudeText value
  rw [write_eq finite, positive, if_neg Bool.false_ne_true] at readsBack ⊢
  refine ⟨decimal, written, ?_⟩
  rw [(readDouble?_eq_some written).1] at readsBack
  show (readNumeral? _).map toDouble = _
  rw [readNumeral?_eq_some written, Option.map_some, readsBack]

/-- A double with the minus sign is written as that sign and a numeral that reads as its
magnitude. -/
theorem write_of_negative (finite : Number.isFinite value = true)
    (negative : isNegative value = true)
    (readsBack : readDouble? (DecimalText.write value) = some value) :
    ∃ digits decimal, DecimalText.write value = '-' :: digits ∧ Numeral digits decimal ∧
      DecimalText.read? digits = some (Number.abs value) ∧ -(Number.abs value) = value := by
  obtain ⟨decimal, written⟩ := numeral_magnitudeText value
  rw [write_eq finite, negative, if_pos rfl] at readsBack ⊢
  rw [(readDouble?_eq_some written).2] at readsBack
  have same : -decimal.toDouble = value := Option.some.inj readsBack
  have magnitude : Number.abs value = decimal.toDouble := by
    rw [← same] at finite negative ⊢
    exact Double.abs_neg (Double.ne_notANumber_of_isFinite_neg finite) negative
  refine ⟨_, decimal, rfl, written, ?_, ?_⟩
  · show (readNumeral? _).map toDouble = _
    rw [readNumeral?_eq_some written, Option.map_some, magnitude]
  · rw [magnitude, same]

end Decimal

end MultipleShooting
