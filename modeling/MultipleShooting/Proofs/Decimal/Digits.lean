/-
**Decimal digits of natural numbers.**

The digits of a natural number write it (`Decimal.naturalOf_toDigits`), leading zeros change nothing
and each trailing zero multiplies by ten, so a decimal that is written without a power of ten is the
same number (`Decimal.numeral_positional`).
-/
import MultipleShooting.Decimal.Layout
import MultipleShooting.Proofs.Decimal.Nearest
import MultipleShooting.Proofs.Expr.Grammar

namespace MultipleShooting

open Grammar

namespace Decimal

/-! ### Natural numbers -/

theorem foldl_digits (digits : List Char) (start : ℕ) :
    digits.foldl (fun number digit => 10 * number + (digit.toNat - '0'.toNat)) start =
      start * 10 ^ digits.length + naturalOf digits := by
  induction digits generalizing start with
  | nil => simp [naturalOf]
  | cons digit others ih =>
    unfold naturalOf
    rw [List.foldl_cons, List.foldl_cons, ih, ih (10 * 0 + _), List.length_cons, pow_succ]
    ring

/-- Digits after digits. -/
theorem naturalOf_append (first second : List Char) :
    naturalOf (first ++ second) = naturalOf first * 10 ^ second.length + naturalOf second := by
  rw [naturalOf, List.foldl_append, foldl_digits]
  rfl

theorem naturalOf_zeros (count : ℕ) : naturalOf (List.replicate count '0') = 0 := by
  induction count with
  | zero => rfl
  | succ count ih =>
    have first : naturalOf ['0'] = 0 := rfl
    rw [List.replicate_succ, ← List.singleton_append, naturalOf_append, first, ih, Nat.zero_mul]

/-- **The digits of a natural number** write it. -/
theorem naturalOf_toDigits (number : ℕ) : naturalOf (Nat.toDigits 10 number) = number := by
  induction number using Nat.strong_induction_on with
  | _ number ih =>
    have digit (small : ℕ) (below : small < 10) : naturalOf [small.digitChar] = small := by
      have value := Nat.toNat_digitChar_sub_48_of_lt_ten below
      exact (Nat.zero_add _).trans value
    rcases lt_or_ge number 10 with below | above
    · rw [Nat.toDigits_of_lt_base below, digit number below]
    · have last := Nat.mod_lt number (show 0 < 10 by decide)
      rw [Nat.toDigits_of_base_le (by decide) above, naturalOf_append, ih _ (by omega),
        digit _ last, List.length_singleton, pow_one]
      omega

/-! ### Positional digits -/

theorem digits_digits (number : Decimal) : Digits number.digits :=
  fun _ among => Nat.isDigit_of_mem_toDigits (by decide) (by decide) among

theorem digits_replicate (count : Nat) : Digits (List.replicate count '0') :=
  fun _ among => List.eq_of_mem_replicate among ▸ rfl

theorem digits_append {first second : List Char} (digits : Digits first) (others : Digits second) :
    Digits (first ++ second) :=
  fun char among => (List.mem_append.mp among).elim (digits char) (others char)

/-- Digits with an optional point are a numeral, which has as many decimal places as digits after
the point. -/
theorem numeral_of_mantissa {text whole fraction : List Char}
    (mantissa : Mantissa text whole fraction) :
    Numeral text ⟨naturalOf (whole ++ fraction), -(fraction.length : ℤ)⟩ := by
  have written := Numeral.mk mantissa .none
  rwa [List.append_nil, zero_sub] at written

/-- A whole power of ten is the same in the coefficient. -/
theorem number_whole (coefficient : ℕ) {exponent : ℤ} (whole : 0 ≤ exponent) :
    (⟨coefficient * 10 ^ exponent.toNat, 0⟩ : Decimal).number =
      (⟨coefficient, exponent⟩ : Decimal).number := by
  have power : (10 : ℚ) ^ exponent = 10 ^ exponent.toNat := by
    rw [← zpow_natCast, Int.toNat_of_nonneg whole]
  rw [number, number, power, zpow_zero, mul_one]
  push_cast
  rfl

/-- **A decimal without a power of ten** is written as a numeral of the same number. -/
theorem numeral_positional (decimal : Decimal) :
    ∃ read, Numeral decimal.positional read ∧ read.number = decimal.number := by
  have nonempty : decimal.digits ≠ [] := Nat.toDigits_ne_nil
  have digits := digits_digits decimal
  have coefficient : naturalOf decimal.digits = decimal.coefficient := naturalOf_toDigits _
  unfold positional
  split_ifs with whole
  · refine ⟨_, numeral_of_mantissa (.whole (List.append_ne_nil_of_left_ne_nil nonempty _)
      (digits_append digits (digits_replicate _))), ?_⟩
    rw [List.append_nil, naturalOf_append, naturalOf_zeros, coefficient, List.length_replicate]
    exact number_whole _ whole
  · -- a negative exponent is the number of digits after the point
    have places : -((-decimal.exponent).toNat : ℤ) = decimal.exponent := by omega
    dsimp only
    split_ifs with inside
    · have after : (decimal.digits.drop
          (decimal.digits.length - (-decimal.exponent).toNat)).length =
          (-decimal.exponent).toNat := by
        rw [List.length_drop]
        omega
      refine ⟨_, numeral_of_mantissa (.pointed ?_
        (fun char among => digits char (List.mem_of_mem_take among))
        fun char among => digits char (List.mem_of_mem_drop among)), ?_⟩
      · rw [Ne, ← List.length_eq_zero_iff, List.length_take]
        omega
      · rw [List.take_append_drop, coefficient, after, places]
    · have zero : Digits ['0'] := digits_replicate 1
      have after : (List.replicate ((-decimal.exponent).toNat - decimal.digits.length) '0' ++
          decimal.digits).length = (-decimal.exponent).toNat := by
        rw [List.length_append, List.length_replicate]
        omega
      have leading : naturalOf ['0'] = 0 := rfl
      refine ⟨_, numeral_of_mantissa (.pointed (List.cons_ne_nil _ _) zero
        (digits_append (digits_replicate _) digits)), ?_⟩
      rw [naturalOf_append, leading, Nat.zero_mul, Nat.zero_add, naturalOf_append, naturalOf_zeros,
        Nat.zero_mul, Nat.zero_add, coefficient, after, places]

end Decimal

end MultipleShooting
