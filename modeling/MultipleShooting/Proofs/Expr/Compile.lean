/-
**What a compiled expression computes.**

Over the real numbers the function that an expression is compiled to computes its value, every
variable standing for the first argument of its name (`Expr.compile_value`). A power with a whole
constant exponent is compiled to repeated squaring, which computes the general power
(`Number.integerPow_real`).
-/
import MultipleShooting.Proofs.Expr.Value
import Mathlib

namespace MultipleShooting

namespace Number

/-- Squaring once for every binary digit of the exponent gives the power. -/
theorem binaryPow_real (base : ℝ) (exponent : Nat) (factor : ℝ) :
    binaryPow base exponent factor = factor * base ^ exponent := by
  induction base, exponent, factor using binaryPow.induct with
  | case1 base factor => rw [binaryPow, if_pos rfl, pow_zero, mul_one]
  | case2 base exponent factor nonzero ih =>
    have squared : (base * base) ^ (exponent / 2) = base ^ (2 * (exponent / 2)) := by
      rw [← sq, ← pow_mul]
    simp only [dite_eq_ite] at ih
    rw [binaryPow, if_neg nonzero, ih, squared]
    split_ifs with odd
    · rw [mul_assoc, ← pow_succ']
      congr 2
      omega
    · congr 2
      omega

/-- A power with a whole exponent is the general power. -/
theorem integerPow_real (base : ℝ) (exponent : ℤ) :
    integerPow base exponent = base ^ (exponent : ℝ) := by
  rw [integerPow, binaryPow_real, one_mul, Real.rpow_intCast]
  split_ifs with negative
  · have whole : exponent = -(exponent.natAbs : ℤ) := by omega
    conv_rhs => rw [whole, zpow_neg, zpow_natCast]
    exact one_div _
  · have whole : exponent = (exponent.natAbs : ℤ) := by omega
    conv_rhs => rw [whole, zpow_natCast]

/-- The whole number that a real number is. -/
theorem toExponent?_real {value : ℝ} {exponent : ℤ} (found : toExponent? value = some exponent) :
    value = exponent := by
  change realToExponent? value = some exponent at found
  unfold realToExponent? at found
  split_ifs at found with whole
  cases found
  exact whole.1.symm

end Number

namespace Expr

variable {n : Nat} {arguments : Vector String n} {expr : Expr ℝ} {compiled : Compiled ℝ n}

/-- The value of a name among arguments: that of the first one so called, and zero for a name that
is none. -/
def argumentOf {α : Type} [Number α] (arguments : Vector String n) (values : Vector α n)
    (name : String) : α :=
  match arguments.finIdxOf? name with
  | some position => values.get position
  | none => 0

theorem integerExponent?_eq_some {exponent : ℤ} (found : expr.integerExponent? = some exponent)
    (values : String → ℝ) : expr.value values = exponent := by
  cases expr with
  | const value => exact Number.toExponent?_real found
  | _ => cases found

/-- **A compiled expression computes its value.** -/
theorem compile_value (succeeded : expr.compile arguments = .ok compiled) (values : Vector ℝ n) :
    compiled values = expr.value (argumentOf arguments values) := by
  induction expr generalizing compiled with
  | var name =>
    unfold compile at succeeded
    split at succeeded
    · next position found =>
      cases succeeded
      rw [value, argumentOf, found]
    · cases succeeded
  | const number =>
    cases succeeded
    rfl
  | binary op left right ihLeft ihRight =>
    unfold compile at succeeded
    split at succeeded
    · cases succeeded
    · next first compiledLeft =>
      split at succeeded
      · next exponent whole =>
        cases succeeded
        show Number.integerPow (first values) exponent = _
        rw [Number.integerPow_real, ihLeft compiledLeft, value_pow, integerExponent?_eq_some whole]
      · split at succeeded
        · cases succeeded
        · next second compiledRight =>
          cases succeeded
          show Number.applyBinary _ (first values) (second values) = _
          rw [value, ihLeft compiledLeft, ihRight compiledRight]
  | apply function argument ih =>
    unfold compile at succeeded
    split at succeeded
    · cases succeeded
    · next inner compiledArgument =>
      cases succeeded
      show Number.applyElementary function (inner values) = _
      rw [value, ih compiledArgument]

end Expr

end MultipleShooting
