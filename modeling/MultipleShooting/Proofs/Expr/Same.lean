/-
**Expressions but for the sign of zeros.**

A document that writes `-0` may hand on `0`, so expressions are compared with both zeros taken as
one: `Expr.Same` for expressions, `Expr.ReadAlike` for what two texts are read as. The variables of
an expression do not depend on its zeros (`Expr.Same.variableNames_eq`).
-/
import MultipleShooting.Expr.Parser
import MultipleShooting.Number.Double

namespace MultipleShooting

/-- The same double, with both zeros taken as one. -/
def Double.Same (left right : Float) : Prop :=
  left = right ∨ (left == 0.0) = true ∧ (right == 0.0) = true

namespace Expr

/-- The same expression, with both zeros taken as one. -/
inductive Same : Expr Float → Expr Float → Prop
  | var (name : String) : Same (var name) (var name)
  | const {left right : Float} (same : Double.Same left right) : Same (const left) (const right)
  | binary (op : BinaryOp) {left right left' right' : Expr Float} (first : Same left left')
      (second : Same right right') : Same (binary op left right) (binary op left' right')
  | apply (function : Elementary) {argument argument' : Expr Float}
      (inside : Same argument argument') : Same (apply function argument) (apply function argument')

theorem Same.refl (expr : Expr Float) : Same expr expr := by
  induction expr with
  | var name => exact .var name
  | const value => exact .const (.inl rfl)
  | binary op left right first second => exact .binary op first second
  | apply function argument inside => exact .apply function inside

variable {left right : Expr Float}

/-- Expressions that are the same but for zeros have the same variables. -/
theorem Same.variableNames_eq (same : Same left right) :
    left.variableNames = right.variableNames := by
  have occurrences : left.occurrences = right.occurrences := by
    induction same with
    | var name => rfl
    | const _ => rfl
    | binary op _ _ first second => rw [Expr.occurrences, first, second, Expr.occurrences]
    | apply function _ inside => exact inside
  rw [variableNames, occurrences, variableNames]

/-- Two texts are read alike: both are refused, or both write the same expression. -/
inductive ReadAlike :
    Except SyntaxFault (Expr Float) → Except SyntaxFault (Expr Float) → Prop
  | refused (first second : SyntaxFault) : ReadAlike (.error first) (.error second)
  | read {left right : Expr Float} (same : Same left right) : ReadAlike (.ok left) (.ok right)

theorem ReadAlike.refl (answer : Except SyntaxFault (Expr Float)) : ReadAlike answer answer := by
  cases answer with
  | error fault => exact .refused fault fault
  | ok expr => exact .read (Same.refl expr)

end Expr

end MultipleShooting
