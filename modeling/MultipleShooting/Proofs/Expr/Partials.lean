/-
**The compiled Jacobian is the matrix of derivatives.**

The matrix is made from simplified derivatives. A variable that does not occur in a function gives
zero without differentiation, and what simplifies to zero is left out. Over the real numbers none of
this changes an entry:

* `Expr.value_derivative_of_not_mentions`: the derivative by a variable that does not occur is zero;
* `Expr.value_cell`, `Expr.isDefined_cell`: the cell of a function and a variable has the value of
  the plain derivative, and is defined where that is;
* `SparseFunction.writeInto_eq_dense`: a matrix that is written over keeps nothing of what was in
  it.

`SparseFunction.ofFunctions_evaluates` puts them together.
-/
import MultipleShooting.Proofs.Expr.Derivative
import MultipleShooting.Proofs.Expr.Evaluation
import MultipleShooting.Proofs.Expr.Jacobian

namespace MultipleShooting

/-! ### Cells -/

namespace Expr

variable {expr function : Expr ℝ} {name : String} {values : String → ℝ}

/-- **The derivative by a variable that does not occur** is zero, wherever it is evaluated. -/
theorem value_derivative_of_not_mentions (absent : expr.mentions name = false) :
    (expr.derivative name).value values = 0 := by
  induction expr with
  | var other =>
    have different : other ≠ name := by simpa [mentions] using absent
    rw [derivative, if_neg different, value_const]
  | const _ => rfl
  | binary op left right ihLeft ihRight =>
    rw [mentions, Bool.or_eq_false_iff] at absent
    have still := ihLeft absent.1
    have still' := ihRight absent.2
    cases op with
    | add => rw [derivative, value_add, still, still', add_zero]
    | sub => rw [derivative, value_sub, still, still', sub_zero]
    | mul => rw [derivative, value_add, value_mul, value_mul, still, still', zero_mul, mul_zero,
        add_zero]
    | div => rw [derivative, value_div, value_sub, value_mul, value_mul, still, still', zero_mul,
        zero_mul, sub_zero, zero_div]
    | pow =>
      have constant : ¬ right.mentions name = true := by simp [absent.2]
      rw [derivative, if_neg constant, value_mul, still, mul_zero]
  | apply function argument ih => rw [derivative, value_chainRule, ih absent, mul_zero]

/-- **The cell has the value of the derivative.** -/
theorem value_cell :
    (function.cell name).value values = (function.derivative name).value values := by
  unfold cell
  split_ifs with occurs
  · exact value_simplify _
  · exact (value_derivative_of_not_mentions (Bool.eq_false_iff.mpr occurs)).symm

/-- **The cell is defined** where the derivative is. -/
theorem isDefined_cell (defined : (function.derivative name).IsDefined values) :
    (function.cell name).IsDefined values := by
  unfold cell
  split_ifs
  · exact isDefined_simplify defined
  · exact trivial

end Expr

namespace SparseFunction

/-! ### Writing over a matrix -/

section Writing

variable {α : Type} [Number α] {n rows columns : Nat} {function : SparseFunction α n}

/-- **Nothing is kept** of a matrix that is written over. -/
theorem writeInto_eq_dense (output : Dense α rows columns) (values : Vector α n) :
    function.writeInto output values = function.dense rows columns values := by
  have cleared : (output.map fun row => row.map fun _ => (0 : α)) = Dense.zero rows columns :=
    ext_get fun i => ext_get fun j => by
      rw [Vector.get_map, Vector.get_map, Dense.get_zero, Column.get_zero]
  rw [writeInto, cleared, dense]

end Writing

/-! ### Evaluation -/

/-- **An entry of the matrix** is the value of the derivative, whether it was left out or not. -/
theorem IsJacobian.get_dense {n : Nat} {arguments : Vector String n}
    {functions : List (Expr ℝ)} {names : List String} {matrix : SparseFunction ℝ n}
    (isJacobian : matrix.IsJacobian arguments functions names) {values : Vector ℝ n}
    {assignment : String → ℝ} (assigns : Expr.Assigns arguments values assignment)
    {rows columns : Nat} {i : Fin rows} {j : Fin columns} {function : Expr ℝ} {name : String}
    (listed : functions[i.val]? = some function) (named : names[j.val]? = some name) :
    ((matrix.dense rows columns values).get i).get j =
      (function.derivative name).value assignment := by
  obtain ⟨value, compiled, entry⟩ := isJacobian.cells i j function name listed named
  rw [entry, ← Expr.value_cell]
  split_ifs with zero
  · rw [Expr.isZero_real.mp zero, Expr.value_const]
  · exact Expr.compile_eq_value compiled assigns

/-- **The compiled Jacobian is the matrix of derivatives.** In any arithmetic, functions of the
arguments have a compiled Jacobian. Its places are those of the cells that are not zero, listed row
by row with increasing columns inside of the matrix, and evaluation leaves nothing of the output as
it was: zero stands at all other places. Over the real numbers the entry in each row and column is
the value of the derivative as it is before simplification, and the expression that was compiled for
it is defined wherever that derivative is. -/
theorem ofFunctions_evaluates :
    (∀ {α : Type} [Number α] {n : Nat} (arguments : Vector String n) (functions : List (Expr α))
      (names : List String), (∀ function ∈ functions, function.KnownIn arguments.toList) →
      ∃ matrix, ofFunctions arguments functions names = .ok matrix ∧
        matrix.rows = functions.length ∧ matrix.columns = names.length ∧
        IsRowMajor functions.length names.length matrix.pattern ∧
        ∀ (output : Dense α functions.length names.length) (values : Vector α n),
          (∀ other, matrix.writeInto output values = matrix.writeInto other values) ∧
          ∀ i j, ((i.val, j.val) ∈ matrix.pattern ↔
              ((functions.get i).cell (names.get j)).isZero = false) ∧
            ((i.val, j.val) ∉ matrix.pattern →
              ((matrix.writeInto output values).get i).get j = 0)) ∧
    ∀ {n : Nat} (arguments : Vector String n) (functions : List (Expr ℝ)) (names : List String)
      (matrix : SparseFunction ℝ n), ofFunctions arguments functions names = .ok matrix →
      ∀ (values : Vector ℝ n) (assignment : String → ℝ),
        Expr.Assigns arguments values assignment → ∀ output i j,
          ((matrix.writeInto output values).get i).get j =
            ((functions.get i).derivative (names.get j)).value assignment ∧
          (((functions.get i).derivative (names.get j)).IsDefined assignment →
            ((functions.get i).cell (names.get j)).IsDefined assignment) := by
  constructor
  · intro α _ n arguments functions names known
    obtain ⟨matrix, succeeded⟩ : ∃ matrix, ofFunctions arguments functions names = .ok matrix :=
      ofFunctions_of_knownIn known
    have isJacobian := isJacobian_of_ofFunctions succeeded
    refine ⟨matrix, succeeded, isJacobian.rows, isJacobian.columns, isJacobian.rowMajor, ?_⟩
    intro output values
    constructor
    · intro other
      rw [writeInto_eq_dense, writeInto_eq_dense]
    · refine fun i j => ⟨mem_pattern_iff succeeded i j, fun absent => ?_⟩
      rw [writeInto_eq_dense]
      exact get_dense_of_notMem absent
  · intro n arguments functions names matrix succeeded values assignment assigns output i j
    rw [writeInto_eq_dense]
    exact ⟨(isJacobian_of_ofFunctions succeeded).get_dense assigns
      (List.getElem?_eq_getElem i.isLt) (List.getElem?_eq_getElem j.isLt), Expr.isDefined_cell⟩

/-- A function whose derivative simplifies to zero, and a product. -/
def differenceAndProduct : List (Expr ℝ) :=
  [.binary .sub (.var "x") (.var "x"), .binary .mul (.var "y") (.apply .ln (.var "x"))]

/-- The first row has no entry, one derivative being simplified to zero and the other not taken. -/
theorem ofFunctions_evaluates_differenceAndProduct :
    (∀ function ∈ differenceAndProduct, function.KnownIn #v["y", "x"].toList) ∧
    ∃ matrix, ofFunctions #v["y", "x"] differenceAndProduct ["x", "y"] = .ok matrix ∧
      (0, 0) ∉ matrix.pattern ∧ (0, 1) ∉ matrix.pattern ∧ (1, 0) ∈ matrix.pattern ∧
      Expr.Assigns #v["y", "x"] #v[6, 1] (fun name => if name = "x" then (1 : ℝ) else 6) ∧
      ∀ output : Dense ℝ 2 2,
        ((matrix.writeInto output #v[6, 1]).get 0).get 0 = 0 ∧
        ((matrix.writeInto output #v[6, 1]).get 1).get 0 = 6 := by
  obtain ⟨compiles, evaluates⟩ := ofFunctions_evaluates
  have known : ∀ function ∈ differenceAndProduct, function.KnownIn #v["y", "x"].toList := by
    intro function among name occurs
    simp only [differenceAndProduct, List.mem_cons, List.not_mem_nil, or_false] at among
    rcases among with rfl | rfl <;> simp [Expr.mentions] at occurs ⊢ <;> tauto
  have assigns : Expr.Assigns #v["y", "x"] #v[6, 1]
      (fun name => if name = "x" then (1 : ℝ) else 6) :=
    Fin.forall_fin_two.mpr ⟨fun _ => rfl, fun _ => rfl⟩
  obtain ⟨matrix, succeeded, -, -, -, places⟩ :=
    compiles #v["y", "x"] differenceAndProduct ["x", "y"] known
  have place (i j : Fin 2) := ((places (Dense.zero 2 2) #v[6, 1]).2 i j).1
  have entry (output : Dense ℝ 2 2) (i j : Fin 2) :=
    (evaluates _ _ _ _ succeeded _ _ assigns output i j).1
  have dropped : (((Expr.var "x").binary .sub (.var "x") : Expr ℝ).cell "x").isZero = true := by
    simp [Expr.cell, Expr.mentions, Expr.derivative, Expr.simplify, Expr.simpleBinary,
      Expr.simpleDifference, Expr.isZero]
  have skipped : (((Expr.var "x").binary .sub (.var "x") : Expr ℝ).cell "y").isZero = true := by
    simp [Expr.cell, Expr.mentions, Expr.isZero]
  have quotient : (((Expr.var "y").binary .mul (.apply .ln (.var "x")) : Expr ℝ).cell "x").isZero =
      false := by
    simp [Expr.cell, Expr.mentions, Expr.derivative, Expr.chainRule, Expr.simplify,
      Expr.simpleBinary, Expr.simpleSum, Expr.simpleProduct, Expr.simpleQuotient, Expr.simpleApply,
      Expr.isZero, Expr.isOne]
  refine ⟨known, matrix, succeeded, fun among => ?_, fun among => ?_, (place 1 0).mpr quotient,
    assigns, fun output => ⟨?_, ?_⟩⟩
  · exact Bool.false_ne_true (((place 0 0).mp among).symm.trans dropped)
  · exact Bool.false_ne_true (((place 0 1).mp among).symm.trans skipped)
  · refine (entry output 0 0).trans ?_
    simp [differenceAndProduct, Expr.derivative]
  · refine (entry output 1 0).trans ?_
    simp [differenceAndProduct, Expr.derivative, Expr.chainRule, Expr.value, Number.applyBinary]

end SparseFunction

end MultipleShooting
