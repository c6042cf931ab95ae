/-
**Repeated simplification settles in a normal form.**

In any arithmetic of the constants, expressions being compared as trees:

* `Expr.weight`: the number of nodes and the number of differences among them. Every rule of a pass
  lowers it and adds no node (`Expr.Rewrites.shrinks`, `Expr.Folds.shrinks`), so a pass leaves an
  expression as it is or shrinks it (`Expr.shrinks_simplify`);
* `Expr.settles_iterate`: passes that follow each other settle, or each of them has lowered the
  weight;
* `Expr.IsReducible`: what a pass does not leave as it is, one shape a constructor
  (`Expr.simpleBinary_eq_iff`, `Expr.simpleApply_eq_iff`);
* `Expr.simplify_eq_self_iff`: **a pass changes nothing exactly where no part is reducible**;
* `Expr.simplify_settles`: **passes settle, at an expression without reducible parts**.
-/
import MultipleShooting.Number.Double
import MultipleShooting.Proofs.Expr.Simplify

namespace MultipleShooting

namespace Expr

variable {α : Type}

/-! ### Weight -/

/-- Whether an expression is a difference. -/
def isDifference : Expr α → Bool
  | binary .sub _ _ => true
  | _ => false

/-- The number of nodes and the number of differences among them. -/
def weight (expr : Expr α) : Nat := expr.nodes.length + expr.nodes.countP isDifference

@[simp] theorem length_nodes_const (value : α) : (const value).nodes.length = 1 := rfl

@[simp] theorem length_nodes_binary (op : BinaryOp) (left right : Expr α) :
    (binary op left right).nodes.length = left.nodes.length + right.nodes.length + 1 := by
  rw [nodes, List.length_cons, List.length_append]

@[simp] theorem length_nodes_apply (function : Elementary) (argument : Expr α) :
    (apply function argument).nodes.length = argument.nodes.length + 1 := List.length_cons

@[simp] theorem weight_const (value : α) : (const value).weight = 1 := rfl

@[simp] theorem weight_binary (op : BinaryOp) (left right : Expr α) :
    (binary op left right).weight =
      left.weight + right.weight + if op = .sub then 2 else 1 := by
  unfold weight
  rw [length_nodes_binary, nodes, List.countP_cons, List.countP_append]
  cases op <;> simp only [isDifference, if_true, reduceCtorEq, if_false] <;> omega

@[simp] theorem weight_apply (function : Elementary) (argument : Expr α) :
    (apply function argument).weight = argument.weight + 1 := by
  unfold weight
  rw [length_nodes_apply, nodes, List.countP_cons]
  simp only [isDifference, Bool.false_eq_true, if_false]
  omega

theorem length_nodes_pos (expr : Expr α) : 0 < expr.nodes.length := by
  cases expr <;> exact Nat.succ_pos _

theorem weight_pos (expr : Expr α) : 0 < expr.weight :=
  Nat.lt_of_lt_of_le expr.length_nodes_pos (Nat.le_add_right _ _)

/-- Both operands are lighter than the operation. -/
theorem weight_operands_lt (op : BinaryOp) (left right : Expr α) :
    left.weight < (binary op left right).weight ∧ right.weight < (binary op left right).weight := by
  have leftPos := left.weight_pos
  have rightPos := right.weight_pos
  rw [weight_binary]
  split_ifs <;> omega

/-- An operand is not the operation. -/
theorem ne_binary_left (op : BinaryOp) (left right : Expr α) : left ≠ binary op left right :=
  fun same => (weight_operands_lt op left right).1.ne (congrArg weight same)

theorem ne_binary_right (op : BinaryOp) (left right : Expr α) : right ≠ binary op left right :=
  fun same => (weight_operands_lt op left right).2.ne (congrArg weight same)

/-! ### Shrinking -/

/-- What becomes of an expression: it is kept as it is, or it loses weight and gains no node. -/
def Shrinks (before after : Expr α) : Prop :=
  after = before ∨ after.weight < before.weight ∧ after.nodes.length ≤ before.nodes.length

namespace Shrinks

variable {before between after left left' right right' argument argument' : Expr α}

theorem refl (expr : Expr α) : Shrinks expr expr := .inl rfl

theorem weight_le (shrinks : Shrinks before after) : after.weight ≤ before.weight := by
  obtain rfl | ⟨lighter, -⟩ := shrinks
  · exact le_rfl
  · exact lighter.le

theorem length_le (shrinks : Shrinks before after) :
    after.nodes.length ≤ before.nodes.length := by
  obtain rfl | ⟨-, fewer⟩ := shrinks
  · exact le_rfl
  · exact fewer

/-- What keeps its weight is kept as it is. -/
theorem eq_of_le (shrinks : Shrinks before after) (heavy : before.weight ≤ after.weight) :
    after = before :=
  shrinks.resolve_right fun lost => absurd lost.1 (Nat.not_lt.mpr heavy)

theorem trans (first : Shrinks before between) (second : Shrinks between after) :
    Shrinks before after := by
  obtain rfl | ⟨lighter, fewer⟩ := second
  · exact first
  · exact .inr ⟨lighter.trans_le first.weight_le, fewer.trans first.length_le⟩

/-- An operation shrinks with its operands. -/
theorem binary (op : BinaryOp) (first : Shrinks left left') (second : Shrinks right right') :
    Shrinks (binary op left right) (binary op left' right') := by
  obtain rfl | ⟨lighter, -⟩ := id first
  · obtain rfl | ⟨lighter, -⟩ := id second
    · exact .refl _
    · refine .inr ⟨?_, ?_⟩
      · simp only [weight_binary]
        omega
      · simpa using second.length_le
  · have lightSecond := second.weight_le
    have fewFirst := first.length_le
    have fewSecond := second.length_le
    refine .inr ⟨?_, ?_⟩
    · simp only [weight_binary]
      omega
    · simp only [length_nodes_binary]
      omega

/-- A function shrinks with its argument. -/
theorem apply (function : Elementary) (inside : Shrinks argument argument') :
    Shrinks (apply function argument) (apply function argument') := by
  obtain rfl | ⟨lighter, fewer⟩ := inside
  · exact .refl _
  · refine .inr ⟨?_, ?_⟩
    · simpa using lighter
    · simpa using fewer

end Shrinks

section Passes

variable [Number α]

/-- **Every rule for an operation shrinks it.** -/
theorem Rewrites.shrinks {op : BinaryOp} {left right result : Expr α}
    (rewritten : Rewrites op left right result) : Shrinks (binary op left right) result := by
  have leftWeight := left.weight_pos
  have rightWeight := right.weight_pos
  have leftNodes := left.length_nodes_pos
  have rightNodes := right.length_nodes_pos
  cases rewritten with
  | keep op left right => exact .refl _
  | zeroSub _ =>
    -- The product has as many nodes as the difference, but is none.
    refine .inr ⟨?_, ?_⟩
    · simp only [negated, weight_binary, weight_const, if_true, reduceCtorEq, if_false]
      omega
    · simp only [negated, length_nodes_binary, length_nodes_const]
      omega
  | joinFactors a b factor =>
    refine .inr ⟨?_, ?_⟩
    · simp only [weight_binary, weight_const, reduceCtorEq, if_false]
      omega
    · simp only [length_nodes_binary, length_nodes_const]
      omega
  | _ =>
    refine .inr ⟨?_, ?_⟩
    · simp only [weight_binary, weight_const]
      omega
    · simp only [length_nodes_binary, length_nodes_const]
      omega

/-- **Every rule for a function shrinks it.** -/
theorem Folds.shrinks {function : Elementary} {argument result : Expr α}
    (folded : Folds function argument result) : Shrinks (apply function argument) result := by
  cases folded with
  | keep function argument => exact .refl _
  | _ =>
    refine .inr ⟨?_, ?_⟩
    · simp only [weight_apply, weight_const]
      omega
    · simp only [length_nodes_apply, length_nodes_const]
      omega

/-- **A pass leaves an expression as it is or shrinks it.** -/
theorem shrinks_simplify (expr : Expr α) : Shrinks expr expr.simplify := by
  induction expr with
  | var name => exact .refl _
  | const value => exact .refl _
  | binary op left right ihLeft ihRight =>
    exact (ihLeft.binary op ihRight).trans (rewrites_simpleBinary op _ _).shrinks
  | apply function argument ih =>
    exact (ih.apply function).trans (folds_simpleApply function _).shrinks

/-- Passes that have not settled have lowered the weight each time. -/
theorem settles_iterate (expr : Expr α) (passes : Nat) :
    (simplify^[passes] expr).simplify = simplify^[passes] expr ∨
      (simplify^[passes] expr).weight + passes ≤ expr.weight := by
  induction passes with
  | zero => exact .inr le_rfl
  | succ passes ih =>
    rw [Function.iterate_succ_apply']
    obtain settled | lowered := ih
    · rw [settled]
      exact .inl settled
    · obtain kept | ⟨lighter, -⟩ := shrinks_simplify (simplify^[passes] expr)
      · rw [kept]
        exact .inl kept
      · right
        omega

/-! ### Reducible nodes -/

/-- A node that a pass does not leave as it is. -/
inductive IsReducible : Expr α → Prop
  | constants {op : BinaryOp} (a b : α) (folds : op ≠ .div) :
      IsReducible (binary op (const a) (const b))
  | quotient (a b : α) (divisor : (b == 0) = false) :
      IsReducible (binary .div (const a) (const b))
  | exp (a : α) : IsReducible (apply .exp (const a))
  | sin (a : α) : IsReducible (apply .sin (const a))
  | cos (a : α) : IsReducible (apply .cos (const a))
  | ln (a : α) (positive : 0 < a) : IsReducible (apply .ln (const a))
  | zeroAdd {left right : Expr α} (zero : left.isZero = true) :
      IsReducible (binary .add left right)
  | addZero {left right : Expr α} (zero : right.isZero = true) :
      IsReducible (binary .add left right)
  | zeroSub {left right : Expr α} (zero : left.isZero = true) :
      IsReducible (binary .sub left right)
  | subZero {left right : Expr α} (zero : right.isZero = true) :
      IsReducible (binary .sub left right)
  | subSame {left right : Expr α} (same : left.same right = true) :
      IsReducible (binary .sub left right)
  | zeroMul {left right : Expr α} (zero : left.isZero = true) :
      IsReducible (binary .mul left right)
  | mulZero {left right : Expr α} (zero : right.isZero = true) :
      IsReducible (binary .mul left right)
  | oneMul {left right : Expr α} (one : left.isOne = true) :
      IsReducible (binary .mul left right)
  | mulOne {left right : Expr α} (one : right.isOne = true) :
      IsReducible (binary .mul left right)
  | nestedFactors (a b : α) (factor : Expr α) :
      IsReducible (binary .mul (const a) (binary .mul (const b) factor))
  | divOne {left right : Expr α} (one : right.isOne = true) :
      IsReducible (binary .div left right)
  | zeroDiv {left right : Expr α} (zero : left.isZero = true) (divisor : right.isZero = false) :
      IsReducible (binary .div left right)
  | powZero {left right : Expr α} (zero : right.isZero = true) :
      IsReducible (binary .pow left right)
  | powOne {left right : Expr α} (one : right.isOne = true) :
      IsReducible (binary .pow left right)

theorem simpleSum_eq_iff (left right : Expr α) :
    simpleSum left right = binary .add left right ↔ ¬ (binary .add left right).IsReducible := by
  unfold simpleSum
  split
  · exact iff_of_false (fun kept => by cases kept) (not_not.mpr (.constants _ _ (by decide)))
  · next mixed =>
    split_ifs with leftZero rightZero
    · exact iff_of_false (ne_binary_right _ _ _) (not_not.mpr (.zeroAdd leftZero))
    · exact iff_of_false (ne_binary_left _ _ _) (not_not.mpr (.addZero rightZero))
    · refine iff_of_true rfl fun reducible => ?_
      cases reducible with
      | constants a b _ => exact mixed a b rfl rfl
      | zeroAdd zero => exact leftZero zero
      | addZero zero => exact rightZero zero

theorem simpleDifference_eq_iff (left right : Expr α) :
    simpleDifference left right = binary .sub left right ↔
      ¬ (binary .sub left right).IsReducible := by
  unfold simpleDifference
  split
  · exact iff_of_false (fun kept => by cases kept) (not_not.mpr (.constants _ _ (by decide)))
  · next mixed =>
    split_ifs with rightZero leftZero equal
    · exact iff_of_false (ne_binary_left _ _ _) (not_not.mpr (.subZero rightZero))
    · exact iff_of_false (fun kept => by cases kept) (not_not.mpr (.zeroSub leftZero))
    · exact iff_of_false (fun kept => by cases kept) (not_not.mpr (.subSame equal))
    · refine iff_of_true rfl fun reducible => ?_
      cases reducible with
      | constants a b _ => exact mixed a b rfl rfl
      | zeroSub zero => exact leftZero zero
      | subZero zero => exact rightZero zero
      | subSame same => exact equal same

theorem simpleProduct_eq_iff (left right : Expr α) :
    simpleProduct left right = binary .mul left right ↔
      ¬ (binary .mul left right).IsReducible := by
  unfold simpleProduct
  split
  · exact iff_of_false (fun kept => by cases kept) (not_not.mpr (.constants _ _ (by decide)))
  · next mixed =>
    split_ifs with zero leftOne rightOne
    · refine iff_of_false (fun kept => by cases kept) (not_not.mpr ?_)
      obtain leftZero | rightZero := Bool.or_eq_true _ _ ▸ zero
      · exact .zeroMul leftZero
      · exact .mulZero rightZero
    · exact iff_of_false (ne_binary_right _ _ _) (not_not.mpr (.oneMul leftOne))
    · exact iff_of_false (ne_binary_left _ _ _) (not_not.mpr (.mulOne rightOne))
    · split
      · refine iff_of_false (fun kept => ?_) (not_not.mpr (.nestedFactors _ _ _))
        exact ne_binary_right _ _ _ (Expr.binary.inj kept).2.2
      · next apart =>
        refine iff_of_true rfl fun reducible => ?_
        cases reducible with
        | constants a b _ => exact mixed a b rfl rfl
        | zeroMul leftZero => exact zero (by rw [leftZero, Bool.true_or])
        | mulZero rightZero => exact zero (by rw [rightZero, Bool.or_true])
        | oneMul one => exact leftOne one
        | mulOne one => exact rightOne one
        | nestedFactors a b factor => exact apart a b factor rfl rfl

theorem simpleQuotient_eq_iff (left right : Expr α) :
    simpleQuotient left right = binary .div left right ↔
      ¬ (binary .div left right).IsReducible := by
  have unfolded (undivided : ¬ ∃ a b : α, left = const a ∧ right = const b ∧ (b == 0) = false) :
      (if left.isZero && !right.isZero then const 0
        else if right.isOne then left else binary .div left right) = binary .div left right ↔
        ¬ (binary .div left right).IsReducible := by
    split_ifs with zero one
    · rw [Bool.and_eq_true, Bool.not_eq_true'] at zero
      exact iff_of_false (fun kept => by cases kept) (not_not.mpr (.zeroDiv zero.1 zero.2))
    · exact iff_of_false (ne_binary_left _ _ _) (not_not.mpr (.divOne one))
    · refine iff_of_true rfl fun reducible => ?_
      cases reducible with
      | constants a b folds => exact folds rfl
      | quotient a b divisor => exact undivided ⟨a, b, rfl, rfl, divisor⟩
      | divOne isOne => exact one isOne
      | zeroDiv isZero divisor => exact zero (by rw [isZero, divisor]; rfl)
  simp only [simpleQuotient]
  split
  · next a b =>
    by_cases divisor : (b == 0) = true
    · rw [if_pos divisor]
      refine unfolded ?_
      rintro ⟨_, other, -, same, nonzero⟩
      rw [← Expr.const.inj same, divisor] at nonzero
      cases nonzero
    · rw [if_neg divisor]
      exact iff_of_false (fun kept => by cases kept)
        (not_not.mpr (.quotient a b (Bool.eq_false_iff.mpr divisor)))
  · next mixed =>
    refine unfolded ?_
    rintro ⟨a, b, first, second, -⟩
    exact mixed a b first second

theorem simplePower_eq_iff (base exponent : Expr α) :
    simplePower base exponent = binary .pow base exponent ↔
      ¬ (binary .pow base exponent).IsReducible := by
  unfold simplePower
  split
  · exact iff_of_false (fun kept => by cases kept) (not_not.mpr (.constants _ _ (by decide)))
  · next mixed =>
    split_ifs with zero one
    · exact iff_of_false (fun kept => by cases kept) (not_not.mpr (.powZero zero))
    · exact iff_of_false (ne_binary_left _ _ _) (not_not.mpr (.powOne one))
    · refine iff_of_true rfl fun reducible => ?_
      cases reducible with
      | constants a b _ => exact mixed a b rfl rfl
      | powZero isZero => exact zero isZero
      | powOne isOne => exact one isOne

/-- **An operation on simplified operands is kept** exactly when it is not reducible. -/
theorem simpleBinary_eq_iff (op : BinaryOp) (left right : Expr α) :
    simpleBinary op left right = binary op left right ↔ ¬ (binary op left right).IsReducible := by
  cases op with
  | add => exact simpleSum_eq_iff left right
  | sub => exact simpleDifference_eq_iff left right
  | mul => exact simpleProduct_eq_iff left right
  | div => exact simpleQuotient_eq_iff left right
  | pow => exact simplePower_eq_iff left right

/-- **A function of a simplified argument is kept** exactly when it is not reducible. -/
theorem simpleApply_eq_iff (function : Elementary) (argument : Expr α) :
    simpleApply function argument = apply function argument ↔
      ¬ (apply function argument).IsReducible := by
  unfold simpleApply
  split
  · exact iff_of_false (fun kept => by cases kept) (not_not.mpr (.exp _))
  · split_ifs with positive
    · exact iff_of_false (fun kept => by cases kept) (not_not.mpr (.ln _ positive))
    · refine iff_of_true rfl fun reducible => ?_
      cases reducible with
      | ln a isPositive => exact positive isPositive
  · exact iff_of_false (fun kept => by cases kept) (not_not.mpr (.sin _))
  · exact iff_of_false (fun kept => by cases kept) (not_not.mpr (.cos _))
  · next noExp noLn noSin noCos =>
    refine iff_of_true rfl fun reducible => ?_
    cases reducible with
    | exp a => exact noExp a rfl rfl
    | ln a _ => exact noLn a rfl rfl
    | sin a => exact noSin a rfl rfl
    | cos a => exact noCos a rfl rfl

/-! ### Normal forms -/

/-- An operation that a pass leaves as it is has operands of that kind. -/
theorem simplify_binary_eq_iff (op : BinaryOp) (left right : Expr α) :
    (binary op left right).simplify = binary op left right ↔
      left.simplify = left ∧ right.simplify = right ∧ ¬ (binary op left right).IsReducible := by
  rw [← simpleBinary_eq_iff, simplify]
  constructor
  · intro kept
    -- Nothing of the weight is lost on the way, so the operands have kept theirs.
    have rebuilt := (rewrites_simpleBinary op left.simplify right.simplify).shrinks.weight_le
    have leftLe := (shrinks_simplify left).weight_le
    have rightLe := (shrinks_simplify right).weight_le
    rw [kept, weight_binary, weight_binary] at rebuilt
    have sameLeft := (shrinks_simplify left).eq_of_le (by omega)
    have sameRight := (shrinks_simplify right).eq_of_le (by omega)
    rw [sameLeft, sameRight] at kept
    exact ⟨sameLeft, sameRight, kept⟩
  · rintro ⟨sameLeft, sameRight, kept⟩
    rw [sameLeft, sameRight, kept]

theorem simplify_apply_eq_iff (function : Elementary) (argument : Expr α) :
    (apply function argument).simplify = apply function argument ↔
      argument.simplify = argument ∧ ¬ (apply function argument).IsReducible := by
  rw [← simpleApply_eq_iff, simplify]
  constructor
  · intro kept
    have rebuilt := (folds_simpleApply function argument.simplify).shrinks.weight_le
    rw [kept, weight_apply, weight_apply] at rebuilt
    have same := (shrinks_simplify argument).eq_of_le (by omega)
    rw [same] at kept
    exact ⟨same, kept⟩
  · rintro ⟨same, kept⟩
    rw [same, kept]

/-- **A pass changes nothing** exactly where no part is reducible. -/
theorem simplify_eq_self_iff (expr : Expr α) :
    expr.simplify = expr ↔ ∀ part ∈ expr.nodes, ¬ part.IsReducible := by
  induction expr with
  | var name =>
    refine iff_of_true rfl (List.forall_mem_singleton.mpr fun reducible => ?_)
    cases reducible
  | const value =>
    refine iff_of_true rfl (List.forall_mem_singleton.mpr fun reducible => ?_)
    cases reducible
  | binary op left right ihLeft ihRight =>
    rw [simplify_binary_eq_iff, ihLeft, ihRight, nodes, List.forall_mem_cons,
      List.forall_mem_append]
    tauto
  | apply function argument ih =>
    rw [simplify_apply_eq_iff, ih, nodes, List.forall_mem_cons, and_comm]

/-- **Repeated simplification settles in a normal form.** A pass leaves an expression as it is, or
takes away from the number of nodes and differences, and it adds no node. Passes that follow each
other therefore reach, after at most this number of them, an expression that the next one leaves as
it is, and such an expression has no reducible part. -/
theorem simplify_settles (expr : Expr α) :
    (expr.simplify = expr ∨ expr.simplify.weight < expr.weight) ∧
      expr.simplify.nodes.length ≤ expr.nodes.length ∧
      (∃ passes ≤ expr.weight,
        (simplify^[passes] expr).simplify = simplify^[passes] expr) ∧
      (expr.simplify = expr ↔ ∀ part ∈ expr.nodes, ¬ part.IsReducible) := by
  have shrinks := shrinks_simplify expr
  refine ⟨shrinks.imp_right And.left, shrinks.length_le, ⟨expr.weight, le_rfl, ?_⟩,
    expr.simplify_eq_self_iff⟩
  obtain settled | lowered := expr.settles_iterate expr.weight
  · exact settled
  · have positive := (simplify^[expr.weight] expr).weight_pos
    omega

end Passes

/-- The opposite of a double, written as a difference. -/
def oppositeOfDouble : Expr Float := binary .sub (const 0) (binary .mul (const 2) (var "x"))

/-- The difference becomes a product, and only the next pass joins its factors. -/
example : oppositeOfDouble.simplify = binary .mul (const (-1)) (binary .mul (const 2) (var "x")) ∧
    oppositeOfDouble.simplify.simplify = binary .mul (const (-2)) (var "x") := ⟨rfl, rfl⟩

end Expr

end MultipleShooting
