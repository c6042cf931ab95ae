/-
**Reading back the text of an expression.**

The text of an expression with finite constants is read without fault, and the answer is the
expression, but for one shape: a constant with the minus sign as the base of a power. There the sign
is read after the power, so that `(-2 ^ x)` is the negative of a power of two (`Expr.reread`).

* `Expr.Legible`: variables are identifiers of the grammar, and constants are finite and read back
  from their text, which all finite ones do (`Expr.legible_iff`);
* `Expr.Legible.writesBack`: what the text of an expression writes. Every expression but a constant
  with the minus sign is an atom, so that is the only one that cannot be the base of a power;
* `Expr.parse_text_eq_ok_iff`: what is read, and when it is the expression itself.
-/
import MultipleShooting.Proofs.Decimal.ReadBack
import MultipleShooting.Proofs.Expr.Parser

namespace MultipleShooting

open Grammar

namespace Expr

/-! ### Nodes -/

theorem self_mem_nodes {α : Type} (expr : Expr α) : expr ∈ expr.nodes := by
  cases expr <;> exact List.mem_cons_self

/-- The text of an expression can be read: its variables are identifiers, and its constants are
finite doubles that their text reads back as. -/
structure Legible (expr : Expr Float) : Prop where
  identifiers : ∀ name, var name ∈ expr.nodes → IsIdentifier name.toList
  finite : ∀ value, const value ∈ expr.nodes → Number.isFinite value = true
  readsBack : ∀ value, const value ∈ expr.nodes →
    Decimal.readDouble? (DecimalText.write value) = some value

/-- The parts of a legible expression are legible. -/
theorem Legible.mono {expr part : Expr Float} (legible : expr.Legible)
    (inside : part.nodes ⊆ expr.nodes) : part.Legible :=
  ⟨fun name among => legible.identifiers name (inside among),
    fun value among => legible.finite value (inside among),
    fun value among => legible.readsBack value (inside among)⟩

/-- **Which expressions are legible**: those whose variables are identifiers and whose constants are
finite, since every finite double reads back from its text. -/
theorem legible_iff {expr : Expr Float} : expr.Legible ↔
    (∀ name, var name ∈ expr.nodes → IsIdentifier name.toList) ∧
      ∀ value, const value ∈ expr.nodes → Number.isFinite value = true := by
  refine ⟨fun legible => ⟨legible.identifiers, legible.finite⟩, ?_⟩
  rintro ⟨identifiers, finite⟩
  exact ⟨identifiers, finite, fun value among => Decimal.readDouble?_write (finite value among)⟩

/-! ### Reading back -/

/-- The magnitude of a constant with the minus sign. -/
def negativeConstant? : Expr Float → Option Float
  | const value => if Decimal.isNegative value then some (Number.abs value) else none
  | _ => none

/-- What the text of an expression is read back as: at every power of a constant with the minus sign
it is minus one times the power of its magnitude. -/
def reread : Expr Float → Expr Float
  | var name => var name
  | const value => const value
  | binary op left right =>
    match op, left.negativeConstant? with
    | .pow, some magnitude => (binary .pow (const magnitude) right.reread).negated
    | _, _ => binary op left.reread right.reread
  | apply function argument => apply function argument.reread

theorem negativeConstant?_const {value : Float} (negative : Decimal.isNegative value = true) :
    (const value).negativeConstant? = some (Number.abs value) := if_pos negative

theorem negativeConstant?_eq_none {expr : Expr Float} : expr.negativeConstant? = none ↔
    ∀ value, expr = const value → Decimal.isNegative value = false := by
  cases expr with
  | const value => simp [negativeConstant?]
  | _ => simp [negativeConstant?]

/-- A power of a constant with the minus sign is read back as the negative of a power. -/
theorem reread_power {value : Float} (negative : Decimal.isNegative value = true)
    (exponent : Expr Float) : (binary .pow (const value) exponent).reread =
      (binary .pow (const (Number.abs value)) exponent.reread).negated := by
  simp only [reread, negativeConstant?_const negative]

/-- Away from powers of constants with the minus sign an operation is read back as itself. -/
theorem reread_binary {op : BinaryOp} {left : Expr Float} (right : Expr Float)
    (other : op = .pow → left.negativeConstant? = none) :
    (binary op left right).reread = binary op left.reread right.reread := by
  cases op with
  | pow => simp only [reread, other rfl]
  | _ => rfl

/-! ### Words of a text -/

section Words

variable {op : BinaryOp} {left right : Expr Float} {first second middle after rest : List Char}

/-- The sign of an operation stands between blanks. -/
theorem token_sign (op : BinaryOp) (rest : List Char) :
    Token [op.sign] (' ' :: op.sign :: ' ' :: rest) rest :=
  ⟨[' '], [' '], Rule.blanks_space, Rule.blanks_space, rfl⟩

/-- An operation takes signed operands; only the base of a power has to be an atom. -/
theorem derives_operation (isFirst : Derives .signed first left middle)
    (isBase : op = .pow → Derives .atom first left middle) (sign : Token [op.sign] middle after)
    (isSecond : Derives .signed after right rest) :
    Derives .sum first (binary op left right) rest := by
  cases op with
  | add => exact .sum (.inl rfl) (.ofProduct (.ofSigned isFirst)) sign (.ofSigned isSecond)
  | sub => exact .sum (.inr rfl) (.ofProduct (.ofSigned isFirst)) sign (.ofSigned isSecond)
  | mul => exact .ofProduct (.product (.inl rfl) (.ofSigned isFirst) sign isSecond)
  | div => exact .ofProduct (.product (.inr rfl) (.ofSigned isFirst) sign isSecond)
  | pow => exact .ofProduct (.ofSigned (.ofPower (.power (isBase rfl) sign isSecond)))

end Words

/-- A constant with the minus sign is written as that sign and its magnitude, which is an atom. -/
theorem Legible.exists_magnitude {value : Float} (legible : (const value).Legible)
    (negative : Decimal.isNegative value = true) :
    ∃ digits, (const value).chars = '-' :: digits ∧ -(Number.abs value) = value ∧
      ∀ rest, Derives .atom (digits ++ rest) (const (Number.abs value)) rest := by
  have among : const value ∈ (const value).nodes := self_mem_nodes _
  obtain ⟨digits, decimal, shown, written, read, same⟩ := Decimal.write_of_negative
    (legible.finite value among) negative (legible.readsBack value among)
  exact ⟨digits, shown, same, fun rest => .number written read (token_append _ _)⟩

/-! ### Texts -/

/-- The text of an expression writes what it is read back as, wherever it stands: it is a signed
operand, and an atom if it does not begin with a sign. -/
structure WritesBack (expr : Expr Float) : Prop where
  atom : expr.negativeConstant? = none →
    ∀ rest, Derives .atom (expr.chars ++ rest) expr.reread rest
  signed : ∀ rest, Derives .signed (expr.chars ++ rest) expr.reread rest

theorem WritesBack.of_atom {expr : Expr Float}
    (isAtom : ∀ rest, Derives .atom (expr.chars ++ rest) expr.reread rest) : expr.WritesBack :=
  ⟨fun _ => isAtom, fun rest => .ofPower (.ofAtom (isAtom rest))⟩

theorem writesBack_const {value : Float} (legible : (const value).Legible) :
    (const value).WritesBack := by
  have among : const value ∈ (const value).nodes := self_mem_nodes _
  by_cases negative : Decimal.isNegative value = true
  · obtain ⟨digits, shown, same, isMagnitude⟩ := legible.exists_magnitude negative
    have changed : (const (Number.abs value)).signChanged = const value := congrArg const same
    refine ⟨fun unsigned => ?_, fun rest => ?_⟩
    · rw [negativeConstant?_const negative] at unsigned
      cases unsigned
    · rw [shown, reread, ← changed]
      exact .minus (token_append ['-'] _) (.ofPower (.ofAtom (isMagnitude rest)))
  · obtain ⟨decimal, written, read⟩ := Decimal.write_of_positive (legible.finite value among)
      (Bool.eq_false_iff.mpr negative) (legible.readsBack value among)
    exact .of_atom fun rest => .number written read (token_append _ _)

/-- Between its parentheses an operation writes what it is read back as. -/
theorem derives_inside (op : BinaryOp) {left right : Expr Float} (legible : left.Legible)
    (first : left.WritesBack) (second : right.WritesBack) (rest : List Char) :
    Derives .sum (left.chars ++ ' ' :: op.sign :: ' ' :: (right.chars ++ rest))
      (binary op left right).reread rest := by
  by_cases shape : op = .pow ∧ ∃ value, left = const value ∧ Decimal.isNegative value = true
  · -- the sign is read before the whole power
    obtain ⟨rfl, value, rfl, negative⟩ := shape
    obtain ⟨digits, shown, -, isMagnitude⟩ := legible.exists_magnitude negative
    have power := Derives.power (isMagnitude _) (token_sign .pow _) (second.signed rest)
    rw [shown, reread_power negative]
    exact .ofProduct (.ofSigned (.minus (token_append ['-'] _) (.ofPower power)))
  · have unsigned : op = .pow → left.negativeConstant? = none := fun isPower =>
      negativeConstant?_eq_none.mpr fun value same =>
        Bool.eq_false_iff.mpr fun negative => shape ⟨isPower, value, same, negative⟩
    rw [reread_binary right unsigned]
    exact derives_operation (first.signed _) (fun isPower => first.atom (unsigned isPower) _)
      (token_sign op _) (second.signed rest)

theorem isIdentifier_name (function : Elementary) : IsIdentifier function.name.toList := by
  have whole : identifier? function.name.toList = some (function.name.toList, []) := by
    cases function <;> rfl
  exact (identifier?_eq_some whole).1

theorem calls_name (function : Elementary) (argument : Expr Float) :
    Calls (String.ofList function.name.toList) argument (apply function argument) := by
  rw [String.ofList_toList]
  refine .elementary ?_ argument
  cases function <;> exact List.mem_cons_self

/-- **The text of a legible expression writes what it is read back as.** -/
theorem Legible.writesBack {expr : Expr Float} (legible : expr.Legible) : expr.WritesBack := by
  induction expr with
  | var name =>
    refine .of_atom fun rest => ?_
    have isVariable := Derives.identifier (α := Float)
      (legible.identifiers name (self_mem_nodes _)) (token_append name.toList rest)
    rw [String.ofList_toList] at isVariable
    exact isVariable
  | const value => exact writesBack_const legible
  | binary op left right ihLeft ihRight =>
    have legibleLeft : left.Legible := legible.mono fun node among =>
      List.mem_cons_of_mem _ (List.mem_append_left _ among)
    have legibleRight : right.Legible := legible.mono fun node among =>
      List.mem_cons_of_mem _ (List.mem_append_right _ among)
    have inside := derives_inside op legibleLeft (ihLeft legibleLeft) (ihRight legibleRight)
    refine .of_atom fun rest => ?_
    have parted : (binary op left right).chars ++ rest =
        ['('] ++ (left.chars ++ ' ' :: op.sign :: ' ' :: (right.chars ++ ([')'] ++ rest))) := by
      simp [chars]
    rw [parted]
    exact .enclosed (token_append _ _) (inside _) (token_append _ _)
  | apply function argument ih =>
    have inside := (ih (legible.mono fun node among => List.mem_cons_of_mem _ among)).signed
    refine .of_atom fun rest => ?_
    have parted : (apply function argument).chars ++ rest =
        function.name.toList ++ (['('] ++ (argument.chars ++ ([')'] ++ rest))) := by
      simp [chars]
    rw [parted]
    exact .call (isIdentifier_name function) (token_append _ _) (token_append _ _)
      (.ofProduct (.ofSigned (inside _))) (token_append _ _) (calls_name function _)

/-! ### The exception -/

/-- What is read back is the expression itself, unless a constant with the minus sign is the base of
a power somewhere in it. -/
theorem reread_eq_self_iff {expr : Expr Float} : expr.reread = expr ↔
    ∀ value exponent, binary .pow (const value) exponent ∈ expr.nodes →
      Decimal.isNegative value = false := by
  induction expr with
  | var name => simp [reread, nodes]
  | const value => simp [reread, nodes]
  | apply function argument ih => simpa [reread, nodes] using ih
  | binary op left right ihLeft ihRight =>
    by_cases unsigned : op = .pow → left.negativeConstant? = none
    · rw [reread_binary right unsigned]
      rw [negativeConstant?_eq_none] at unsigned
      simp only [binary.injEq, true_and, ihLeft, ihRight, nodes, List.mem_cons, List.mem_append]
      constructor
      · rintro ⟨first, second⟩ value exponent (⟨rfl, same, -⟩ | among | among)
        · exact unsigned rfl value same.symm
        · exact first value exponent among
        · exact second value exponent among
      · exact fun all => ⟨fun value exponent among => all value exponent (.inr (.inl among)),
          fun value exponent among => all value exponent (.inr (.inr among))⟩
    · -- the base carries the sign, and neither side holds
      rw [negativeConstant?_eq_none] at unsigned
      push Not at unsigned
      obtain ⟨rfl, value, rfl, negative⟩ := unsigned
      rw [Bool.ne_false_iff] at negative
      refine iff_of_false (fun same => ?_) fun all => ?_
      · rw [reread_power negative] at same
        cases same
      · have positive := all value right (self_mem_nodes _)
        rw [negative] at positive
        cases positive

/-- **The text of a legible expression is read back**: never as a fault, and as the expression
itself if and only if no constant with the minus sign is the base of a power in it. -/
theorem parse_text_eq_ok_iff {expr : Expr Float} (legible : expr.Legible) :
    parse expr.text = .ok expr.reread ∧
      (parse expr.text = .ok expr ↔
        ∀ value exponent, binary .pow (const value) exponent ∈ expr.nodes →
          Decimal.isNegative value = false) := by
  have writes : Writes expr.text expr.reread := by
    have whole := legible.writesBack.signed []
    rw [List.append_nil] at whole
    rw [Writes, text, String.toList_ofList]
    exact .ofProduct (.ofSigned whole)
  have parsed := parse_of_writes writes
  refine ⟨parsed, ?_⟩
  rw [parsed, Except.ok.injEq, reread_eq_self_iff]

/-- A power of minus two, and minus two and a half added to it. -/
def negativeBase : Expr Float :=
  binary .add (binary .pow (const (-2.0)) (var "exp")) (const (-2.5))

/-- In `((-2 ^ exp) + -2.5)` the first sign is read after the power, and the second one is part of
its constant. -/
theorem parse_text_eq_ok_iff_negativeBase : negativeBase.Legible ∧
    parse negativeBase.text =
      .ok (binary .add (binary .pow (const 2.0) (var "exp")).negated (const (-2.5))) ∧
    parse negativeBase.text ≠ .ok negativeBase := by
  have legible : negativeBase.Legible := by
    refine ⟨fun name among => ?_, fun value among => ?_, fun value among => ?_⟩ <;>
      simp only [negativeBase, nodes, List.mem_cons, List.mem_append, List.not_mem_nil,
        reduceCtorEq, false_or, or_false, var.injEq, const.injEq] at among
    · rw [among]
      exact isIdentifier_name .exp
    · rcases among with rfl | rfl <;> decide +kernel
    · rcases among with rfl | rfl <;> decide +kernel
  have negative : Decimal.isNegative (-2.0) = true := by decide +kernel
  have magnitude : Number.abs (-2.0 : Float) = 2.0 := by decide +kernel
  obtain ⟨parsed, faithful⟩ := parse_text_eq_ok_iff legible
  refine ⟨legible, ?_, fun same => ?_⟩
  · rw [parsed, negativeBase, reread_binary _ (by decide), reread_power negative, magnitude, reread,
      reread]
  · have positive := faithful.mp same (-2.0) (var "exp") (by simp [negativeBase, nodes])
    rw [negative] at positive
    cases positive

end Expr

end MultipleShooting
