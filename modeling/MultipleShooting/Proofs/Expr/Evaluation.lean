/-
**Compiled expressions are the expressions.**

* `Expr.compile_cases`: in any arithmetic, compilation is decided by the first variable, read from
  left to right, that is no argument (`Expr.unknown?`). It fails with this variable if there is one
  and succeeds otherwise;
* `Expr.compile_eq_value`: over the real numbers the compiled function gives every argument list the
  value of the expression, each name standing for the first argument so called (`Expr.Assigns`);
* `Expr.compile_wholePower`: a power with a constant whole exponent of moderate size is compiled to
  repeated squaring, without its exponent, and is the general power all the same.

`Expr.compile_evaluates` puts them together.
-/
import MultipleShooting.Proofs.Expr.Compile
import MultipleShooting.Proofs.Expr.Variables

namespace MultipleShooting

namespace Number

/-- **The exponents of repeated squaring** are the whole numbers of magnitude at most
`2147483647`. -/
theorem toExponent?_eq_some_iff {value : ℝ} {exponent : ℤ} :
    toExponent? value = some exponent ↔ value = exponent ∧ |exponent| ≤ 2147483647 := by
  change realToExponent? value = some exponent ↔ _
  unfold realToExponent?
  constructor
  · intro found
    split_ifs at found with whole
    cases found
    refine ⟨whole.1.symm, ?_⟩
    have bound : |(⌊value⌋ : ℝ)| ≤ 2147483647 := whole.1.symm ▸ whole.2
    exact_mod_cast bound
  · rintro ⟨rfl, bound⟩
    have moderate : |(exponent : ℝ)| ≤ 2147483647 := by exact_mod_cast bound
    rw [Int.floor_intCast, if_pos ⟨rfl, moderate⟩]

end Number

namespace Expr

/-! ### Unknown variables -/

section Unknown

variable {α : Type} {n : Nat}

/-- The first variable of an expression, read from left to right, that is no argument. -/
def unknown? (arguments : Vector String n) (expr : Expr α) : Option String :=
  expr.occurrences.find? fun name => !arguments.contains name

/-- A variable that is no argument, everything to the left of it being made of arguments. -/
def IsLeftmostUnknown (arguments : Vector String n) (expr : Expr α) (name : String) : Prop :=
  ∃ before after, expr.occurrences = before ++ name :: after ∧
    (∀ other ∈ before, other ∈ arguments) ∧ name ∉ arguments

theorem unknown?_binary (arguments : Vector String n) (op : BinaryOp) (left right : Expr α) :
    (binary op left right).unknown? arguments =
      (left.unknown? arguments).or (right.unknown? arguments) := List.find?_append

theorem isLeftmostUnknown_of_unknown? {arguments : Vector String n} {expr : Expr α} {name : String}
    (found : expr.unknown? arguments = some name) : expr.IsLeftmostUnknown arguments name := by
  obtain ⟨unknown, before, after, split, known⟩ := List.find?_eq_some_iff_append.mp found
  refine ⟨before, after, split, fun other among => ?_, fun among => ?_⟩
  · have contained := known other among
    rw [Bool.not_not] at contained
    exact Vector.contains_iff_mem.mp contained
  · rw [Vector.contains_iff_mem.mpr among] at unknown
    cases unknown

/-- There is no unknown variable exactly when all variables are arguments. -/
theorem unknown?_eq_none_iff {arguments : Vector String n} {expr : Expr α} :
    expr.unknown? arguments = none ↔ ∀ name, expr.mentions name = true → name ∈ arguments := by
  rw [unknown?, List.find?_eq_none]
  refine forall_congr' fun name => ?_
  rw [mem_occurrences, Bool.not_eq_true', Bool.not_eq_false, Vector.contains_iff_mem]

variable [Number α]

/-- Only a constant is the exponent of a power that is computed by repeated squaring. -/
theorem unknown?_of_integerExponent? (arguments : Vector String n) {expr : Expr α} {exponent : ℤ}
    (whole : expr.integerExponent? = some exponent) : expr.unknown? arguments = none := by
  cases expr with
  | const value => rfl
  | _ => cases whole

/-- **What compilation comes to**: the first unknown variable decides it. -/
theorem compile_cases (arguments : Vector String n) (expr : Expr α) :
    (∃ compiled, expr.compile arguments = .ok compiled ∧ expr.unknown? arguments = none) ∨
      ∃ name, expr.compile arguments = .error ⟨name, arguments.toList⟩ ∧
        expr.unknown? arguments = some name := by
  induction expr with
  | var name =>
    unfold compile
    cases found : arguments.finIdxOf? name with
    | some position =>
      have among : name ∈ arguments := by
        by_contra absent
        rw [Vector.finIdxOf?_eq_none_iff.mpr absent] at found
        cases found
      exact .inl ⟨_, rfl, unknown?_eq_none_iff.mpr fun other occurs =>
        eq_of_beq occurs ▸ among⟩
    | none =>
      have absent : arguments.contains name = false := by
        rw [← Bool.not_eq_true, Vector.contains_iff_mem]
        exact Vector.finIdxOf?_eq_none_iff.mp found
      refine .inr ⟨name, rfl, ?_⟩
      show [name].find? (fun name => !arguments.contains name) = some name
      rw [List.find?_cons_of_pos (by rw [absent]; rfl)]
  | const value => exact .inl ⟨_, rfl, rfl⟩
  | binary op left right ihLeft ihRight =>
    rw [unknown?_binary]
    unfold compile
    obtain ⟨first, compiledLeft, knownLeft⟩ | ⟨name, failed, unknown⟩ := ihLeft
    · rw [compiledLeft, knownLeft, Option.none_or]
      dsimp only
      obtain ⟨second, compiledRight, knownRight⟩ | ⟨name, failed, unknown⟩ := ihRight
      · rw [compiledRight]
        refine .inl ?_
        split
        · exact ⟨_, rfl, knownRight⟩
        · exact ⟨_, rfl, knownRight⟩
      · rw [failed]
        refine .inr ⟨name, ?_, unknown⟩
        split
        · next exponent whole =>
          -- The exponent is not compiled, but a constant has no unknown variable either.
          rw [unknown?_of_integerExponent? arguments whole] at unknown
          cases unknown
        · rfl
    · rw [failed, unknown, Option.some_or]
      exact .inr ⟨name, rfl, rfl⟩
  | apply function argument ih =>
    unfold compile
    obtain ⟨inner, compiled, known⟩ | ⟨name, failed, unknown⟩ := ih
    · rw [compiled]
      exact .inl ⟨_, rfl, known⟩
    · rw [failed]
      exact .inr ⟨name, rfl, unknown⟩

/-- **An expression compiles** exactly when all its variables are arguments. -/
theorem compile_isOk_iff {arguments : Vector String n} {expr : Expr α} :
    (∃ compiled, expr.compile arguments = .ok compiled) ↔
      ∀ name, expr.mentions name = true → name ∈ arguments := by
  rw [← unknown?_eq_none_iff]
  obtain ⟨compiled, succeeded, known⟩ | ⟨name, failed, unknown⟩ := expr.compile_cases arguments
  · exact iff_of_true ⟨compiled, succeeded⟩ known
  · rw [failed, unknown]
    exact iff_of_false (fun ⟨_, succeeded⟩ => by cases succeeded) fun known => by cases known

/-- **A compilation that fails** names the leftmost unknown variable. -/
theorem compile_eq_error {arguments : Vector String n} {expr : Expr α} {unknown : UnknownVariable}
    (failed : expr.compile arguments = .error unknown) :
    expr.IsLeftmostUnknown arguments unknown.name ∧ unknown.arguments = arguments.toList := by
  obtain ⟨compiled, succeeded, -⟩ | ⟨name, failedHere, found⟩ := expr.compile_cases arguments
  · rw [succeeded] at failed
    cases failed
  · cases failedHere.symm.trans failed
    exact ⟨isLeftmostUnknown_of_unknown? found, rfl⟩

end Unknown

/-! ### Values -/

/-- The value depends on the variables that occur alone. -/
theorem value_congr {α : Type} [Number α] {expr : Expr α} {values others : String → α}
    (agree : ∀ name, expr.mentions name = true → values name = others name) :
    expr.value values = expr.value others := by
  induction expr with
  | var name => exact agree name (beq_self_eq_true name)
  | const _ => rfl
  | binary op left right ihLeft ihRight =>
    rw [value, value, ihLeft fun name occurs => agree name (by rw [mentions, occurs, Bool.true_or]),
      ihRight fun name occurs => agree name (by rw [mentions, occurs, Bool.or_true])]
  | apply function argument ih => rw [value, value, ih agree]

/-- Every name among the arguments stands for the first argument so called. -/
def Assigns {α : Type} {n : Nat} (arguments : Vector String n) (values : Vector α n)
    (assignment : String → α) : Prop :=
  ∀ position, (∀ earlier < position, arguments.get earlier ≠ arguments.get position) →
    assignment (arguments.get position) = values.get position

/-- **The compiled function computes the value** of the expression over the real numbers. -/
theorem compile_eq_value {n : Nat} {arguments : Vector String n} {expr : Expr ℝ}
    {compiled : Compiled ℝ n} (succeeded : expr.compile arguments = .ok compiled)
    {values : Vector ℝ n} {assignment : String → ℝ}
    (assigns : Assigns arguments values assignment) :
    compiled values = expr.value assignment := by
  rw [compile_value succeeded values]
  refine value_congr fun name occurs => ?_
  have among := compile_isOk_iff.mp ⟨compiled, succeeded⟩ name occurs
  unfold argumentOf
  cases found : arguments.finIdxOf? name with
  | none => exact absurd among (Vector.finIdxOf?_eq_none_iff.mp found)
  | some position =>
    obtain ⟨rfl, first⟩ := Vector.finIdxOf?_eq_some_iff.mp found
    exact (assigns position first).symm

/-- **A power with a constant whole exponent** is computed by repeated squaring. -/
theorem compile_wholePower {n : Nat} {arguments : Vector String n} {base : Expr ℝ}
    {inner : Compiled ℝ n} (compiled : base.compile arguments = .ok inner) {exponent : ℤ}
    (moderate : |exponent| ≤ 2147483647) :
    (binary .pow base (const exponent)).compile arguments =
      .ok fun values => Number.integerPow (inner values) exponent := by
  have whole : (const (exponent : ℝ)).integerExponent? = some exponent :=
    Number.toExponent?_eq_some_iff.mpr ⟨rfl, moderate⟩
  unfold compile
  rw [compiled, whole]

/-! ### Evaluation -/

/-- **The compiled function is the expression.** In any arithmetic an expression compiles exactly
when all its variables are arguments, and otherwise the failure names the leftmost of those that
are not. Over the real numbers the function gives the value of the expression under every assignment
of the arguments to their names. A power with a constant whole exponent of magnitude at most
`2147483647` is computed by repeated squaring, with a reciprocal at the end for a negative exponent,
and this is the general power. -/
theorem compile_evaluates :
    (∀ {α : Type} [Number α] {n : Nat} (arguments : Vector String n) (expr : Expr α),
      ((∃ compiled, expr.compile arguments = .ok compiled) ↔
        ∀ name, expr.mentions name = true → name ∈ arguments) ∧
      ∀ unknown, expr.compile arguments = .error unknown →
        expr.IsLeftmostUnknown arguments unknown.name ∧
        unknown.message = "variable '" ++ unknown.name ++
          "' is not among the function arguments [" ++
            String.intercalate ", " arguments.toList ++ "]") ∧
    ∀ {n : Nat} (arguments : Vector String n) (expr : Expr ℝ) (compiled : Compiled ℝ n),
      expr.compile arguments = .ok compiled →
      (∀ values assignment, Assigns arguments values assignment →
        compiled values = expr.value assignment) ∧
      ∀ exponent : ℤ, |exponent| ≤ 2147483647 →
        ∃ power, (binary .pow expr (const exponent)).compile arguments = .ok power ∧
          ∀ values, power values = Number.integerPow (compiled values) exponent ∧
            power values = compiled values ^ (exponent : ℝ) := by
  refine ⟨fun arguments expr => ⟨compile_isOk_iff, fun unknown failed => ?_⟩, ?_⟩
  · obtain ⟨leftmost, same⟩ := compile_eq_error failed
    refine ⟨leftmost, ?_⟩
    rw [UnknownVariable.message, same]
  · intro n arguments expr compiled succeeded
    refine ⟨fun values assignment assigns => compile_eq_value succeeded assigns, ?_⟩
    intro exponent moderate
    exact ⟨_, compile_wholePower succeeded moderate, fun values =>
      ⟨rfl, Number.integerPow_real _ _⟩⟩

/-- Of two arguments of one name the first counts, the reciprocal of a cube is the power with
exponent `-3`, and of two unknown variables the left one is named. -/
theorem compile_evaluates_reciprocalCube :
    (∃ compiled power, (var "x" : Expr ℝ).compile #v["y", "x", "x"] = .ok compiled ∧
      Assigns #v["y", "x", "x"] #v[5, 2, 7] (fun name => if name = "x" then (2 : ℝ) else 5) ∧
      |(-3 : ℤ)| ≤ 2147483647 ∧
      (binary .pow (var "x") (const ((-3 : ℤ) : ℝ))).compile #v["y", "x", "x"] = .ok power ∧
      power #v[5, 2, 7] = 1 / 8) ∧
    (binary .add (var "b") (var "a") : Expr ℝ).compile #v["y", "x", "x"] =
        .error ⟨"b", ["y", "x", "x"]⟩ ∧
      (binary .add (var "b") (var "a") : Expr ℝ).IsLeftmostUnknown #v["y", "x", "x"] "b" := by
  obtain ⟨decides, computes⟩ := compile_evaluates
  have known : ∀ name, (var "x" : Expr ℝ).mentions name = true → name ∈ #v["y", "x", "x"] := by
    intro name occurs
    rw [← eq_of_beq occurs]
    simp
  have assigns : Assigns #v["y", "x", "x"] #v[5, 2, 7]
      (fun name => if name = "x" then (2 : ℝ) else 5) := by
    intro position first
    match position with
    | 0 => rfl
    | 1 => rfl
    | 2 => exact absurd rfl (first 1 (by decide))
  have moderate : |(-3 : ℤ)| ≤ 2147483647 := by decide
  have failed : (binary .add (var "b") (var "a") : Expr ℝ).compile #v["y", "x", "x"] =
      .error ⟨"b", ["y", "x", "x"]⟩ := by
    have absent : #v["y", "x", "x"].finIdxOf? "b" = none :=
      Vector.finIdxOf?_eq_none_iff.mpr (by simp)
    simp only [compile, absent]
    rfl
  obtain ⟨compiled, succeeded⟩ := (decides #v["y", "x", "x"] (var "x" : Expr ℝ)).1.mpr known
  obtain ⟨values, powers⟩ := computes _ _ compiled succeeded
  obtain ⟨power, compiledPower, isPower⟩ := powers (-3) moderate
  refine ⟨⟨compiled, power, succeeded, assigns, moderate, compiledPower, ?_⟩, failed,
    ((decides _ _).2 _ failed).1⟩
  have value : compiled #v[5, 2, 7] = 2 := values _ _ assigns
  rw [(isPower _).2, value, Real.rpow_intCast]
  norm_num

end Expr

end MultipleShooting
