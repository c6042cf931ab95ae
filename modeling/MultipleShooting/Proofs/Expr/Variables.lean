/-
**Variables of expressions.**

In any arithmetic:

* `Expr.mem_variableNames`: the list of variables has exactly those that occur;
* `Expr.KnownIn.derivative`, `Expr.KnownIn.simplify`: neither differentiation nor simplification
  leaves the given names;
* `Expr.KnownIn.compile`: **an expression in the arguments compiles**;
* `Expr.compileAll_eq_ok`: what it takes for several expressions to compile.
-/
import MultipleShooting.Expr.Derivative
import MultipleShooting.Proofs.Expr.Simplify
import MultipleShooting.Proofs.Outcome

namespace MultipleShooting

/-! ### Ordered names -/

theorem mem_insertName {name other : String} {names : List String} :
    other ∈ insertName name names ↔ other = name ∨ other ∈ names := by
  induction names with
  | nil => exact List.mem_cons
  | cons first others ih =>
    unfold insertName
    split_ifs with same before
    · rw [same, List.mem_cons, ← or_assoc, or_self]
    · exact List.mem_cons
    · rw [List.mem_cons, ih, List.mem_cons, or_left_comm]

namespace Expr

variable {α : Type} {expr : Expr α} {name : String} {names : List String}

theorem mem_occurrences : name ∈ expr.occurrences ↔ expr.mentions name = true := by
  induction expr with
  | var other => rw [occurrences, List.mem_singleton, mentions, beq_iff_eq, eq_comm]
  | const _ => simp [occurrences, mentions]
  | binary op left right ihLeft ihRight => simp [occurrences, mentions, ihLeft, ihRight]
  | apply function argument ih => exact ih

/-- **The list of variables** has exactly those that occur. -/
theorem mem_variableNames : name ∈ expr.variableNames ↔ expr.mentions name = true := by
  have inserted (occurrences : List String) :
      name ∈ occurrences.foldr insertName [] ↔ name ∈ occurrences := by
    induction occurrences with
    | nil => exact Iff.rfl
    | cons first others ih => rw [List.foldr_cons, mem_insertName, ih, List.mem_cons]
  exact (inserted _).trans mem_occurrences

/-! ### Known variables -/

/-- Every variable that occurs has one of the given names. -/
def KnownIn (names : List String) (expr : Expr α) : Prop :=
  ∀ name, expr.mentions name = true → name ∈ names

theorem knownIn_binary {op : BinaryOp} {left right : Expr α} :
    (binary op left right).KnownIn names ↔ left.KnownIn names ∧ right.KnownIn names := by
  simp only [KnownIn, mentions, Bool.or_eq_true, or_imp, forall_and]

theorem knownIn_var (among : name ∈ names) : (var name : Expr α).KnownIn names := by
  intro other occurs
  rwa [← eq_of_beq occurs]

theorem knownIn_const (value : α) : (const value).KnownIn names := fun _ occurs => by cases occurs

section Derived

variable [Number α]

/-- The chain rule brings in no variable. -/
theorem mentions_chainRule {function : Elementary} {argument inner : Expr α}
    (occurs : (chainRule function argument inner).mentions name = true) :
    argument.mentions name = true ∨ inner.mentions name = true := by
  cases function <;> simp [chainRule, negated, mentions] at occurs <;> tauto

/-- **Differentiation brings in no variable.** -/
theorem mentions_of_mentions_derivative {other : String}
    (occurs : (expr.derivative other).mentions name = true) : expr.mentions name = true := by
  induction expr with
  | var _ =>
    unfold derivative at occurs
    split_ifs at occurs <;> cases occurs
  | const _ => cases occurs
  | binary op left right ihLeft ihRight =>
    rw [mentions, Bool.or_eq_true]
    cases op <;> simp only [derivative] at occurs
    case pow =>
      split_ifs at occurs <;> simp [mentions] at occurs <;> tauto
    all_goals
      simp [mentions] at occurs
      tauto
  | apply function argument ih => exact (mentions_chainRule occurs).elim id ih

theorem KnownIn.derivative {other : String} (known : expr.KnownIn names) :
    (expr.derivative other).KnownIn names :=
  fun name occurs => known name (mentions_of_mentions_derivative occurs)

theorem KnownIn.simplify (known : expr.KnownIn names) : expr.simplify.KnownIn names :=
  fun name occurs => known name (mentions_of_mentions_simplify occurs)

/-! ### Compilation -/

variable {n : Nat} {arguments : Vector String n}

/-- **An expression in the arguments compiles.** -/
theorem KnownIn.compile (known : expr.KnownIn arguments.toList) :
    ∃ compiled, expr.compile arguments = .ok compiled := by
  induction expr with
  | var name =>
    have among : name ∈ arguments := Vector.mem_toList_iff.mp (known name (beq_self_eq_true name))
    obtain ⟨position, found⟩ : ∃ position, arguments.finIdxOf? name = some position := by
      rw [← Option.isSome_iff_exists, Vector.isSome_finIdxOf?, Vector.contains_iff_mem]
      exact among
    unfold Expr.compile
    rw [found]
    exact ⟨_, rfl⟩
  | const value => exact ⟨_, rfl⟩
  | binary op left right ihLeft ihRight =>
    obtain ⟨first, compiledLeft⟩ := ihLeft (knownIn_binary.mp known).1
    obtain ⟨second, compiledRight⟩ := ihRight (knownIn_binary.mp known).2
    unfold Expr.compile
    rw [compiledLeft, compiledRight]
    dsimp only
    split
    · exact ⟨_, rfl⟩
    · exact ⟨_, rfl⟩
  | apply function argument ih =>
    obtain ⟨inner, compiledArgument⟩ := ih known
    unfold Expr.compile
    rw [compiledArgument]
    exact ⟨_, rfl⟩

/-- What it takes for several expressions to compile. -/
theorem compileAll_eq_ok {exprs : List (Expr α)} {functions : List (Compiled α n)} :
    compileAll arguments exprs = .ok functions ↔
      List.Forall₂ (fun expr function => expr.compile arguments = .ok function) exprs
        functions := by
  induction exprs generalizing functions with
  | nil => simp [compileAll, eq_comm]
  | cons expr exprs ih =>
    unfold compileAll
    cases compiled : expr.compile arguments with
    | error unknown => simp [List.forall₂_cons_left_iff, compiled]
    | ok function =>
      rw [map_eq_ok, List.forall₂_cons_left_iff]
      constructor
      · rintro ⟨others, compiledOthers, rfl⟩
        exact ⟨function, others, compiled, ih.mp compiledOthers, rfl⟩
      · rintro ⟨_, others, compiledHere, compiledOthers, rfl⟩
        cases compiled.symm.trans compiledHere
        exact ⟨others, ih.mpr compiledOthers, rfl⟩

/-- Expressions in the arguments compile. -/
theorem compileAll_of_knownIn {exprs : List (Expr α)}
    (known : ∀ expr ∈ exprs, expr.KnownIn arguments.toList) :
    ∃ functions, compileAll arguments exprs = .ok functions := by
  induction exprs with
  | nil => exact ⟨[], rfl⟩
  | cons expr exprs ih =>
    obtain ⟨here, others⟩ := List.forall_mem_cons.mp known
    obtain ⟨function, compiled⟩ := here.compile
    obtain ⟨functions, compiledOthers⟩ := ih others
    exact ⟨function :: functions,
      compileAll_eq_ok.mpr (.cons compiled (compileAll_eq_ok.mp compiledOthers))⟩

end Derived

end Expr

end MultipleShooting
