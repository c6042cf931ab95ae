/-
**Statements that remain.**

Every rule passes over the blanks and line breaks before the next statement. What the rules see is
therefore described by the statements that remain:

* `Document.Begins`: a text that begins with the first of some statements; it stays one when blanks
  are taken off its end (`Begins.trimEnd`);
* `Document.Follows`: what comes after a statement; without the blanks before them the further
  statements begin (`Follows.trimStart`);
* `Document.begins_joinLines`: the lines of statements begin with the first of them.
-/
import MultipleShooting.Proofs.Document.Comments
import Mathlib

namespace MultipleShooting

namespace Document

variable {statement : Statement} {statements : List Statement} {tokens : List Token}
  {text rest : List Char}

/-! ### Statements that remain -/

/-- What comes after a statement: padding, and the lines of further statements. -/
inductive Follows : List Statement → List Char → Prop
  | last {trailing : List Char} (ended : Padding trailing) : Follows [] trailing
  | next {statement : Statement} {statements : List Statement}
      {trailing indentation text rest : List Char} (ended : Padding trailing)
      (indented : Padding indentation) (written : WritesStatement statement text)
      (others : Follows statements rest) :
      Follows (statement :: statements) (trailing ++ '\n' :: (indentation ++ (text ++ rest)))

/-- A text that begins with the first of some statements. -/
inductive Begins : List Statement → List Char → Prop
  | nil : Begins [] []
  | cons {statement : Statement} {statements : List Statement} {text rest : List Char}
      (written : WritesStatement statement text) (others : Follows statements rest) :
      Begins (statement :: statements) (text ++ rest)

theorem skipInLine_append {padding : List Char} (padded : Padding padding) :
    skipInLine (padding ++ text) = skipInLine text := List.dropWhile_append_of_pos padded

theorem skipInLine_cons {char : Char} (visible : isLineSpace char = false) :
    skipInLine (char :: text) = char :: text := List.dropWhile_cons_of_neg (by simp [visible])

theorem skipInLine_skipInLine (text : List Char) : skipInLine (skipInLine text) = skipInLine text :=
  List.dropWhile_idempotent _ _

theorem trimStart_skipInLine (text : List Char) :
    Text.trimStart (skipInLine text) = Text.trimStart text := by
  have padded : Padding (text.takeWhile isLineSpace) := fun _ => List.mem_takeWhile_imp
  conv_rhs => rw [← List.takeWhile_append_dropWhile (p := isLineSpace) (l := text),
    Text.trimStart_append padded.isBlank]
  rfl

theorem Padding.stops {padding : List Char} (padded : Padding padding) {isMember : Char → Bool}
    (spaces : ∀ char, isLineSpace char = true → isMember char = false)
    (stop : Stops isMember rest) : Stops isMember (padding ++ rest) := by
  cases padding with
  | nil => exact stop
  | cons char others => exact stops_cons.mpr (spaces char (padded char List.mem_cons_self))

/-- Nothing after a statement continues the line but padding. -/
theorem Follows.skipInLine (follows : Follows statements rest) :
    skipInLine rest = [] ∨ ∃ others, skipInLine rest = '\n' :: others := by
  cases follows with
  | last ended => exact .inl (List.dropWhile_eq_nil_iff.mpr ended)
  | next ended => exact .inr ⟨_, (skipInLine_append ended).trans (skipInLine_cons rfl)⟩

theorem Follows.stops (follows : Follows statements rest) {isMember : Char → Bool}
    (spaces : ∀ char, isLineSpace char = true → isMember char = false)
    (ended : isMember '\n' = false) : Stops isMember rest := by
  cases follows with
  | last padded => simpa using padded.stops spaces stops_nil
  | next padded => exact padded.stops spaces (stops_cons.mpr ended)

theorem Begins.eq_nil (begins : Begins [] text) : text = [] := by
  cases begins
  rfl

theorem Begins.dropWhile (begins : Begins statements text) {isMember : Char → Bool}
    (blank : ∀ char, isMember char = true → Text.isBlank char = true) :
    text.dropWhile isMember = text := by
  cases begins with
  | nil => rfl
  | cons written =>
    obtain ⟨first, others, rfl, part⟩ := written.exists_cons
    refine List.dropWhile_cons_of_neg fun member => ?_
    have visible := isBlank_of_isWordPart part
    rw [blank first member] at visible
    cases visible

/-- Without its blanks, what comes after a statement begins with the next one. -/
theorem Follows.trimStart (follows : Follows statements rest) :
    Begins statements (Text.trimStart rest) := by
  cases follows with
  | last ended =>
    rw [Text.trimStart_eq_nil ended.isBlank]
    exact .nil
  | @next _ _ _ indentation text rest ended indented written others =>
    have begins := Begins.cons written others
    have line : Text.trimStart ('\n' :: (indentation ++ (text ++ rest))) = text ++ rest := by
      rw [← List.singleton_append, Text.trimStart_append fun _ among =>
        List.mem_singleton.mp among ▸ rfl, Text.trimStart_append indented.isBlank]
      exact begins.dropWhile fun _ => id
    rw [Text.trimStart_append ended.isBlank, line]
    exact begins

/-- Blanks at the end belong to the last line: taking them off leaves the statements. -/
theorem Follows.trimEnd (follows : Follows statements rest)
    (written : WritesStatement statement text) : ∃ trimmed,
      Follows statements trimmed ∧ Text.trimEnd (text ++ rest) = text ++ trimmed := by
  induction follows generalizing statement text with
  | last ended =>
    refine ⟨[], .last (fun _ among => by cases among), ?_⟩
    rw [Text.trimEnd_append_blank ended.isBlank, written.trimEnd, List.append_nil]
  | @next _ _ trailing indentation after rest ended indented next _ ih =>
    obtain ⟨trimmed, others, same⟩ := ih next
    refine ⟨_, .next ended indented next others, ?_⟩
    have visible : Text.trimEnd (after ++ rest) ≠ [] := by
      obtain ⟨first, others, begins, -⟩ := next.exists_cons
      rw [same, begins, List.cons_append]
      exact List.cons_ne_nil _ _
    have apart : text ++ (trailing ++ '\n' :: (indentation ++ (after ++ rest))) =
        (text ++ (trailing ++ '\n' :: indentation)) ++ (after ++ rest) := by
      simp only [List.append_assoc, List.cons_append]
    rw [apart, Text.trimEnd_append visible, same]
    simp only [List.append_assoc, List.cons_append]

theorem Begins.trimEnd (begins : Begins statements text) :
    Begins statements (Text.trimEnd text) := by
  cases begins with
  | nil => exact .nil
  | cons written others =>
    obtain ⟨trimmed, follows, same⟩ := others.trimEnd written
    rw [same]
    exact .cons written follows

theorem Follows.length_le (follows : Follows statements rest) :
    statements.length ≤ rest.length := by
  induction follows with
  | last => exact Nat.zero_le _
  | next _ _ _ _ ih =>
    simp only [List.length_append, List.length_cons]
    omega

theorem Begins.length_le (begins : Begins statements text) : statements.length ≤ text.length := by
  cases begins with
  | nil => exact Nat.zero_le _
  | cons written others =>
    obtain ⟨first, others', rfl, -⟩ := written.exists_cons
    have := others.length_le
    simp only [List.length_append, List.length_cons]
    omega

theorem follows_flatMap {lines : List (List Char)}
    (written : List.Forall₂ WritesLine statements lines) {trailing : List Char}
    (ended : Padding trailing) : Follows statements (trailing ++ lines.flatMap ('\n' :: ·)) := by
  induction written generalizing trailing with
  | nil => simpa using .last ended
  | cons line _ ih =>
    obtain ⟨indented, line, last⟩ := line
    simpa using Follows.next ended indented line (ih last)

/-- **The lines of statements begin with the first of them**, after its indentation. -/
theorem begins_joinLines {lines : List (List Char)}
    (written : List.Forall₂ WritesLine statements lines) :
    Begins statements (skipInLine (Text.joinLines lines)) := by
  cases written with
  | nil => exact .nil
  | cons line others =>
    obtain ⟨indented, line, last⟩ := line
    have begins := Begins.cons line (follows_flatMap others last)
    rw [Text.joinLines_cons, List.append_assoc, List.append_assoc, skipInLine_append indented,
      skipInLine, begins.dropWhile fun _ => isBlank_of_isLineSpace]
    exact begins

end Document

end MultipleShooting
