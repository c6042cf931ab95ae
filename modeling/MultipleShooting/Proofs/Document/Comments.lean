/-
**What is left of a document without its comments.**

* `Text.lines_append_break`: the lines of a text that goes on after a line break;
* `Document.withoutComments_eq_of_writes`: of a text that writes statements exactly the lines of
  these statements are left.
-/
import MultipleShooting.Proofs.Document.Writing
import Mathlib

namespace MultipleShooting

/-! ### Lines -/

namespace Text

variable {line rest : List Char}

theorem linesFrom_append (single : '\n' ∉ line) (read : List Char) :
    linesFrom read (line ++ rest) = linesFrom (line.reverse ++ read) rest := by
  induction line generalizing read with
  | nil => rfl
  | cons char line ih =>
    obtain ⟨other, single⟩ := List.ne_and_not_mem_of_not_mem_cons single
    rw [List.cons_append, linesFrom.eq_3 _ _ _ other.symm, ih single, List.reverse_cons,
      List.append_assoc, List.singleton_append]

theorem lines_append_break (single : '\n' ∉ line) :
    lines (line ++ '\n' :: rest) = finishLine line.reverse :: lines rest := by
  rw [lines, linesFrom_append single, List.append_nil, linesFrom, ← lines]

theorem lines_of_single (single : '\n' ∉ line) :
    lines line = if line = [] then [] else [line] := by
  have read : linesFrom [] (line ++ []) = linesFrom (line.reverse ++ []) [] :=
    linesFrom_append single []
  rw [List.append_nil, List.append_nil] at read
  rw [lines, read, linesFrom, List.reverse_reverse]
  exact if_congr List.reverse_eq_nil_iff rfl rfl

theorem finishLine_reverse (kept : '\r' ∉ line) : finishLine line.reverse = line := by
  unfold finishLine
  split
  next others held =>
    exact absurd (List.mem_reverse.mp (held ▸ List.mem_cons_self)) kept
  next => exact List.reverse_reverse line

theorem joinLines_cons (line : List Char) (lines : List (List Char)) :
    joinLines (line :: lines) = line ++ lines.flatMap ('\n' :: ·) := by
  induction lines generalizing line with
  | nil => simp [joinLines]
  | cons next lines ih =>
    rw [joinLines, List.intercalate_cons_cons, ← joinLines, ih, List.flatMap_cons,
      List.append_assoc, List.singleton_append, List.cons_append]

end Text

namespace Document

variable {statement : Statement} {statements : List Statement} {line text : List Char}

/-! ### Comments -/

theorem isComment_append {blanks : List Char} (blank : ∀ char ∈ blanks, Text.isBlank char = true) :
    isComment (line ++ blanks) = isComment line := by
  rw [isComment, isComment, Text.trim_append blank]

theorem IsIdle.isComment (idle : IsIdle line) : isComment line = true := by
  cases idle with
  | blank blank =>
    rw [Document.isComment, Text.trim, Text.trimStart_eq_nil blank]
    rfl
  | @comment blanks mark remark blank among =>
    rw [Document.isComment, Text.trim, Text.trimStart_append blank]
    simp only [commentMarks, List.mem_cons, List.not_mem_nil, or_false] at among
    rcases among with rfl | rfl | rfl | rfl
    · rw [List.cons_append, List.cons_append, Text.trimStart_cons rfl, Text.trimEnd_cons rfl,
        Text.trimEnd_cons rfl]
      rfl
    all_goals
      rw [List.cons_append, Text.trimStart_cons rfl, Text.trimEnd_cons rfl]
      rfl

theorem WritesLine.isComment (written : WritesLine statement line) : isComment line = false := by
  obtain ⟨indented, written, ended⟩ := written
  obtain ⟨first, others, rfl, part⟩ := written.exists_cons
  have visible := isBlank_of_isWordPart part
  have other (char : Char) (mark : isWordPart char = false) : first ≠ char :=
    ne_of_apply_ne isWordPart (by rw [part, mark]; exact Bool.false_ne_true.symm)
  rw [Document.isComment, Text.trim, Text.trimStart_append indented.isBlank, List.cons_append,
    Text.trimStart_cons visible, Text.trimEnd_cons visible]
  split
  next blank => cases blank
  next slashes => exact absurd (List.cons.inj slashes).1 (other '/' rfl)
  next same =>
    obtain ⟨rfl, -⟩ := List.cons.inj same
    simp [other '#' rfl, other '%' rfl, other ';' rfl]

/-! ### The lines that are left -/

theorem WritesLine.ne_nil (written : WritesLine statement line) : line ≠ [] := by
  rintro rfl
  have content := written.isComment
  cases content

theorem WritesLine.notMem (written : WritesLine statement line) {char : Char}
    (blank : Text.isBlank char = true) (noSpace : isLineSpace char = false) : char ∉ line := by
  intro among
  rcases written.inside char among with space | visible
  · rw [space] at noSpace
    cases noSpace
  · rw [visible] at blank
    cases blank

/-- A line with a line break after it is the first line of the text, but for a carriage return at
its end. -/
theorem lines_append_ending {ending : List Char} (single : '\n' ∉ line)
    (among : ending ∈ lineBreaks) : ∃ first,
      Text.lines (line ++ (ending ++ text)) = first :: Text.lines text ∧
        isComment first = isComment line ∧ ('\r' ∉ line → first = line) := by
  have finished (held : List Char) :
      isComment (Text.finishLine held) = isComment held.reverse := by
    unfold Text.finishLine
    split
    next others =>
      rw [List.reverse_cons]
      exact (isComment_append fun char among => List.mem_singleton.mp among ▸ rfl).symm
    next => rfl
  simp only [lineBreaks, List.mem_cons, List.not_mem_nil, or_false] at among
  rcases among with rfl | rfl
  · refine ⟨_, Text.lines_append_break single, ?_, Text.finishLine_reverse⟩
    rw [finished, List.reverse_reverse]
  · have longer : '\n' ∉ line ++ ['\r'] := by simpa using single
    have read : Text.lines (line ++ ['\r'] ++ '\n' :: text) =
        Text.finishLine ('\r' :: line.reverse) :: Text.lines text := by
      rw [Text.lines_append_break longer, List.reverse_append, List.reverse_singleton,
        List.singleton_append]
    rw [List.append_assoc] at read
    refine ⟨_, read, ?_, fun _ => List.reverse_reverse line⟩
    rw [finished, List.reverse_cons, List.reverse_reverse]
    exact isComment_append fun char among => List.mem_singleton.mp among ▸ rfl

/-- **Comments are left out**, and nothing else is. -/
theorem withoutComments_eq_of_writes (written : Writes statements text) : ∃ lines,
    List.Forall₂ WritesLine statements lines ∧ withoutComments text = Text.joinLines lines := by
  refine ⟨(Text.lines text).filter fun line => !isComment line, ?_, rfl⟩
  induction written with
  | nothing => exact .nil
  | lastIdle single idle =>
    rw [Text.lines_of_single single]
    split_ifs
    · exact .nil
    · rw [List.filter_singleton, idle.isComment]
      exact .nil
  | @last _ line written =>
    have single : '\n' ∉ line := written.notMem rfl rfl
    rw [Text.lines_of_single single, if_neg written.ne_nil, List.filter_singleton,
      written.isComment]
    exact .cons written .nil
  | idle single idle among _ ih =>
    obtain ⟨first, read, same, -⟩ := lines_append_ending single among
    rw [read, List.filter_cons, same, idle.isComment]
    exact ih
  | statement written among _ ih =>
    obtain ⟨first, read, same, whole⟩ := lines_append_ending (written.notMem rfl rfl) among
    rw [read, List.filter_cons, same, written.isComment, whole (written.notMem rfl rfl)]
    exact .cons written ih

end Document

end MultipleShooting
