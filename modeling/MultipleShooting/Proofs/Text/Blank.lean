/-
**Trimmed texts.**

A trimmed text is a part of the text (`Text.trim_sublist`) that has no blanks left to take off
(`Text.trim_trim`). Blanks put at an end are taken off again (`Text.trim_append`,
`Text.trimStart_append`), and what stands before a visible character at the end is kept
(`Text.trimEnd_append`).
-/
import MultipleShooting.Text.Blank
import Mathlib

namespace MultipleShooting

namespace Text

variable {text left right : List Char}

theorem isPrefix_trimEnd (text : List Char) : trimEnd text <+: text :=
  List.rdropWhile_prefix isBlank text

theorem trim_sublist (text : List Char) : (trim text).Sublist text :=
  (isPrefix_trimEnd _).sublist.trans (List.dropWhile_sublist isBlank)

/-! ### Blanks at an end -/

theorem trimStart_append (blank : ∀ char ∈ left, isBlank char = true) :
    trimStart (left ++ right) = trimStart right := List.dropWhile_append_of_pos blank

theorem trimStart_cons {char : Char} (visible : isBlank char = false) :
    trimStart (char :: text) = char :: text := List.dropWhile_cons_of_neg (by simp [visible])

theorem trimStart_eq_nil (blank : ∀ char ∈ text, isBlank char = true) : trimStart text = [] :=
  List.dropWhile_eq_nil_iff.mpr blank

theorem trimEnd_append_blank (blank : ∀ char ∈ right, isBlank char = true) :
    trimEnd (left ++ right) = trimEnd left := by
  rw [trimEnd, List.reverse_append, List.dropWhile_append_of_pos, ← trimEnd]
  exact fun char among => blank char (List.mem_reverse.mp among)

/-- Only the last visible character decides what is taken off at the end. -/
theorem trimEnd_append (visible : trimEnd right ≠ []) :
    trimEnd (left ++ right) = left ++ trimEnd right := by
  have kept : right.reverse.dropWhile isBlank ≠ [] := fun blank => visible (by
    rw [trimEnd, blank, List.reverse_nil])
  rw [trimEnd, List.reverse_append, List.dropWhile_append, if_neg (mt List.isEmpty_iff.mp kept),
    List.reverse_append, List.reverse_reverse, ← trimEnd]

theorem trimEnd_of_visible (visible : ∀ char ∈ text, isBlank char = false) :
    trimEnd text = text := by
  have kept : text.reverse.dropWhile isBlank = text.reverse :=
    List.dropWhile_eq_self_iff.mpr fun long => by
      rw [visible _ (List.mem_reverse.mp (List.getElem_mem long))]
      exact Bool.false_ne_true
  rw [trimEnd, kept, List.reverse_reverse]

theorem trimEnd_append_left (trimmed : trimEnd left = left) :
    trimEnd (left ++ right) = left ++ trimEnd right := by
  by_cases blank : trimEnd right = []
  · have every : ∀ char ∈ right, isBlank char = true := List.rdropWhile_eq_nil_iff.mp blank
    rw [trimEnd_append_blank every, trimmed, blank, List.append_nil]
  · exact trimEnd_append blank

theorem trimEnd_cons {char : Char} (visible : isBlank char = false) :
    trimEnd (char :: text) = char :: trimEnd text := by
  have trimmed : trimEnd [char] = [char] :=
    trimEnd_of_visible fun _ among => List.mem_singleton.mp among ▸ visible
  exact trimEnd_append_left trimmed

theorem trim_append (blank : ∀ char ∈ right, isBlank char = true) :
    trim (left ++ right) = trim left := by
  by_cases blankLeft : trimStart left = []
  · rw [trim, trim, blankLeft, trimStart_append (List.dropWhile_eq_nil_iff.mp blankLeft),
      trimStart_eq_nil blank]
  · have kept : trimStart (left ++ right) = trimStart left ++ right := by
      unfold trimStart at blankLeft ⊢
      rw [List.dropWhile_append, if_neg (mt List.isEmpty_iff.mp blankLeft)]
    rw [trim, kept, trimEnd_append_blank blank, ← trim]

/-! ### Texts that are trimmed -/

/-- Taking off blanks at the end leaves no blanks at the beginning. -/
theorem trimStart_trim (text : List Char) : trimStart (trim text) = trim text := by
  have trimmed : trimStart (trimStart text) = trimStart text := List.dropWhile_idempotent _ _
  have ended := isPrefix_trimEnd (trimStart text)
  refine List.dropWhile_eq_self_iff.mpr fun long => ?_
  have inside : 0 < (trimStart text).length := long.trans_le ended.length_le
  have same : (trim text)[0] = (trimStart text)[0] := ended.getElem long
  rw [same]
  exact List.dropWhile_eq_self_iff.mp trimmed inside

theorem trim_trim (text : List Char) : trim (trim text) = trim text := by
  have ended : trimEnd (trim text) = trim text :=
    List.rdropWhile_idempotent isBlank (trimStart text)
  rw [trim, trimStart_trim, ended]

end Text

end MultipleShooting
