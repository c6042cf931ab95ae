/-
**Rules read beginnings of texts.**

* `Stops`: no character of a class continues a text, so that a run of the class ends there
  (`takeWhile_append_stop`, `dropWhile_append_stop`);
* `Rule.Blanks`, `Rule.skip_append`: leading blanks, which `Rule.skip` passes over;
* `Rule.spaced_eq_accept`, `Rule.orElse_eq_accept`, `Rule.andThen_eq_accept`: when a combination of
  rules accepts;
* `Rule.IgnoresBlanks`: a rule that answers the same with and without leading blanks.
-/
import MultipleShooting.Text.Rule
import Mathlib

namespace MultipleShooting

/-! ### Runs of a class of characters -/

/-- No character of a class continues a text. -/
def Stops (isMember : Char → Bool) (text : List Char) : Prop :=
  ∀ char ∈ text.head?, isMember char = false

section Runs

variable {isMember : Char → Bool} {run rest : List Char}

theorem stops_nil : Stops isMember [] := fun _ among => by cases among

theorem stops_cons {char : Char} : Stops isMember (char :: rest) ↔ isMember char = false := by
  simp [Stops]

theorem takeWhile_append_stop (members : ∀ char ∈ run, isMember char = true)
    (stop : Stops isMember rest) : (run ++ rest).takeWhile isMember = run := by
  rw [List.takeWhile_append_of_pos members]
  cases rest with
  | nil => exact List.append_nil _
  | cons char others => rw [List.takeWhile_cons, stops_cons.mp stop]; exact List.append_nil _

theorem dropWhile_append_stop (members : ∀ char ∈ run, isMember char = true)
    (stop : Stops isMember rest) : (run ++ rest).dropWhile isMember = rest := by
  rw [List.dropWhile_append_of_pos members]
  cases rest with
  | nil => rfl
  | cons char others => rw [List.dropWhile_cons, stops_cons.mp stop]; rfl

end Runs

namespace Rule

variable {β γ : Type} {rule first second : Rule β} {next : β → Rule γ} {text rest : List Char}

/-! ### Blanks -/

/-- A text of blanks. -/
def Blanks (text : List Char) : Prop := ∀ char ∈ text, isSpace char = true

theorem blanks_nil : Blanks [] := fun _ among => by cases among

theorem blanks_space : Blanks [' '] := fun _ among => List.mem_singleton.mp among ▸ rfl

/-- The blanks at the beginning of a text. -/
theorem exists_blanks (text : List Char) : ∃ blanks, Blanks blanks ∧ text = blanks ++ skip text :=
  ⟨text.takeWhile isSpace, fun _ among => List.mem_takeWhile_imp among,
    List.takeWhile_append_dropWhile.symm⟩

theorem skip_append {blanks : List Char} (blank : Blanks blanks) (text : List Char) :
    skip (blanks ++ text) = skip text := List.dropWhile_append_of_pos blank

theorem skip_of_stops (stop : Stops isSpace text) : skip text = text :=
  dropWhile_append_stop blanks_nil stop

theorem skip_cons {char : Char} (visible : isSpace char = false) :
    skip (char :: text) = char :: text := skip_of_stops (stops_cons.mpr visible)

theorem skip_skip (text : List Char) : skip (skip text) = skip text :=
  List.dropWhile_idempotent _ _

theorem length_skip_le (text : List Char) : (skip text).length ≤ text.length :=
  (List.dropWhile_suffix isSpace).length_le

/-! ### Accepting -/

theorem orElse_eq_accept {value : β} : orElse first second text = .accept value rest ↔
    first text = .accept value rest ∨
      (∃ place, first text = .reject place) ∧ second text = .accept value rest := by
  unfold orElse
  cases first text <;> simp

theorem spaced_eq_accept {value : β} : spaced rule text = .accept value rest ↔
    ∃ middle, rule (skip text) = .accept value middle ∧ rest = skip middle := by
  unfold spaced
  cases rule (skip text) <;> simp [eq_comm]

theorem andThen_eq_accept {value : γ} : andThen first next text = .accept value rest ↔
    ∃ head middle, first text = .accept head middle ∧ next head middle = .accept value rest := by
  unfold andThen
  cases first text <;> simp

/-! ### Leading blanks -/

/-- A rule that answers the same with and without leading blanks. -/
def IgnoresBlanks (rule : Rule β) : Prop := ∀ text, rule (skip text) = rule text

theorem spaced_ignoresBlanks (rule : Rule β) : IgnoresBlanks (spaced rule) := by
  intro text
  rw [spaced, spaced, skip_skip]

theorem IgnoresBlanks.andThen (ignores : IgnoresBlanks first) (next : β → Rule γ) :
    IgnoresBlanks (first.andThen next) := by
  intro text
  rw [Rule.andThen, Rule.andThen, ignores]

end Rule

end MultipleShooting
