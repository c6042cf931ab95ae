/-
**Writing documents.**

A section is written as a line with its title and a line with a key and its tokens for each of its
entries, tokens with commas between them. Lines may be indented, end in spaces, and have lines
without content between them.

* `Document.Word`, `Document.Token`, `WrittenEntry`, `WrittenSection`: what is written;
* `Document.Writes`: the texts that write a list of titles and entries;
* `Document.Types`: the value that a token stands for;
* `Document.Holds`: the document that has the sections of a list.
-/
import MultipleShooting.Document.Reader
import MultipleShooting.Proofs.Expr.Ends
import MultipleShooting.Proofs.Text.Blank
import Mathlib

namespace MultipleShooting

namespace Document

/-! ### Words and tokens -/

/-- Letters, digits and underscores that do not begin with a digit. -/
inductive IsWord : List Char → Prop
  | intro {first : Char} {others : List Char} (start : isWordStart first = true)
      (parts : ∀ char ∈ others, isWordPart char = true) : IsWord (first :: others)

/-- A title or a key. -/
structure Word where
  chars : List Char
  isWord : IsWord chars

/-- A word in lower case. -/
def Word.lower (name : Word) : String := String.ofList (name.chars.map Char.toLower)

/-- A value as it is written: not empty, and without comma, semicolon and white space. -/
structure Token where
  chars : List Char
  ne_nil : chars ≠ []
  separate : ∀ char ∈ chars, char ≠ ',' ∧ char ≠ ';' ∧ Text.isBlank char = false

/-- A key with the tokens of its values. -/
structure WrittenEntry where
  key : Word
  tokens : List Token

/-- A title with one entry or more. -/
structure WrittenSection where
  title : Word
  entries : List WrittenEntry
  entries_ne_nil : entries ≠ []

/-- What a line says. -/
inductive Statement where
  | title (name : Word)
  | entry (written : WrittenEntry)

/-- The lines of a section. -/
def WrittenSection.statements (written : WrittenSection) : List Statement :=
  .title written.title :: written.entries.map .entry

/-! ### Lines -/

/-- Spaces and tabs. -/
def Padding (text : List Char) : Prop := ∀ char ∈ text, isLineSpace char = true

instance (text : List Char) : Decidable (Padding text) :=
  decidable_of_iff (text.all isLineSpace = true) List.all_eq_true

/-- Tokens with a comma before each. -/
inductive WritesMore : List Token → List Char → Prop
  | none : WritesMore [] []
  | more {before after text : List Char} {token : Token} {tokens : List Token}
      (left : Padding before) (right : Padding after) (others : WritesMore tokens text) :
      WritesMore (token :: tokens) (before ++ ',' :: (after ++ (token.chars ++ text)))

/-- Tokens with a comma between each two. -/
inductive WritesTokens : List Token → List Char → Prop
  | none : WritesTokens [] []
  | some {before text : List Char} {token : Token} {tokens : List Token}
      (left : Padding before) (others : WritesMore tokens text) :
      WritesTokens (token :: tokens) (before ++ (token.chars ++ text))

/-- A line without its indentation and the padding at its end. -/
inductive WritesStatement : Statement → List Char → Prop
  | title {name : Word} : WritesStatement (.title name) name.chars
  | entry {before text : List Char} {written : WrittenEntry} (left : Padding before)
      (tokens : WritesTokens written.tokens text) :
      WritesStatement (.entry written) (written.key.chars ++ (before ++ ':' :: text))

/-- A line. -/
inductive WritesLine : Statement → List Char → Prop
  | intro {statement : Statement} {indentation text trailing : List Char}
      (indented : Padding indentation) (written : WritesStatement statement text)
      (ended : Padding trailing) : WritesLine statement (indentation ++ (text ++ trailing))

/-- The beginnings of comments. -/
def commentMarks : List (List Char) := [['/', '/'], ['#'], ['%'], [';']]

/-- A line without content: it is blank, or it is a comment. -/
inductive IsIdle : List Char → Prop
  | blank {blanks : List Char} (blank : ∀ char ∈ blanks, Text.isBlank char = true) : IsIdle blanks
  | comment {blanks mark remark : List Char} (blank : ∀ char ∈ blanks, Text.isBlank char = true)
      (among : mark ∈ commentMarks) : IsIdle (blanks ++ (mark ++ remark))

/-- The ends of lines. -/
def lineBreaks : List (List Char) := [['\n'], ['\r', '\n']]

/-- **The texts that write statements**: a line for each, and lines without content anywhere. The
last line need not have an end. -/
inductive Writes : List Statement → List Char → Prop
  | nothing : Writes [] []
  | lastIdle {line : List Char} (single : '\n' ∉ line) (idle : IsIdle line) : Writes [] line
  | last {statement : Statement} {line : List Char} (written : WritesLine statement line) :
      Writes [statement] line
  | idle {statements : List Statement} {line ending text : List Char} (single : '\n' ∉ line)
      (idle : IsIdle line) (among : ending ∈ lineBreaks) (others : Writes statements text) :
      Writes statements (line ++ (ending ++ text))
  | statement {statement : Statement} {statements : List Statement} {line ending text : List Char}
      (written : WritesLine statement line) (among : ending ∈ lineBreaks)
      (others : Writes statements text) :
      Writes (statement :: statements) (line ++ (ending ++ text))

/-! ### What is written -/

/-- The value that a token stands for: the first that fits of a whole number, a double, a truth
value and a text. -/
inductive Types (token : List Char) : Value → Prop
  | integer {value : Int} (whole : Decimal.readInteger? token = some value) :
      Types token (.integer value)
  | float {value : Float} (notWhole : Decimal.readInteger? token = none)
      (double : Decimal.readDouble? token = some value) : Types token (.float value)
  | boolean {value : Bool} (notWhole : Decimal.readInteger? token = none)
      (notDouble : Decimal.readDouble? token = none)
      (truth : String.ofList token = if value then "true" else "false") :
      Types token (.boolean value)
  | text (notWhole : Decimal.readInteger? token = none)
      (notDouble : Decimal.readDouble? token = none) (notTrue : String.ofList token ≠ "true")
      (notFalse : String.ofList token ≠ "false") : Types token (.text (String.ofList token))

theorem types_ofToken (token : List Char) : Types token (Value.ofToken token) := by
  unfold Value.ofToken
  cases whole : Decimal.readInteger? token with
  | some value => exact .integer whole
  | none =>
    cases double : Decimal.readDouble? token with
    | some value => exact .float whole double
    | none =>
      simp only
      split
      · exact .boolean whole double ‹_›
      · exact .boolean whole double ‹_›
      · exact .text whole double ‹_› ‹_›

/-- The last entry of a key in the sections of a title. -/
def lastOfKey? (sections : List WrittenSection) (title key : String) : Option WrittenEntry :=
  ((sections.filter fun written => written.title.lower = title).flatMap
    WrittenSection.entries).reverse.find? fun entry => entry.key.lower = key

/-- **The document that has sections.** It has the titles of the sections, each once, and a title
has the keys of all sections of this title, each once, with the values of the last entry. -/
structure Holds (sections : List WrittenSection) (document : Document) : Prop where
  titles : ∀ title, (document.find? title).isSome ↔
    ∃ written ∈ sections, written.title.lower = title
  values : ∀ title part, document.find? title = some part → ∀ key,
    Option.Rel (fun entry => List.Forall₂ (fun token => Types token.chars) entry.tokens)
      (lastOfKey? sections title key) (part.find? key)
  titlesOnce : (document.map Prod.fst).Nodup
  keysOnce : ∀ titled ∈ document, (titled.2.map Prod.fst).Nodup

/-! ### Characters of a line -/

theorem isLineSpace_iff {char : Char} : isLineSpace char = true ↔ char = ' ' ∨ char = '\t' := by
  simp [isLineSpace]

theorem isBlank_of_isLineSpace {char : Char} (space : isLineSpace char = true) :
    Text.isBlank char = true := by
  rcases isLineSpace_iff.mp space with rfl | rfl <;> rfl

theorem isWordPart_of_isWordStart {char : Char} (start : isWordStart char = true) :
    isWordPart char = true := by
  unfold isWordStart at start
  unfold isWordPart Char.isAlphanum
  rcases Bool.or_eq_true_iff.mp start with letter | line
  · rw [letter, Bool.true_or, Bool.true_or]
  · rw [line, Bool.or_true]

theorem isBlank_of_isWordPart {char : Char} (part : isWordPart char = true) :
    Text.isBlank char = false := by
  refine isBlank_of_isIdentifierPart ?_
  unfold isWordPart at part
  rw [isIdentifierPart, part, Bool.true_or]

theorem Padding.isBlank {text : List Char} (padding : Padding text) :
    ∀ char ∈ text, Text.isBlank char = true :=
  fun char among => isBlank_of_isLineSpace (padding char among)

namespace Word

variable (name : Word)

theorem exists_cons : ∃ first others, name.chars = first :: others ∧ isWordStart first = true ∧
    ∀ char ∈ others, isWordPart char = true := by
  obtain ⟨chars, ⟨start, parts⟩⟩ := name
  exact ⟨_, _, rfl, start, parts⟩

theorem isBlank {char : Char} (among : char ∈ name.chars) : Text.isBlank char = false := by
  obtain ⟨first, others, same, start, parts⟩ := name.exists_cons
  rw [same] at among
  rcases List.mem_cons.mp among with rfl | among
  · exact isBlank_of_isWordPart (isWordPart_of_isWordStart start)
  · exact isBlank_of_isWordPart (parts char among)

end Word

/-- Characters that stand in a line: spaces and tabs, and what is visible. -/
def Inside (text : List Char) : Prop :=
  ∀ char ∈ text, isLineSpace char = true ∨ Text.isBlank char = false

section Lines

variable {statement : Statement} {tokens : List Token} {text left right : List Char}

theorem Inside.append (first : Inside left) (second : Inside right) : Inside (left ++ right) :=
  List.forall_mem_append.mpr ⟨first, second⟩

theorem Inside.cons {char : Char} (visible : Text.isBlank char = false) (others : Inside text) :
    Inside (char :: text) := List.forall_mem_cons.mpr ⟨.inr visible, others⟩

theorem Padding.inside (padding : Padding text) : Inside text :=
  fun char among => .inl (padding char among)

theorem Word.inside (name : Word) : Inside name.chars := fun _ among => .inr (name.isBlank among)

theorem Token.inside (token : Token) : Inside token.chars :=
  fun char among => .inr (token.separate char among).2.2

theorem WritesMore.inside (written : WritesMore tokens text) : Inside text := by
  induction written with
  | none => exact fun _ among => by cases among
  | more left right _ ih =>
    exact left.inside.append (.cons rfl (right.inside.append ((Token.inside _).append ih)))

theorem WritesTokens.inside (written : WritesTokens tokens text) : Inside text := by
  cases written with
  | none => exact fun _ among => by cases among
  | some left others => exact left.inside.append ((Token.inside _).append others.inside)

theorem WritesStatement.inside (written : WritesStatement statement text) : Inside text := by
  cases written with
  | title => exact Word.inside _
  | entry left tokens => exact (Word.inside _).append (left.inside.append (.cons rfl tokens.inside))

theorem WritesLine.inside (written : WritesLine statement text) : Inside text := by
  obtain ⟨indented, written, ended⟩ := written
  exact indented.inside.append (written.inside.append ended.inside)

/-- A statement begins with a word. -/
theorem WritesStatement.exists_cons (written : WritesStatement statement text) :
    ∃ first others, text = first :: others ∧ isWordPart first = true := by
  have begins (name : Word) (rest : List Char) :
      ∃ first others, name.chars ++ rest = first :: others ∧ isWordPart first = true := by
    obtain ⟨first, others, same, start, -⟩ := name.exists_cons
    exact ⟨first, others ++ rest, by rw [same, List.cons_append], isWordPart_of_isWordStart start⟩
  cases written with
  | title => simpa using begins _ []
  | entry => exact begins _ _

/-! A statement ends in a visible character. -/

theorem Token.trimEnd (token : Token) : Text.trimEnd token.chars = token.chars :=
  Text.trimEnd_of_visible fun char among => (token.separate char among).2.2

theorem trimEnd_append_eq (visible : right ≠ []) (trimmed : Text.trimEnd right = right) :
    Text.trimEnd (left ++ right) = left ++ right := by
  rw [Text.trimEnd_append (trimmed.symm ▸ visible), trimmed]

theorem WritesMore.trimEnd (written : WritesMore tokens text) (token : Token) :
    Text.trimEnd (token.chars ++ text) = token.chars ++ text := by
  induction written generalizing token with
  | none => rw [List.append_nil, token.trimEnd]
  | @more before after text next _ left right others ih =>
    have visible : next.chars ++ text ≠ [] := List.append_ne_nil_of_left_ne_nil next.ne_nil text
    have comma : Text.trimEnd ([','] ++ (after ++ (next.chars ++ text))) =
        [','] ++ (after ++ (next.chars ++ text)) :=
      trimEnd_append_eq (List.append_ne_nil_of_right_ne_nil after visible)
        (trimEnd_append_eq visible (ih next))
    exact trimEnd_append_eq (by simp) (trimEnd_append_eq (List.cons_ne_nil _ _) comma)

theorem WritesTokens.trimEnd (written : WritesTokens tokens text) :
    Text.trimEnd (':' :: text) = ':' :: text := by
  cases written with
  | none => rfl
  | @some before text token _ left others =>
    have visible : token.chars ++ text ≠ [] := List.append_ne_nil_of_left_ne_nil token.ne_nil text
    rw [← List.singleton_append]
    exact trimEnd_append_eq (List.append_ne_nil_of_right_ne_nil before visible)
      (trimEnd_append_eq visible (others.trimEnd token))

theorem WritesStatement.trimEnd (written : WritesStatement statement text) :
    Text.trimEnd text = text := by
  cases written with
  | @title name => exact Text.trimEnd_of_visible fun _ among => name.isBlank among
  | entry left tokens =>
    exact trimEnd_append_eq (by simp) (trimEnd_append_eq (List.cons_ne_nil _ _) tokens.trimEnd)

end Lines

end Document

end MultipleShooting
