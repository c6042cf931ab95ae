/-
**A document for every list of sections.**

Statements are written one a line, without spaces (`Document.plainLines`), which is one of the texts
that write them (`Document.writes_plainLines`). So every list of sections has a document.
-/
import MultipleShooting.Proofs.Document.Writing

namespace MultipleShooting

namespace Document

/-- Whether a text is a word. -/
def isWordText : List Char → Bool
  | [] => false
  | first :: others => isWordStart first && others.all isWordPart

theorem isWord_of_isWordText {chars : List Char} (word : isWordText chars = true) :
    IsWord chars := by
  cases chars with
  | nil => cases word
  | cons first others =>
    obtain ⟨start, parts⟩ := Bool.and_eq_true_iff.mp word
    exact .intro start (List.all_eq_true.mp parts)

/-- The word of a text. -/
def Word.ofText (text : String) (word : isWordText text.toList = true) : Word :=
  ⟨text.toList, isWord_of_isWordText word⟩

/-- Tokens with a comma before each. -/
def furtherTokens (tokens : List Token) : List Char :=
  tokens.flatMap fun token => ',' :: token.chars

/-- Tokens with a comma between each two. -/
def plainTokens : List Token → List Char
  | [] => []
  | token :: tokens => token.chars ++ furtherTokens tokens

/-- A statement without spaces. -/
def Statement.plainLine : Statement → List Char
  | title name => name.chars
  | entry written => written.key.chars ++ ':' :: plainTokens written.tokens

/-- Statements one a line. -/
def plainLines (statements : List Statement) : List Char :=
  statements.flatMap fun statement => statement.plainLine ++ ['\n']

theorem padding_nil : Padding [] := fun _ among => by cases among

theorem writesMore_furtherTokens (tokens : List Token) :
    WritesMore tokens (furtherTokens tokens) := by
  induction tokens with
  | nil => exact .none
  | cons token tokens ih => exact .more padding_nil padding_nil ih

theorem writesTokens_plainTokens (tokens : List Token) :
    WritesTokens tokens (plainTokens tokens) := by
  cases tokens with
  | nil => exact .none
  | cons token tokens => exact .some padding_nil (writesMore_furtherTokens tokens)

theorem writesStatement_plainLine (statement : Statement) :
    WritesStatement statement statement.plainLine := by
  cases statement with
  | title name => exact .title
  | entry written => exact .entry padding_nil (writesTokens_plainTokens written.tokens)

theorem writesLine_plainLine (statement : Statement) :
    WritesLine statement statement.plainLine := by
  have line := WritesLine.intro padding_nil (writesStatement_plainLine statement) padding_nil
  rwa [List.append_nil, List.nil_append] at line

/-- **Plain lines write their statements.** -/
theorem writes_plainLines (statements : List Statement) :
    Writes statements (plainLines statements) := by
  induction statements with
  | nil => exact .nothing
  | cons statement statements ih =>
    have written := Writes.statement (writesLine_plainLine statement) List.mem_cons_self ih
    rwa [← List.append_assoc] at written

end Document

end MultipleShooting
