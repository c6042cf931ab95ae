/-
**Reading documents.**

```text
document := section+
section  := word entry+
entry    := word ':' values
values   := (token (',' token)*)?
```

Words have letters, digits and underscores and do not begin with a digit. A token ends at a comma, a
semicolon, a blank or the end of its line. Lines that begin with `//`, `#`, `%` or `;` and blank
lines are left out before reading.

* `Document.withoutComments`: the lines that are read;
* `Document.parse`: the document of a text, all of which has to be read.
-/
import MultipleShooting.Document.Basic
import MultipleShooting.Text.Blank
import MultipleShooting.Text.Lines
import MultipleShooting.Text.Quoted
import MultipleShooting.Text.Rule

namespace MultipleShooting

namespace Document

/-! ### Comments -/

/-- Whether a line is blank or a comment. -/
def isComment (line : List Char) : Bool :=
  match Text.trim line with
  | [] => true
  | '/' :: '/' :: _ => true
  | first :: _ => first == '#' || first == '%' || first == ';'

/-- The lines of a text that are neither blank nor comments. -/
def withoutComments (text : List Char) : List Char :=
  Text.joinLines ((Text.lines text).filter fun line => !isComment line)

/-! ### Tokens -/

/-- The blanks inside a line. -/
def isLineSpace (char : Char) : Bool := char == ' ' || char == '\t'

/-- The text after its leading blanks inside the line. -/
def skipInLine (text : List Char) : List Char := text.dropWhile isLineSpace

/-- Whether a character may begin a word. -/
def isWordStart (char : Char) : Bool := char.isAlpha || char == '_'

/-- Whether a character may stand in a word. -/
def isWordPart (char : Char) : Bool := char.isAlphanum || char == '_'

/-- A word, in lower case. -/
def word : Rule String
  | [] => .reject []
  | first :: others =>
    if isWordStart first then
      .accept (String.ofList ((first :: others.takeWhile isWordPart).map Char.toLower))
        (others.dropWhile isWordPart)
    else .reject (first :: others)

/-- Whether a character may stand in a token. -/
def isTokenPart (char : Char) : Bool := !(",; \t\n\r".toList.contains char)

/-- A token with its value, and the rest. -/
def token? (text : List Char) : Option (Value × List Char) :=
  match text.takeWhile isTokenPart with
  | [] => none
  | token => some (Value.ofToken token, text.dropWhile isTokenPart)

/-! ### Entries -/

/-- Further values after a comma each; a comma without a token after it is not read. `fuel` bounds
their number. -/
def moreValues : (fuel : Nat) → List Char → List Value × List Char
  | 0, text => ([], text)
  | fuel + 1, text =>
    match skipInLine text with
    | ',' :: after =>
      match token? (skipInLine after) with
      | some (value, rest) =>
        let (values, rest) := moreValues fuel rest
        (value :: values, rest)
      | none => ([], text)
    | _ => ([], text)

/-- The values of an entry and the rest; there may be none. -/
def values (text : List Char) : List Value × List Char :=
  match token? (skipInLine text) with
  | none => ([], skipInLine text)
  | some (value, rest) =>
    let (others, rest) := moreValues rest.length rest
    (value :: others, rest)

/-- A key with its values, and the rest after any blanks. -/
def entry : Rule (String × List Value) :=
  Rule.andThen word fun key rest =>
    match skipInLine rest with
    | ':' :: after =>
      let (found, rest) := values (skipInLine after)
      .accept (key, found) (skipInLine (Text.trimStart rest))
    | place => .reject place

/-- What a rule reads as often as it accepts; `fuel` bounds the number of times. -/
def repeated {β : Type} (rule : Rule β) : (fuel : Nat) → List Char → List β × List Char
  | 0, text => ([], text)
  | fuel + 1, text =>
    match rule text with
    | .accept value rest =>
      let (others, rest) := repeated rule fuel rest
      (value :: others, rest)
    | _ => ([], text)

/-- What a rule reads at least once. -/
def repeatedOnce {β : Type} (rule : Rule β) : Rule (List β) :=
  Rule.andThen rule fun first rest =>
    let (others, rest) := repeated rule rest.length rest
    .accept (first :: others) rest

/-! ### Sections -/

/-- A title with the entries after it, and the rest after any blanks. The blanks after the title and
those at the end of the text are passed over. -/
def titledEntries : Rule (String × List (String × List Value)) := fun text =>
  match word (skipInLine text) with
  | .accept title rest =>
    match repeatedOnce entry (Text.trim rest) with
    | .accept entries rest => .accept (title, entries) (Rule.skip rest)
    | .reject place => .reject place
    | .abort place => .abort place
  | .reject place => .reject place
  | .abort place => .abort place

/-- Why a text is no document: its beginning is no section, or something is left after the last
section. -/
inductive Fault where
  | unreadable (place : List Char)
  | remaining (place : List Char)

/-- The wording of a fault. -/
def Fault.message : Fault → String
  | unreadable place =>
    "Parsing error: Error(Error \x7b input: " ++ String.ofList (Text.quote place) ++
      ", code: Tag \x7d)"
  | remaining place =>
    "Failed to parse entire document. Remaining: '" ++ String.ofList place ++ "'"

/-- The document of a text without comments. -/
def parseLines (text : List Char) : Except Fault Document :=
  match repeatedOnce titledEntries text with
  | .accept titled rest =>
    if Text.trim rest = [] then .ok (ofEntries titled) else .error (.remaining rest)
  | .reject place => .error (.unreadable place)
  | .abort place => .error (.unreadable place)

/-- The document of a text. -/
def parse (text : String) : Except Fault Document := parseLines (withoutComments text.toList)

end Document

end MultipleShooting
