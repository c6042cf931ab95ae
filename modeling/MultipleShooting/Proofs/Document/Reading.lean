/-
**Reading undoes writing.**

Titles and keys are words alike, and only the colon after a key tells them apart: a section ends
where the rule of entries rejects.

* `Document.entry_of_begins`, `Document.titledEntries_of_begins`: what a rule reads from a text that
  begins with its statements, and that what is left begins with the next statement;
* `Document.Reading.repeatedOnce`: a rule that reads items one by one reads all of them;
* `Document.parse_holds`: the document of a text that writes sections has these sections.
-/
import MultipleShooting.Proofs.Document.Merging
import MultipleShooting.Proofs.Document.Remaining
import Mathlib

namespace MultipleShooting

namespace Document

variable {statement : Statement} {statements : List Statement} {tokens : List Token}
  {text rest : List Char}

/-! ### Words and tokens -/

theorem isWordPart_of_isLineSpace (char : Char) (space : isLineSpace char = true) :
    isWordPart char = false := by
  rcases isLineSpace_iff.mp space with rfl | rfl <;> rfl

theorem isTokenPart_of_isLineSpace (char : Char) (space : isLineSpace char = true) :
    isTokenPart char = false := by
  rcases isLineSpace_iff.mp space with rfl | rfl <;> rfl

theorem word_append (name : Word) (stop : Stops isWordPart rest) :
    word (name.chars ++ rest) = .accept name.lower rest := by
  obtain ⟨first, others, same, start, parts⟩ := name.exists_cons
  rw [Word.lower, same, List.cons_append, word, if_pos start, takeWhile_append_stop parts stop,
    dropWhile_append_stop parts stop]

/-- The value of a token. -/
def Token.value (token : Token) : Value := Value.ofToken token.chars

theorem Token.isTokenPart (token : Token) {char : Char} (among : char ∈ token.chars) :
    isTokenPart char = true := by
  obtain ⟨noComma, noSemicolon, visible⟩ := token.separate char among
  have other (blank : Char) (isBlank : Text.isBlank blank = true) : char ≠ blank :=
    ne_of_apply_ne Text.isBlank (by rw [visible, isBlank]; exact Bool.false_ne_true)
  simp [Document.isTokenPart, noComma, noSemicolon, other ' ' rfl, other '\t' rfl, other '\n' rfl,
    other '\r' rfl]

theorem token?_append (token : Token) (stop : Stops isTokenPart rest) :
    token? (token.chars ++ rest) = some (token.value, rest) := by
  have parts : ∀ char ∈ token.chars, isTokenPart char = true := fun _ => token.isTokenPart
  rw [token?, takeWhile_append_stop parts stop, dropWhile_append_stop parts stop]
  split
  next empty => exact absurd empty token.ne_nil
  next => rfl

theorem skipInLine_token (token : Token) :
    skipInLine (token.chars ++ rest) = token.chars ++ rest := by
  obtain ⟨first, others, same⟩ := List.exists_cons_of_ne_nil token.ne_nil
  have visible := (token.separate first (same ▸ List.mem_cons_self)).2.2
  rw [same, List.cons_append, skipInLine_cons]
  by_contra space
  rw [isBlank_of_isLineSpace (Bool.not_eq_false _ ▸ space)] at visible
  cases visible

/-! ### Values -/

theorem WritesMore.stops (written : WritesMore tokens text) (follows : Follows statements rest) :
    Stops isTokenPart (text ++ rest) := by
  cases written with
  | none => exact follows.stops isTokenPart_of_isLineSpace rfl
  | more left =>
    rw [List.append_assoc]
    exact left.stops isTokenPart_of_isLineSpace (stops_cons.mpr rfl)

theorem WritesMore.length_le (written : WritesMore tokens text) :
    tokens.length ≤ text.length := by
  induction written with
  | none => exact Nat.zero_le _
  | more _ _ _ ih =>
    simp only [List.length_append, List.length_cons]
    omega

/-- No value is read beyond the end of a line. -/
theorem Follows.token? (follows : Follows statements rest) :
    token? (Document.skipInLine rest) = none := by
  rcases follows.skipInLine with ended | ⟨others, ended⟩ <;> rw [ended] <;> rfl

theorem moreValues_append (written : WritesMore tokens text) (follows : Follows statements rest)
    {fuel : Nat} (enough : tokens.length ≤ fuel) :
    moreValues fuel (text ++ rest) = (tokens.map Token.value, rest) := by
  induction written generalizing fuel with
  | none =>
    cases fuel with
    | zero => rfl
    | succ fuel =>
      rw [List.nil_append, moreValues]
      rcases follows.skipInLine with ended | ⟨others, ended⟩ <;> rw [ended] <;> rfl
  | @more before after text token tokens left right others ih =>
    obtain ⟨fuel, rfl⟩ := Nat.exists_eq_add_one_of_ne_zero (Nat.ne_zero_of_lt enough)
    have comma : skipInLine (before ++ ',' :: (after ++ (token.chars ++ text)) ++ rest) =
        ',' :: (after ++ (token.chars ++ (text ++ rest))) := by
      simp only [List.append_assoc, List.cons_append]
      rw [skipInLine_append left, skipInLine_cons rfl]
    rw [moreValues, comma]
    simp only
    rw [skipInLine_append right, skipInLine_token, token?_append token (others.stops follows)]
    simp only
    rw [ih (Nat.le_of_succ_le_succ enough)]
    rfl

/-- The values of an entry are read, and what is left is blank up to the next statement. -/
theorem values_append (written : WritesTokens tokens text) (follows : Follows statements rest) :
    ∃ left, values (skipInLine (text ++ rest)) = (tokens.map Token.value, left) ∧
      Text.trimStart left = Text.trimStart rest := by
  cases written with
  | none =>
    refine ⟨skipInLine rest, ?_, trimStart_skipInLine rest⟩
    rw [List.nil_append, values, skipInLine_skipInLine, follows.token?]
    rfl
  | @some before text token tokens left others =>
    refine ⟨rest, ?_, rfl⟩
    rw [List.append_assoc, skipInLine_append left, List.append_assoc, values,
      skipInLine_skipInLine, skipInLine_token, token?_append token (others.stops follows)]
    simp only
    have enough : tokens.length ≤ (text ++ rest).length :=
      others.length_le.trans (List.length_append ▸ Nat.le_add_right _ _)
    rw [moreValues_append others follows enough]
    rfl

/-! ### Entries -/

/-- What is read of an entry. -/
def WrittenEntry.read (written : WrittenEntry) : String × List Value :=
  (written.key.lower, written.tokens.map Token.value)

/-- An entry is read, and what is left begins with the next statement. -/
theorem entry_of_begins {written : WrittenEntry}
    (begins : Begins (.entry written :: statements) text) :
    ∃ rest, entry text = .accept written.read rest ∧ Begins statements rest := by
  cases begins with
  | @cons _ _ _ rest line follows =>
    cases line with
    | @entry before text _ padded tokens =>
      obtain ⟨left, read, same⟩ := values_append tokens follows
      have named : word (written.key.chars ++ (before ++ ':' :: (text ++ rest))) =
          .accept written.key.lower (before ++ ':' :: (text ++ rest)) :=
        word_append _ (padded.stops isWordPart_of_isLineSpace (stops_cons.mpr rfl))
      refine ⟨Text.trimStart rest, ?_, follows.trimStart⟩
      simp only [List.append_assoc, List.cons_append]
      rw [entry, Rule.andThen, named]
      simp only
      rw [skipInLine_append padded, skipInLine_cons rfl]
      simp only
      rw [read, same]
      have next : skipInLine (Text.trimStart rest) = Text.trimStart rest :=
        follows.trimStart.dropWhile fun _ => isBlank_of_isLineSpace
      simp only [next, WrittenEntry.read]

/-- **A title is no key**: no colon comes after it in its line. -/
theorem entry_of_begins_title (begins : Begins statements text)
    (noEntry : ∀ written, statements.head? ≠ some (.entry written)) :
    ∃ place, entry text = .reject place := by
  cases begins with
  | nil => exact ⟨[], rfl⟩
  | @cons _ _ _ rest line follows =>
    cases line with
    | @title name =>
      -- The word is accepted as a key; its line ends where the colon would have to stand.
      refine ⟨skipInLine rest, ?_⟩
      rw [entry, Rule.andThen, word_append name (follows.stops isWordPart_of_isLineSpace rfl)]
      simp only
      rcases follows.skipInLine with ended | ⟨others, ended⟩
      · rw [ended]
      · rw [ended]
        rfl
    | entry => exact absurd rfl (noEntry _)

/-! ### Repetition -/

section Repetition

variable {β γ : Type} {rule : Rule β} {reads : γ → β} {Before : List γ → List Char → Prop}
  {item : γ} {items : List γ}

/-- A rule reads items one by one: it accepts where an item comes next, and rejects where none
does. -/
structure Reading (rule : Rule β) (reads : γ → β) (Before : List γ → List Char → Prop) : Prop where
  step : ∀ item items text, Before (item :: items) text →
    ∃ rest, rule text = .accept (reads item) rest ∧ Before items rest
  stop : ∀ text, Before [] text → ∃ place, rule text = .reject place
  length_le : ∀ items text, Before items text → items.length ≤ text.length

theorem Reading.repeated (reading : Reading rule reads Before) (before : Before items text)
    {fuel : Nat} (enough : items.length ≤ fuel) :
    ∃ rest, repeated rule fuel text = (items.map reads, rest) ∧ Before [] rest := by
  induction items generalizing text fuel with
  | nil =>
    refine ⟨text, ?_, before⟩
    obtain ⟨place, rejected⟩ := reading.stop text before
    cases fuel with
    | zero => rfl
    | succ fuel =>
      rw [Document.repeated, rejected]
      rfl
  | cons item items ih =>
    obtain ⟨fuel, rfl⟩ := Nat.exists_eq_add_one_of_ne_zero (Nat.ne_zero_of_lt enough)
    obtain ⟨middle, accepted, between⟩ := reading.step item items text before
    obtain ⟨rest, read, after⟩ := ih between (Nat.le_of_succ_le_succ enough)
    refine ⟨rest, ?_, after⟩
    rw [Document.repeated, accepted]
    simp only
    rw [read]
    rfl

/-- **All items are read.** -/
theorem Reading.repeatedOnce (reading : Reading rule reads Before)
    (before : Before (item :: items) text) : ∃ rest,
      repeatedOnce rule text = .accept ((item :: items).map reads) rest ∧ Before [] rest := by
  obtain ⟨middle, accepted, between⟩ := reading.step item items text before
  obtain ⟨rest, read, after⟩ := reading.repeated between (reading.length_le items middle between)
  refine ⟨rest, ?_, after⟩
  rw [Document.repeatedOnce, Rule.andThen, accepted]
  simp only
  rw [read]
  rfl

end Repetition

/-- The entries before a title, or before the end, are read. -/
theorem reading_entry (noEntry : ∀ written, statements.head? ≠ some (.entry written)) :
    Reading entry WrittenEntry.read fun entries =>
      Begins (entries.map .entry ++ statements) where
  step _ _ _ := entry_of_begins
  stop _ begins := entry_of_begins_title begins noEntry
  length_le entries text begins := by
    have short := begins.length_le
    rw [List.length_append, List.length_map] at short
    omega

/-! ### Sections -/

/-- What is read of a section. -/
def WrittenSection.read (written : WrittenSection) : String × List (String × List Value) :=
  (written.title.lower, written.entries.map WrittenEntry.read)

theorem head?_flatMap_statements (sections : List WrittenSection) (written : WrittenEntry) :
    (sections.flatMap WrittenSection.statements).head? ≠ some (.entry written) := by
  cases sections with
  | nil => simp
  | cons => simp [WrittenSection.statements]

theorem title_of_begins {name : Word} (begins : Begins (.title name :: statements) text) :
    ∃ rest, word text = .accept name.lower rest ∧ Begins statements (Text.trim rest) := by
  cases begins with
  | @cons _ _ _ rest line follows =>
    cases line with
    | title =>
      exact ⟨rest, word_append name (follows.stops isWordPart_of_isLineSpace rfl),
        follows.trimStart.trimEnd⟩

/-- A section is read, and what is left begins with the next title. -/
theorem titledEntries_of_begins {written : WrittenSection} {sections : List WrittenSection}
    (begins : Begins ((written :: sections).flatMap WrittenSection.statements) (skipInLine text)) :
    ∃ rest, titledEntries text = .accept written.read rest ∧
      Begins (sections.flatMap WrittenSection.statements) rest := by
  obtain ⟨title, entries, nonempty⟩ := written
  obtain ⟨first, others, rfl⟩ := List.exists_cons_of_ne_nil nonempty
  obtain ⟨middle, titled, between⟩ := title_of_begins begins
  -- What comes after the entries is a title or nothing, and the rule of entries stops there.
  obtain ⟨rest, read, after⟩ :=
    (reading_entry (head?_flatMap_statements sections)).repeatedOnce between
  refine ⟨rest, ?_, after⟩
  have skipped : Rule.skip rest = rest := after.dropWhile fun char space => by
    simp only [Rule.isSpace, Bool.or_eq_true, beq_iff_eq] at space
    rcases space with ((rfl | rfl) | rfl) | rfl <;> rfl
  rw [titledEntries, titled]
  simp only
  rw [read]
  simp only [skipped, WrittenSection.read]

/-- All sections are read. -/
theorem reading_titledEntries : Reading titledEntries WrittenSection.read fun sections text =>
    Begins (sections.flatMap WrittenSection.statements) (skipInLine text) where
  step written sections text begins := by
    obtain ⟨rest, read, after⟩ := titledEntries_of_begins begins
    refine ⟨rest, read, ?_⟩
    rw [skipInLine, after.dropWhile fun _ => isBlank_of_isLineSpace]
    exact after
  stop text begins := by
    rw [titledEntries, begins.eq_nil]
    exact ⟨[], rfl⟩
  length_le sections text begins := by
    have titles : sections.length ≤ (sections.flatMap WrittenSection.statements).length := by
      rw [List.length_flatMap, ← List.length_map (f := fun written => written.statements.length)]
      refine List.length_le_sum_of_one_le _ fun count among => ?_
      obtain ⟨written, -, rfl⟩ := List.mem_map.mp among
      exact Nat.succ_pos _
    exact titles.trans (begins.length_le.trans (List.dropWhile_suffix isLineSpace).length_le)

/-! ### Documents -/

/-- **All sections of a text are read**, and nothing is left. -/
theorem parse_eq_ok_of_writes {sections : List WrittenSection} (nonempty : sections ≠ [])
    {text : String} (written : Writes (sections.flatMap WrittenSection.statements) text.toList) :
    parse text = .ok (ofEntries (sections.map WrittenSection.read)) := by
  obtain ⟨lines, kept, left⟩ := withoutComments_eq_of_writes written
  obtain ⟨first, others, rfl⟩ := List.exists_cons_of_ne_nil nonempty
  obtain ⟨rest, read, ended⟩ := reading_titledEntries.repeatedOnce (begins_joinLines kept)
  have blank : Text.trim rest = [] := by
    rw [Text.trim, ← trimStart_skipInLine, ended.eq_nil]
    rfl
  rw [parse, left, parseLines, read]
  simp only [blank, if_true]

/-! ### What the document holds -/

theorem entriesOf_read (sections : List WrittenSection) (title : String) :
    entriesOf (sections.map WrittenSection.read) title =
      ((sections.filter fun written => written.title.lower = title).flatMap
        WrittenSection.entries).map WrittenEntry.read := by
  rw [entriesOf, List.filter_map, List.flatMap_map, List.map_flatMap]
  rfl

theorem find?_read (sections : List WrittenSection) (title key : String) :
    Section.find? ((entriesOf (sections.map WrittenSection.read) title).foldl Section.put []) key =
      (lastOfKey? sections title key).map fun entry => entry.tokens.map Token.value := by
  rw [Section.find?_foldl_put, entriesOf_read, ← List.map_reverse, List.find?_map, Option.map_map]
  exact Option.or_none

/-- What is read from the sections of a list is the document that has them. -/
theorem holds_ofEntries (sections : List WrittenSection) :
    Holds sections (ofEntries (sections.map WrittenSection.read)) where
  titles title := by
    rw [find?_ofEntries]
    split_ifs with known
    · simpa [WrittenSection.read] using known
    · simpa [WrittenSection.read] using known
  values title part found key := by
    have merged :
        part = (entriesOf (sections.map WrittenSection.read) title).foldl Section.put [] := by
      rw [find?_ofEntries] at found
      split_ifs at found
      exact (Option.some.inj found).symm
    rw [merged, find?_read]
    cases lastOfKey? sections title key with
    | none => exact .none
    | some entry =>
      refine .some ?_
      rw [List.forall₂_map_right_iff]
      exact List.forall₂_same.mpr fun token _ => types_ofToken token.chars
  titlesOnce := nodup_ofEntries.1
  keysOnce := nodup_ofEntries.2

/-- **Reading undoes writing**: from a text that writes sections the document with them is read. -/
theorem parse_holds {sections : List WrittenSection} {text : String} (nonempty : sections ≠ [])
    (written : Writes (sections.flatMap WrittenSection.statements) text.toList) :
    ∃ document, parse text = .ok document ∧ Holds sections document := by
  have read := parse_eq_ok_of_writes nonempty written
  exact ⟨ofEntries (sections.map WrittenSection.read), read, holds_ofEntries sections⟩

/-! ### A document of a tank -/

/-- A word of one letter. -/
def Word.ofLetter (letter : Char) (start : isWordStart letter = true) : Word :=
  ⟨[letter], .intro start fun _ among => by cases among⟩

/-- A token of one letter or digit. -/
def Token.ofLetter (letter : Char) (part : isWordPart letter = true) : Token where
  chars := [letter]
  ne_nil := List.cons_ne_nil letter []
  separate := fun char among => by
    rw [List.mem_singleton.mp among]
    refine ⟨?_, ?_, isBlank_of_isWordPart part⟩ <;> rintro rfl <;> cases part

/-- Two sections of one title; the second gives no values to a key that has values in the first. -/
def tankSections : List WrittenSection :=
  [⟨.ofLetter 'T' rfl, [⟨.ofLetter 'x' rfl, [.ofLetter '1' rfl, .ofLetter 'h' rfl]⟩],
      List.cons_ne_nil _ _⟩,
    ⟨.ofLetter 't' rfl, [⟨.ofLetter 'X' rfl, []⟩], List.cons_ne_nil _ _⟩]

/-- The sections with a comment before them and a blank line between them. -/
def tankText : String := "# t\n\tT \n  x :1 ,\th\r\n\nt\nX: "

theorem writes_tankText :
    Writes (tankSections.flatMap WrittenSection.statements) tankText.toList := by
  have comment : IsIdle ['#', ' ', 't'] := @IsIdle.comment [] ['#'] [' ', 't'] (by simp) (by decide)
  have first : WritesLine (.title (.ofLetter 'T' rfl)) ['\t', 'T', ' '] :=
    @WritesLine.intro _ ['\t'] _ [' '] (by decide) .title (by decide)
  have values : WritesTokens [.ofLetter '1' rfl, .ofLetter 'h' rfl] ['1', ' ', ',', '\t', 'h'] :=
    @WritesTokens.some [] _ _ _ (by decide)
      (@WritesMore.more [' '] ['\t'] _ _ _ (by decide) (by decide) .none)
  have second : WritesLine
      (.entry ⟨.ofLetter 'x' rfl, [.ofLetter '1' rfl, .ofLetter 'h' rfl]⟩)
      [' ', ' ', 'x', ' ', ':', '1', ' ', ',', '\t', 'h'] :=
    @WritesLine.intro _ [' ', ' '] _ [] (by decide)
      (@WritesStatement.entry [' '] _ ⟨.ofLetter 'x' rfl, [.ofLetter '1' rfl, .ofLetter 'h' rfl]⟩
        (by decide) values) (by decide)
  have third : WritesLine (.title (.ofLetter 't' rfl)) ['t'] :=
    @WritesLine.intro _ [] _ [] (by decide) .title (by decide)
  have fourth : WritesLine (.entry ⟨.ofLetter 'X' rfl, []⟩) ['X', ':', ' '] :=
    @WritesLine.intro _ [] _ [' '] (by decide)
      (@WritesStatement.entry [] _ ⟨.ofLetter 'X' rfl, []⟩ (by decide) .none) (by decide)
  have spelled : tankText.toList =
      ['#', ' ', 't'] ++ (['\n'] ++ (['\t', 'T', ' '] ++ (['\n'] ++
        ([' ', ' ', 'x', ' ', ':', '1', ' ', ',', '\t', 'h'] ++ (['\r', '\n'] ++ ([] ++ (['\n'] ++
          (['t'] ++ (['\n'] ++ ['X', ':', ' ']))))))))) := rfl
  rw [spelled]
  exact .idle (by decide) comment (by decide) (.statement first (by decide)
    (.statement second (by decide) (.idle (by decide) (.blank (by simp)) (by decide)
      (.statement third (by decide) (.last fourth)))))

/-- The two sections are one, and the key is left without values. -/
theorem parse_holds_tank : tankSections ≠ [] ∧
    ∃ document part, parse tankText = .ok document ∧ Holds tankSections document ∧
      document.find? "t" = some part ∧ part.find? "x" = some [] := by
  have nonempty : tankSections ≠ [] := List.cons_ne_nil _ _
  obtain ⟨document, read, holds⟩ := parse_holds nonempty writes_tankText
  have titled : (document.find? "t").isSome := (holds.titles "t").mpr ⟨_, List.mem_cons_self, rfl⟩
  obtain ⟨part, found⟩ := Option.isSome_iff_exists.mp titled
  have last : lastOfKey? tankSections "t" "x" = some ⟨.ofLetter 'X' rfl, []⟩ := rfl
  have values := holds.values "t" part found "x"
  rw [last] at values
  refine ⟨nonempty, document, part, read, holds, found, ?_⟩
  generalize part.find? "x" = answer at values ⊢
  cases values with
  | some empty => rw [List.forall₂_nil_left_iff.mp empty]

end Document

end MultipleShooting
