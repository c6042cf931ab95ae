/-
**Comma-separated tables are read back.**

`Csv.read?` is a reader of the format: fields end at commas, records at line breaks, and between
quotes everything stands for itself but a quote, which is written twice. An empty line holds no
record.

* `Csv.Writes`: the rules of writing. A field with a comma, a quote or a line break needs quotes,
  any other may have them; fields are separated by commas and records end with a line feed;
* `Csv.read?_of_writes`: **whatever is written by the rules is read back**;
* `Csv.writes_flatMap`, `Csv.writeRecords_eq_ok`: the library writes by the rules, and it writes a
  table exactly when all records have the length of the header.
-/
import MultipleShooting.Csv
import MultipleShooting.Proofs.Outcome

namespace MultipleShooting

namespace Csv

/-- The records of a table, each of them a list of fields. -/
abbrev Table := List (List (List Char))

/-! ### Reading -/

/-- Where in a table a character stands: at the start of a record, at the start of another field,
inside of a field without or with quotes, or after a quote that may have closed the field. -/
inductive Place where
  | record
  | field
  | bare
  | quoted
  | closed
deriving DecidableEq

/-- A table whose first field has another character in front. -/
def pushChar (char : Char) : Table → Table
  | (field :: fields) :: records => ((char :: field) :: fields) :: records
  | table => table

/-- A table whose first record has an empty field in front. -/
def pushField : Table → Table
  | record :: records => ([] :: record) :: records
  | [] => []

/-- The table where a text ends: another record has begun unless a record would start there, and a
field between quotes is not closed. -/
def Place.atEnd : Place → Option Table
  | .record => some []
  | .quoted => none
  | _ => some [[[]]]

/-- The table that the characters from a place on are: they begin with what is left of the field and
the record there. -/
def readFrom (place : Place) : List Char → Option Table
  | [] => place.atEnd
  | char :: rest =>
    if place = .quoted then
      if char = '"' then readFrom .closed rest else (readFrom .quoted rest).map (pushChar char)
    else if char = ',' then (readFrom .field rest).map pushField
    else if char = '\n' ∨ char = '\r' then
      if place = .record then readFrom .record rest else (readFrom .record rest).map ([[]] :: ·)
    else if char = '"' then
      if place = .bare then none
      else if place = .closed then (readFrom .quoted rest).map (pushChar '"')
      else readFrom .quoted rest
    else if place = .closed then none
    else (readFrom .bare rest).map (pushChar char)

/-- The table that a text is, if it is one. -/
def read? (text : List Char) : Option Table := readFrom .record text

/-! ### Writing -/

/-- How a field may be written. -/
inductive WritesField (field : List Char) : List Char → Prop
  | bare (plain : needsQuotes field = false) : WritesField field field
  | inQuotes : WritesField field (quoted field)

/-- How a record may be written. -/
inductive WritesRecord : List (List Char) → List Char → Prop
  | last {field text : List Char} (written : WritesField field text) :
      WritesRecord [field] (text ++ ['\n'])
  | more {field text : List Char} {fields : List (List Char)} {others : List Char}
      (written : WritesField field text) (further : WritesRecord fields others) :
      WritesRecord (field :: fields) (text ++ ',' :: others)

/-- How a table may be written. No record is written as an empty line. -/
inductive Writes : Table → List Char → Prop
  | nil : Writes [] []
  | cons {record : List (List Char)} {text : List Char} {records : Table} {others : List Char}
      (written : WritesRecord record text) (visible : text ≠ ['\n'])
      (further : Writes records others) : Writes (record :: records) (text ++ others)

/-! ### Fields -/

/-- A table whose first field has further characters in front. -/
def pushAll (chars : List Char) (table : Table) : Table := chars.foldr pushChar table

theorem pushAll_cons (chars field : List Char) (fields : List (List Char)) (records : Table) :
    pushAll chars ((field :: fields) :: records) = ((chars ++ field) :: fields) :: records := by
  induction chars with
  | nil => rfl
  | cons char chars ih =>
    rw [pushAll, List.foldr_cons, ← pushAll, ih]
    rfl

/-- The characters begin with the end of a field. -/
def EndsField (chars : List Char) : Prop := ∃ char rest, chars = char :: rest ∧
  (char = ',' ∨ char = '\n')

/-- Where a field ends, it does not matter how it was written. -/
theorem readFrom_of_endsField {chars : List Char} (ends : EndsField chars) {place : Place}
    (inside : place = .field ∨ place = .closed) : readFrom place chars = readFrom .bare chars := by
  obtain ⟨char, rest, rfl, rfl | rfl⟩ := ends <;> rcases inside with rfl | rfl <;> rfl

/-- A character without a meaning of its own. -/
theorem plain_cons {char : Char} {field : List Char} :
    needsQuotes (char :: field) = false ↔
      (char ≠ ',' ∧ char ≠ '"' ∧ char ≠ '\n' ∧ char ≠ '\r') ∧ needsQuotes field = false := by
  simp [needsQuotes, and_assoc]

theorem readFrom_plain {char : Char}
    (plain : char ≠ ',' ∧ char ≠ '"' ∧ char ≠ '\n' ∧ char ≠ '\r') (rest : List Char)
    {place : Place} (outside : place ≠ .quoted ∧ place ≠ .closed) :
    readFrom place (char :: rest) = (readFrom .bare rest).map (pushChar char) := by
  obtain ⟨noComma, noQuote, noFeed, noReturn⟩ := plain
  rw [readFrom, if_neg outside.1, if_neg noComma, if_neg (not_or.mpr ⟨noFeed, noReturn⟩),
    if_neg noQuote, if_neg outside.2]

theorem readFrom_bare {field : List Char} (plain : needsQuotes field = false) (rest : List Char) :
    readFrom .bare (field ++ rest) = (readFrom .bare rest).map (pushAll field) := by
  induction field with
  | nil => exact Option.map_id'.symm
  | cons char field ih =>
    obtain ⟨here, others⟩ := plain_cons.mp plain
    rw [List.cons_append, readFrom_plain here _ ⟨by decide, by decide⟩, ih others, Option.map_map]
    rfl

/-- The inside of a field between quotes. -/
theorem readFrom_quoted (field rest : List Char) :
    readFrom .quoted (field.flatMap (fun char => if char = '"' then ['"', '"'] else [char]) ++
        '"' :: rest) = (readFrom .closed rest).map (pushAll field) := by
  induction field with
  | nil => exact Option.map_id'.symm
  | cons char field ih =>
    rw [List.flatMap_cons, List.append_assoc]
    by_cases quote : char = '"'
    · subst quote
      show (readFrom .quoted (_ ++ '"' :: rest)).map (pushChar '"') = _
      rw [ih, Option.map_map]
      rfl
    · rw [if_neg quote, List.singleton_append, readFrom, if_pos rfl, if_neg quote, ih,
        Option.map_map]
      rfl

/-- **A written field** is read back in front of what follows it. -/
theorem WritesField.readFrom_append {field text : List Char} (written : WritesField field text)
    {rest : List Char} (ends : EndsField rest) :
    readFrom .field (text ++ rest) = (readFrom .bare rest).map (pushAll field) := by
  cases written with
  | bare plain =>
    cases field with
    | nil =>
      rw [List.nil_append, readFrom_of_endsField ends (.inl rfl)]
      exact Option.map_id'.symm
    | cons char field =>
      obtain ⟨here, -⟩ := plain_cons.mp plain
      rw [← readFrom_bare plain, List.cons_append, readFrom_plain here _ ⟨by decide, by decide⟩,
        readFrom_plain here _ ⟨by decide, by decide⟩]
  | inQuotes =>
    have opened : quoted field ++ rest = '"' :: (field.flatMap (fun char =>
        if char = '"' then ['"', '"'] else [char]) ++ '"' :: rest) := by
      rw [quoted, List.cons_append, List.append_assoc, List.singleton_append]
    rw [opened]
    show readFrom .quoted _ = _
    rw [readFrom_quoted, readFrom_of_endsField ends (.inr rfl)]

/-! ### Records -/

/-- **A written record** is read back in front of those that follow it. -/
theorem WritesRecord.readFrom_append {record : List (List Char)} {text : List Char}
    (written : WritesRecord record text) (rest : List Char) :
    readFrom .field (text ++ rest) = (readFrom .record rest).map (record :: ·) := by
  induction written with
  | @last field text written =>
    rw [List.append_assoc, List.singleton_append,
      written.readFrom_append ⟨'\n', rest, rfl, .inr rfl⟩]
    show ((readFrom .record rest).map ([[]] :: ·)).map (pushAll field) = _
    rw [Option.map_map]
    refine congrArg (Option.map · _) (funext fun records => ?_)
    rw [Function.comp_apply, pushAll_cons, List.append_nil]
  | @more field text fields others written further ih =>
    rw [List.append_assoc, List.cons_append, written.readFrom_append ⟨',', _, rfl, .inl rfl⟩]
    show ((readFrom .field (others ++ rest)).map pushField).map (pushAll field) = _
    rw [ih, Option.map_map, Option.map_map]
    refine congrArg (Option.map · _) (funext fun records => ?_)
    show pushAll field (([] :: fields) :: records) = _
    rw [pushAll_cons, List.append_nil]

/-- A line that is not empty begins with no line break. -/
theorem WritesField.head {field text : List Char} (written : WritesField field text) {char : Char}
    {rest : List Char} (begins : text = char :: rest) : char ≠ '\n' ∧ char ≠ '\r' := by
  cases written with
  | bare plain =>
    subst begins
    obtain ⟨⟨-, -, noFeed, noReturn⟩, -⟩ := plain_cons.mp plain
    exact ⟨noFeed, noReturn⟩
  | inQuotes =>
    cases begins
    exact ⟨by decide, by decide⟩

theorem WritesRecord.head {record : List (List Char)} {text : List Char}
    (written : WritesRecord record text) (visible : text ≠ ['\n']) :
    ∃ char rest, text = char :: rest ∧ char ≠ '\n' ∧ char ≠ '\r' := by
  cases written with
  | @last field text written =>
    cases text with
    | nil => exact absurd rfl visible
    | cons char text => exact ⟨char, _, rfl, written.head rfl⟩
  | @more field text fields others written further =>
    cases text with
    | nil => exact ⟨',', others, rfl, by decide, by decide⟩
    | cons char text => exact ⟨char, _, rfl, written.head rfl⟩

/-- At the start of a record that is no empty line a field starts. -/
theorem readFrom_record {char : Char} (visible : char ≠ '\n' ∧ char ≠ '\r') (rest : List Char) :
    readFrom .record (char :: rest) = readFrom .field (char :: rest) := by
  have noBreak : ¬ (char = '\n' ∨ char = '\r') := not_or.mpr visible
  simp [readFrom, noBreak]

/-! ### Tables -/

/-- **Whatever is written by the rules is read back.** -/
theorem read?_of_writes {table : Table} {text : List Char} (written : Writes table text) :
    read? text = some table := by
  induction written with
  | nil => rfl
  | cons written visible further ih =>
    obtain ⟨char, rest, rfl, noBreak⟩ := written.head visible
    rw [read?, List.cons_append, readFrom_record noBreak, ← List.cons_append,
      written.readFrom_append, ← read?, ih]
    rfl

/-- Quotes, another line ending, an empty line and empty fields. -/
example : read? "a,\"b,\"\"c\"\"\"\r\n\n,\n".toList =
    some [["a".toList, "b,\"c\"".toList], ["".toList, "".toList]] := by decide

theorem writesField_writeField (field : List Char) : WritesField field (writeField field) := by
  unfold writeField
  split_ifs with special
  · exact .inQuotes
  · exact .bare (Bool.eq_false_iff.mpr special)

theorem writesRecord_intercalate (field : List Char) (fields : List (List Char)) :
    WritesRecord (field :: fields)
      (List.intercalate [','] ((field :: fields).map writeField) ++ ['\n']) := by
  induction fields generalizing field with
  | nil =>
    have single : List.intercalate [','] ([field].map writeField) = writeField field := by
      simp [List.intercalate]
    rw [single]
    exact .last (writesField_writeField field)
  | cons next fields ih =>
    have parts : List.intercalate [','] ((field :: next :: fields).map writeField) ++ ['\n'] =
        writeField field ++ ',' :: (List.intercalate [','] ((next :: fields).map writeField) ++
          ['\n']) := by
      simp [List.intercalate]
    rw [parts]
    exact .more (writesField_writeField field) (ih next)

/-- Only a record with a single field, which is empty, can look like an empty line. -/
theorem WritesRecord.eq_of_blank {record : List (List Char)}
    (written : WritesRecord record ['\n']) : record = [[]] := by
  generalize line : ['\n'] = text at written
  cases written with
  | @last field text written =>
    obtain rfl : text = [] := by simpa using line.symm
    cases written with
    | bare _ => rfl
  | @more field text fields others written further =>
    cases text <;> simp at line

/-- The library writes a record by the rules. -/
theorem writesRecord_writeRecord {record : List (List Char)} (nonempty : record ≠ []) :
    WritesRecord record (writeRecord record) ∧ writeRecord record ≠ ['\n'] := by
  unfold writeRecord
  split
  · exact ⟨.last .inQuotes, by decide⟩
  · next notBlank =>
    cases record with
    | nil => exact absurd rfl nonempty
    | cons field fields =>
      have written := writesRecord_intercalate field fields
      exact ⟨written, fun blank => notBlank (blank ▸ written).eq_of_blank⟩

theorem writeRecords_eq_ok {length : Nat} {records : Table} {text : List Char} :
    writeRecords length records = .ok text ↔
      (∀ record ∈ records, record.length = length) ∧ records.flatMap writeRecord = text := by
  induction records generalizing text with
  | nil => simp [writeRecords]
  | cons record records ih =>
    unfold writeRecords
    split_ifs with same
    · rw [map_eq_ok]
      constructor
      · rintro ⟨others, written, rfl⟩
        obtain ⟨lengths, rfl⟩ := ih.mp written
        exact ⟨List.forall_mem_cons.mpr ⟨same, lengths⟩, rfl⟩
      · rintro ⟨lengths, rfl⟩
        exact ⟨_, ih.mpr ⟨(List.forall_mem_cons.mp lengths).2, rfl⟩, rfl⟩
    · exact iff_of_false (fun failed => by cases failed) fun both =>
        same (List.forall_mem_cons.mp both.1).1

/-- **The library writes by the rules.** -/
theorem writes_flatMap {records : Table} (nonempty : ∀ record ∈ records, record ≠ []) :
    Writes records (records.flatMap writeRecord) := by
  induction records with
  | nil => exact .nil
  | cons record records ih =>
    obtain ⟨here, others⟩ := List.forall_mem_cons.mp nonempty
    obtain ⟨written, visible⟩ := writesRecord_writeRecord here
    exact .cons written visible (ih others)

end Csv

end MultipleShooting
