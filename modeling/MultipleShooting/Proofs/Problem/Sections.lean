/-
**The sections of a problem's document.**

In the document of written sections a key has the values of its last entry
(`Problem.values?_partOf`). Sections with one entry for each key that is written, no key twice, give
each key its tokens (`Problem.rel_sectionsOf`).

If the tokens of a key write something, then each typed access to the key gives what they write: a
key that may be left out (`Problem.optional_eq_ok`) and one that has to be there
(`Problem.mandatory_eq_ok`), with a list of numbers (`Problem.numbers_eq_ok`) or a single value
(`Problem.singleAs_eq_ok`).
-/
import MultipleShooting.Proofs.Document.Reading
import MultipleShooting.Proofs.Document.Typed

namespace MultipleShooting

open Document

namespace Problem

variable {sections : List WrittenSection} {title key : String} {tokens : List Token}

/-! ### Keys -/

/-- The tokens of a key in the sections of a title: those of its last entry. -/
def tokensOf? (sections : List WrittenSection) (title key : String) : Option (List Token) :=
  (lastOfKey? sections title key).map WrittenEntry.tokens

/-- The document of written sections. -/
def documentOf (sections : List WrittenSection) : Document :=
  ofEntries (sections.map WrittenSection.read)

/-- The part of that document under a title. -/
def partOf (sections : List WrittenSection) (title : String) : ProblemSection :=
  ProblemSection.ofTitle (documentOf sections) title

theorem ofTitle_documentOf (sections : List WrittenSection) (title : String) :
    ProblemSection.ofTitle (documentOf sections) title = partOf sections title := rfl

theorem find?_documentOf (sections : List WrittenSection) (title : String) :
    (documentOf sections).find? title =
      if title ∈ sections.map (·.title.lower) then
        some ((entriesOf (sections.map WrittenSection.read) title).foldl Section.put [])
      else none := by
  rw [documentOf, find?_ofEntries, List.map_map]
  rfl

/-- A title with a key is among the titles. -/
theorem mem_titles_of_lastOfKey? {entry : WrittenEntry}
    (found : lastOfKey? sections title key = some entry) :
    title ∈ sections.map (·.title.lower) := by
  have among := List.mem_reverse.mp (List.mem_of_find?_eq_some found)
  obtain ⟨written, kept, -⟩ := List.mem_flatMap.mp among
  obtain ⟨listed, same⟩ := List.mem_filter.mp kept
  exact List.mem_map.mpr ⟨written, listed, of_decide_eq_true same⟩

/-- **The values of a key** are those of its last entry. -/
theorem values?_partOf (sections : List WrittenSection) (title key : String) :
    (partOf sections title).values? key =
      (tokensOf? sections title key).map (List.map Token.value) := by
  have read := find?_read sections title key
  rw [partOf, ProblemSection.values?, ProblemSection.ofTitle, find?_documentOf, tokensOf?,
    Option.map_map]
  split_ifs with known
  · exact read
  · have unlisted : lastOfKey? sections title key = none :=
      Option.eq_none_iff_forall_ne_some.mpr fun _ found => known (mem_titles_of_lastOfKey? found)
    rw [unlisted]
    rfl

/-- A title with a key has a part of the document. -/
theorem required_eq_ok (present : tokensOf? sections title key = some tokens) :
    ProblemSection.required (documentOf sections) title = .ok (partOf sections title) := by
  obtain ⟨entry, found, -⟩ := Option.map_eq_some_iff.mp present
  rw [ProblemSection.required, partOf, ProblemSection.ofTitle, find?_documentOf,
    if_pos (mem_titles_of_lastOfKey? found)]
  rfl

/-! ### A section for each key -/

/-- A key that may be written: its title, its name and its tokens. -/
structure PossibleEntry where
  title : Word
  key : Word
  tokens? : Option (List Token)

/-- A section of one entry for each key that is written. -/
def sectionsOf (entries : List PossibleEntry) : List WrittenSection :=
  entries.filterMap fun entry => entry.tokens?.map fun tokens =>
    ⟨entry.title, [⟨entry.key, tokens⟩], List.cons_ne_nil _ _⟩

/-- The last entry of a key in some sections and others after them. -/
theorem lastOfKey?_append (first second : List WrittenSection) (title key : String) :
    lastOfKey? (first ++ second) title key =
      (lastOfKey? second title key).or (lastOfKey? first title key) := by
  rw [lastOfKey?, List.filter_append, List.flatMap_append, List.reverse_append, List.find?_append]
  rfl

/-- The only entry of a section. -/
theorem lastOfKey?_singleton (written : Word) (entry : WrittenEntry) (title key : String) :
    lastOfKey? [⟨written, [entry], List.cons_ne_nil _ _⟩] title key =
      if written.lower = title ∧ entry.key.lower = key then some entry else none := by
  by_cases titled : written.lower = title
  · by_cases keyed : entry.key.lower = key <;> simp [lastOfKey?, titled, keyed]
  · simp [lastOfKey?, titled]

/-- A key has the tokens of the entries after the first, or else those of the first. -/
theorem tokensOf?_cons (entry : PossibleEntry) (entries : List PossibleEntry)
    (title key : String) : tokensOf? (sectionsOf (entry :: entries)) title key =
      (tokensOf? (sectionsOf entries) title key).or
        (if entry.title.lower = title ∧ entry.key.lower = key then entry.tokens? else none) := by
  obtain ⟨written, name, tokens?⟩ := entry
  cases tokens? with
  | none =>
    rw [ite_self, Option.or_none]
    rfl
  | some tokens =>
    have parted : sectionsOf (⟨written, name, some tokens⟩ :: entries) =
        [⟨written, [⟨name, tokens⟩], List.cons_ne_nil _ _⟩] ++ sectionsOf entries := rfl
    rw [parted, tokensOf?, lastOfKey?_append, lastOfKey?_singleton, tokensOf?]
    cases lastOfKey? (sectionsOf entries) title key with
    | some entry => rfl
    | none =>
      rw [Option.none_or, Option.map_none, Option.none_or]
      split_ifs <;> rfl

theorem tokensOf?_eq_none {entries : List PossibleEntry}
    (others : ∀ entry ∈ entries, ¬ (entry.title.lower = title ∧ entry.key.lower = key)) :
    tokensOf? (sectionsOf entries) title key = none := by
  induction entries with
  | nil => rfl
  | cons first entries ih =>
    obtain ⟨other, others⟩ := List.forall_mem_cons.mp others
    rw [tokensOf?_cons, ih others, if_neg other, Option.or_none]

/-- **Each key has its tokens**, if no two entries have the same key. -/
theorem tokensOf?_sectionsOf {entries : List PossibleEntry}
    (distinct : (entries.map fun entry => (entry.title.lower, entry.key.lower)).Nodup)
    {entry : PossibleEntry} (among : entry ∈ entries) :
    tokensOf? (sectionsOf entries) entry.title.lower entry.key.lower = entry.tokens? := by
  induction entries with
  | nil => cases among
  | cons first entries ih =>
    rw [List.map_cons, List.nodup_cons] at distinct
    obtain ⟨fresh, distinct⟩ := distinct
    rw [tokensOf?_cons]
    rcases List.mem_cons.mp among with rfl | among
    · have others : ∀ other ∈ entries,
          ¬ (other.title.lower = entry.title.lower ∧ other.key.lower = entry.key.lower) :=
        fun other listed same =>
          fresh (List.mem_map.mpr ⟨other, listed, Prod.ext same.1 same.2⟩)
      rw [tokensOf?_eq_none others, if_pos ⟨rfl, rfl⟩, Option.none_or]
    · have other : ¬ (first.title.lower = entry.title.lower ∧ first.key.lower = entry.key.lower) :=
        fun same => fresh (List.mem_map.mpr ⟨entry, among, Prod.ext same.1.symm same.2.symm⟩)
      rw [ih distinct among, if_neg other, Option.or_none]

/-- What the tokens at a place of the list write, they write under their key. -/
theorem rel_sectionsOf {entries : List PossibleEntry} {entry : PossibleEntry} {β : Type}
    {writes : List Token → β → Prop} {value? : Option β}
    (distinct : (entries.map fun entry => (entry.title.lower, entry.key.lower)).Nodup) (index : ℕ)
    (found : entries[index]? = some entry) (titled : entry.title.lower = title)
    (keyed : entry.key.lower = key) (written : Option.Rel writes entry.tokens? value?) :
    Option.Rel writes (tokensOf? (sectionsOf entries) title key) value? := by
  rw [← titled, ← keyed, tokensOf?_sectionsOf distinct (List.mem_of_getElem? found)]
  exact written

/-! ### Keys that are left out, and keys that are there -/

section Keys

variable {β : Type} {writes : List Token → β → Prop} {read : List Value → Outcome Float β}
  {written? : Option β} {value : β}

/-- **A key that may be left out.** -/
theorem optional_eq_ok (written : Option.Rel writes (tokensOf? sections title key) written?)
    (reads : ∀ tokens value, written? = some value → writes tokens value →
      read (tokens.map Token.value) = .ok value) :
    (partOf sections title).optional key read = .ok written? := by
  rw [ProblemSection.optional, values?_partOf]
  generalize tokensOf? sections title key = tokens? at written
  cases written with
  | none => rfl
  | some one =>
    simp only [Option.map_some, reads _ _ rfl one]
    rfl

/-- **A key that has to be there.** -/
theorem mandatory_eq_ok
    (written : Option.Rel writes (tokensOf? sections title key) (some value)) :
    ∃ tokens, tokensOf? sections title key = some tokens ∧ writes tokens value ∧
      (partOf sections title).values key = .ok (tokens.map Token.value) := by
  rw [ProblemSection.values, values?_partOf]
  generalize tokensOf? sections title key = tokens? at written
  cases written with
  | some one => exact ⟨_, rfl, one, rfl⟩

end Keys

/-! ### Values of a kind -/

/-- The tokens of a list of numbers. -/
def WritesNumbers (tokens : List Token) (numbers : List Float) : Prop :=
  List.Forall₂ (fun token => WritesNumber token.chars) tokens numbers

/-- A single token that writes something. -/
def WritesSingle {β : Type} (writes : List Char → β → Prop) (tokens : List Token) (value : β) :
    Prop := ∃ token, tokens = [token] ∧ writes token.chars value

variable {part : ProblemSection}

/-- **A list of numbers.** -/
theorem numbers_eq_ok {numbers : List Float} (written : WritesNumbers tokens numbers) :
    part.numbers key (tokens.map Token.value) = .ok numbers := by
  have read : (tokens.map Token.value).mapM Value.asFloat? = some numbers := by
    induction written with
    | nil => rfl
    | cons first _ ih =>
      rw [List.map_cons, List.mapM_cons, Token.value, asFloat?_ofToken first, ih]
      rfl
  rw [ProblemSection.numbers, read]

/-- **A single value.** -/
theorem singleAs_eq_ok {β : Type} {writes : List Char → β → Prop} {read? : Value → Option β}
    {expected : String} {value : β} (written : WritesSingle writes tokens value)
    (reads : ∀ token, writes token value → read? (Value.ofToken token) = some value) :
    part.singleAs key expected read? (tokens.map Token.value) = .ok value := by
  obtain ⟨token, rfl, one⟩ := written
  rw [ProblemSection.singleAs, List.map_singleton, ProblemSection.single]
  simp only [Token.value, reads _ one]

theorem number_eq_ok {value : Float} (written : WritesSingle WritesNumber tokens value) :
    part.number key (tokens.map Token.value) = .ok value :=
  singleAs_eq_ok written fun _ one => asFloat?_ofToken one

theorem count_eq_ok {count : ℕ} (small : count < 0x8000000000000000)
    (written : WritesSingle WritesCount tokens count) :
    part.count key (tokens.map Token.value) = .ok count :=
  singleAs_eq_ok written fun _ one => natural?_ofToken one small

/-- A count that does not fit in 64 signed bits is refused. -/
theorem count_ne_ok {count : ℕ} (large : 0x8000000000000000 ≤ count)
    (written : WritesSingle WritesCount tokens count) (answer : ℕ) :
    part.count key (tokens.map Token.value) ≠ .ok answer := by
  obtain ⟨token, rfl, one⟩ := written
  rw [ProblemSection.count, ProblemSection.singleAs, List.map_singleton, ProblemSection.single]
  simp only [Token.value, natural?_ofToken_of_large one large]
  exact fun same => by cases same

theorem flag_eq_ok {flag : Bool} (written : WritesSingle WritesFlag tokens flag) :
    part.flag key (tokens.map Token.value) = .ok flag :=
  singleAs_eq_ok written fun _ one => asBoolean?_ofToken one

/-! ### Values of a kind that may be left out -/

theorem optionalNumbers_eq_ok {numbers? : Option (List Float)}
    (written : Option.Rel WritesNumbers (tokensOf? sections title key) numbers?) :
    (partOf sections title).optional key ((partOf sections title).numbers key) = .ok numbers? :=
  optional_eq_ok written fun _ _ _ list => numbers_eq_ok list

theorem optionalNumber_eq_ok {value? : Option Float}
    (written : Option.Rel (WritesSingle WritesNumber) (tokensOf? sections title key) value?) :
    (partOf sections title).optional key ((partOf sections title).number key) = .ok value? :=
  optional_eq_ok written fun _ _ _ single => number_eq_ok single

theorem optionalCount_eq_ok {count? : Option ℕ}
    (small : ∀ count ∈ count?, count < 0x8000000000000000)
    (written : Option.Rel (WritesSingle WritesCount) (tokensOf? sections title key) count?) :
    (partOf sections title).optional key ((partOf sections title).count key) = .ok count? :=
  optional_eq_ok written fun _ _ among single => count_eq_ok (small _ among) single

theorem optionalFlag_eq_ok {flag? : Option Bool}
    (written : Option.Rel (WritesSingle WritesFlag) (tokensOf? sections title key) flag?) :
    (partOf sections title).optional key ((partOf sections title).flag key) = .ok flag? :=
  optional_eq_ok written fun _ _ _ single => flag_eq_ok single

end Problem

end MultipleShooting
