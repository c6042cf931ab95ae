/-
**Documents in sections.**

A document has titled sections, and a section has keys with lists of values. Titles and keys are in
lower case. Sections of one title are one section, and of two entries with one key the later counts.

* `Document.find?`, `Section.find?`: look-up by title and by key;
* `Document.ofEntries`: the document of a list of titled lists of entries.
-/
import MultipleShooting.Document.Value

namespace MultipleShooting

/-- Keys with their values, in the order in which the keys first occur. -/
abbrev Section := List (String × List Value)

/-- Titles with their sections, in the order in which the titles first occur. -/
abbrev Document := List (String × Section)

/-- A list of pairs in which the value of a key is replaced by `change` of it, or of `fresh` where
the key is new. -/
def putPair {β : Type} (key : String) (fresh : β) (change : β → β) :
    List (String × β) → List (String × β)
  | [] => [(key, change fresh)]
  | (other, value) :: pairs =>
    if other = key then (other, change value) :: pairs
    else (other, value) :: putPair key fresh change pairs

/-- The value of a key in a list of pairs. -/
def findPair? {β : Type} (key : String) : List (String × β) → Option β
  | [] => none
  | (other, value) :: pairs => if other = key then some value else findPair? key pairs

/-- What is found under a key after its value has been changed. -/
theorem findPair?_putPair {β : Type} (key sought : String) (fresh : β) (change : β → β)
    (pairs : List (String × β)) :
    findPair? sought (putPair key fresh change pairs) =
      if sought = key then some (change ((findPair? key pairs).getD fresh))
      else findPair? sought pairs := by
  induction pairs with
  | nil => simp [putPair, findPair?, eq_comm]
  | cons pair pairs ih =>
    obtain ⟨other, value⟩ := pair
    by_cases here : other = key
    · subst here
      by_cases same : sought = other
      · simp [putPair, findPair?, same]
      · simp [putPair, findPair?, same, Ne.symm same]
    · by_cases found : other = sought
      · subst found
        simp [putPair, findPair?, here]
      · simp [putPair, findPair?, here, found, ih]

/-- A section with an entry added; an earlier entry of the same key gives way. -/
def Section.put (entries : Section) (entry : String × List Value) : Section :=
  putPair entry.1 [] (fun _ => entry.2) entries

/-- The values of a key. -/
def Section.find? (entries : Section) (key : String) : Option (List Value) := findPair? key entries

namespace Document

/-- The section of a title. -/
def find? (document : Document) (title : String) : Option Section := findPair? title document

/-- A document with entries added to the section of a title. -/
def put (document : Document) (titled : String × List (String × List Value)) : Document :=
  putPair titled.1 [] (fun entries => titled.2.foldl Section.put entries) document

/-- The document of titled lists of entries. -/
def ofEntries (titled : List (String × List (String × List Value))) : Document :=
  titled.foldl put []

end Document

end MultipleShooting
