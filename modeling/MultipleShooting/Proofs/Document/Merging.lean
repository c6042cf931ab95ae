/-
**Sections and entries are merged.**

* `Section.find?_foldl_put`: of several entries with one key the last one counts;
* `Document.find?_ofEntries`: the section of a title has the entries of all lists with this title,
  in their order, and there is none if no list has it;
* `Document.nodup_ofEntries`: no title and no key of a section is listed twice.
-/
import MultipleShooting.Document.Basic
import Mathlib

namespace MultipleShooting

/-! ### Keys of pairs -/

section Pairs

variable {β : Type} {key : String} {fresh : β} {change : β → β} {pairs : List (String × β)}

theorem map_fst_putPair :
    (putPair key fresh change pairs).map Prod.fst =
      if key ∈ pairs.map Prod.fst then pairs.map Prod.fst else pairs.map Prod.fst ++ [key] := by
  induction pairs with
  | nil => rfl
  | cons pair pairs ih =>
    obtain ⟨other, value⟩ := pair
    unfold putPair
    by_cases here : other = key
    · simp [here]
    · simp only [if_neg here, List.map_cons, ih, List.mem_cons, Ne.symm here, false_or]
      split_ifs <;> rfl

theorem nodup_putPair (distinct : (pairs.map Prod.fst).Nodup) :
    ((putPair key fresh change pairs).map Prod.fst).Nodup := by
  rw [map_fst_putPair]
  split_ifs with known
  · exact distinct
  · exact List.nodup_append.mpr ⟨distinct, List.nodup_singleton key,
      fun other among _ last same => known (List.mem_singleton.mp last ▸ same ▸ among)⟩

/-- What holds of all values holds after one of them has been changed accordingly. -/
theorem forall_putPair (property : β → Prop) (every : ∀ pair ∈ pairs, property pair.2)
    (new : property fresh) (kept : ∀ value, property value → property (change value)) :
    ∀ pair ∈ putPair key fresh change pairs, property pair.2 := by
  induction pairs with
  | nil =>
    intro pair among
    rw [List.mem_singleton.mp among]
    exact kept fresh new
  | cons first pairs ih =>
    obtain ⟨other, value⟩ := first
    obtain ⟨here, every⟩ := List.forall_mem_cons.mp every
    unfold putPair
    split_ifs
    · exact List.forall_mem_cons.mpr ⟨kept value here, every⟩
    · exact List.forall_mem_cons.mpr ⟨here, ih every⟩

end Pairs

/-! ### Sections -/

namespace Section

variable {start : Section} {entries : List (String × List Value)}

/-- **The last entry of a key counts.** -/
theorem find?_foldl_put (key : String) : (entries.foldl Section.put start).find? key =
    ((entries.reverse.find? fun entry => entry.1 = key).map Prod.snd).or (start.find? key) := by
  induction entries using List.reverseRecOn with
  | nil => rfl
  | append_singleton entries last ih =>
    rw [List.foldl_append, List.foldl_cons, List.foldl_nil, List.reverse_append,
      List.reverse_singleton, List.singleton_append, List.find?_cons, Section.find?, Section.put,
      findPair?_putPair]
    by_cases same : last.1 = key
    · simp [same]
    · rw [if_neg (Ne.symm same), decide_eq_false same]
      exact ih

theorem nodup_foldl_put (distinct : (start.map Prod.fst).Nodup) :
    ((entries.foldl Section.put start).map Prod.fst).Nodup := by
  induction entries generalizing start with
  | nil => exact distinct
  | cons entry entries ih => exact ih (nodup_putPair distinct)

end Section

/-! ### Documents -/

namespace Document

variable {titled : List (String × List (String × List Value))}

/-- The entries of all lists with a title. -/
def entriesOf (titled : List (String × List (String × List Value))) (title : String) :
    List (String × List Value) :=
  (titled.filter fun part => part.1 = title).flatMap Prod.snd

theorem ofEntries_append (last : String × List (String × List Value)) :
    ofEntries (titled ++ [last]) = (ofEntries titled).put last := by
  unfold ofEntries
  rw [List.foldl_append, List.foldl_cons, List.foldl_nil]

theorem entriesOf_append (last : String × List (String × List Value)) (title : String) :
    entriesOf (titled ++ [last]) title =
      entriesOf titled title ++ if last.1 = title then last.2 else [] := by
  rw [entriesOf, List.filter_append, List.flatMap_append, ← entriesOf, List.filter_singleton]
  by_cases same : last.1 = title <;> simp [same]

theorem entriesOf_eq_nil {title : String} (absent : title ∉ titled.map Prod.fst) :
    entriesOf titled title = [] := by
  refine List.flatMap_eq_nil_iff.mpr fun part kept => ?_
  obtain ⟨among, same⟩ := List.mem_filter.mp kept
  exact absurd (List.mem_map.mpr ⟨part, among, of_decide_eq_true same⟩) absent

/-- **The section of a title** has the entries of all lists with this title. -/
theorem find?_ofEntries (title : String) : (ofEntries titled).find? title =
    if title ∈ titled.map Prod.fst then some ((entriesOf titled title).foldl Section.put [])
    else none := by
  induction titled using List.reverseRecOn with
  | nil => rfl
  | append_singleton titled last ih =>
    rw [ofEntries_append, entriesOf_append, find?, put, findPair?_putPair, ← find?, ← find?]
    by_cases same : title = last.1
    · subst same
      have earlier : ((ofEntries titled).find? last.1).getD [] =
          (entriesOf titled last.1).foldl Section.put [] := by
        rw [ih]
        split_ifs with known
        · rfl
        · rw [entriesOf_eq_nil known]
          rfl
      rw [if_pos rfl, if_pos rfl, earlier, List.foldl_append, if_pos (by simp)]
    · rw [if_neg same, if_neg (Ne.symm same), List.append_nil, ih]
      refine if_congr ?_ rfl rfl
      rw [List.map_append, List.mem_append, List.map_singleton, List.mem_singleton,
        or_iff_left same]

/-- No title is listed twice, and no key of a section is. -/
theorem nodup_ofEntries : ((ofEntries titled).map Prod.fst).Nodup ∧
    ∀ part ∈ ofEntries titled, (part.2.map Prod.fst).Nodup := by
  unfold ofEntries
  induction titled using List.reverseRecOn with
  | nil => exact ⟨List.nodup_nil, fun _ among => by cases among⟩
  | append_singleton titled last ih =>
    rw [List.foldl_append, List.foldl_cons, List.foldl_nil]
    refine ⟨nodup_putPair ih.1, ?_⟩
    exact forall_putPair (fun entries : Section => (entries.map Prod.fst).Nodup) ih.2
      List.nodup_nil fun _ => Section.nodup_foldl_put

end Document

end MultipleShooting
