/-
**Names read from a list with commas.**

Names that are written with commas between them are read back exactly when each of them is plain:
it has no comma, and no blank at either end (`symbolNames_intercalate_iff`). An empty name is never
read back, and all names that are read are plain (`isPlain_of_mem_symbolNames`).
-/
import MultipleShooting.Expr.Basic
import MultipleShooting.Proofs.Text.Blank

namespace MultipleShooting

/-- A name without comma that has no blank at either end. -/
def IsPlain (name : String) : Prop := ',' ∉ name.toList ∧ Text.trim name.toList = name.toList

instance (name : String) : Decidable (IsPlain name) := instDecidableAnd

theorem splitAtCommas_eq (text : List Char) : splitAtCommas text = text.splitOn ',' := by
  induction text with
  | nil => exact (List.splitOn_nil ',').symm
  | cons char text ih =>
    unfold splitAtCommas at ih ⊢
    rw [List.foldr_cons, ih, List.splitOn_cons_eq_if_modifyHead]
    cases parts : text.splitOn ',' with
    | nil => exact absurd parts (List.splitOn_ne_nil ',' text)
    | cons part others => simp only [beq_iff_eq, List.modifyHead_cons]

theorem comma_notMem_of_mem_splitAtCommas {text part : List Char}
    (among : part ∈ splitAtCommas text) : ',' ∉ part := by
  induction text generalizing part with
  | nil =>
    rw [List.mem_singleton.mp among]
    exact List.not_mem_nil
  | cons char text ih =>
    rw [splitAtCommas_eq, List.splitOn_cons_eq_if_modifyHead, ← splitAtCommas_eq] at among
    split_ifs at among with comma
    · rcases List.mem_cons.mp among with rfl | among
      · exact List.not_mem_nil
      · exact ih among
    · cases parts : splitAtCommas text with
      | nil =>
        rw [parts] at among
        cases among
      | cons first others =>
        rw [parts, List.modifyHead_cons] at among
        rcases List.mem_cons.mp among with rfl | among
        · rw [List.mem_cons, not_or]
          exact ⟨fun same => comma (beq_iff_eq.mpr same.symm),
            ih (parts ▸ List.mem_cons_self)⟩
        · exact ih (parts ▸ List.mem_cons_of_mem _ among)

/-- All names that are read are plain. -/
theorem isPlain_of_mem_symbolNames {text name : String} (among : name ∈ symbolNames text) :
    IsPlain name := by
  obtain ⟨_, kept, rfl⟩ := List.mem_map.mp among
  obtain ⟨part, cut, rfl⟩ := List.mem_map.mp (List.mem_of_mem_filter kept)
  rw [IsPlain, String.toList_ofList]
  exact ⟨fun comma => comma_notMem_of_mem_splitAtCommas cut ((Text.trim_sublist part).mem comma),
    Text.trim_trim part⟩

/-- **Plain names are read back.** -/
theorem symbolNames_intercalate {names : List String} (named : ∀ name ∈ names, name ≠ "")
    (plain : ∀ name ∈ names, IsPlain name) :
    symbolNames (String.intercalate "," names) = names := by
  cases names with
  | nil => rfl
  | cons first others =>
    have cut : splitAtCommas (String.intercalate "," (first :: others)).toList =
        (first :: others).map String.toList := by
      rw [splitAtCommas_eq, String.toList_intercalate]
      refine List.splitOn_intercalate ',' ?_ (by simp)
      intro part among
      obtain ⟨name, listed, rfl⟩ := List.mem_map.mp among
      exact (plain name listed).1
    have trimmed : ((first :: others).map String.toList).map Text.trim =
        (first :: others).map String.toList := by
      rw [List.map_map]
      exact List.map_congr_left fun name among => (plain name among).2
    have kept : ((first :: others).map String.toList).filter (· ≠ []) =
        (first :: others).map String.toList := by
      refine List.filter_eq_self.mpr fun part among => ?_
      obtain ⟨name, listed, rfl⟩ := List.mem_map.mp among
      simpa using named name listed
    rw [symbolNames, cut, trimmed, kept, List.map_map]
    refine (List.map_congr_left fun name _ => ?_).trans (List.map_id _)
    exact String.ofList_toList

/-- **Names are read back exactly when they are plain.** -/
theorem symbolNames_intercalate_iff {names : List String} (named : ∀ name ∈ names, name ≠ "") :
    symbolNames (String.intercalate "," names) = names ↔ ∀ name ∈ names, IsPlain name := by
  constructor
  · intro same name among
    rw [← same] at among
    exact isPlain_of_mem_symbolNames among
  · exact symbolNames_intercalate named

end MultipleShooting
