/-
**Blocks that keep to their rows.**

A list of places can make a pattern without being listed row by row. Suppose that it ends in blocks,
one for each of the last rows, and that no block begins in a column beyond the end of the block
before it (`Restarts`). Then no place before the blocks reaches into their rows
(`Restarts.rows_lt`): such a row would hold the end of one block and the beginning of the next, and
its columns would not increase. So a row of the pattern holds

* places before the blocks and nothing else (`Pattern.rowOf_before`), or
* its own block (`Pattern.rowOf_after`).
-/
import MultipleShooting.Proofs.Linear.Compressed

namespace MultipleShooting

variable {m n : Nat}

/-! ### Valid patterns -/

theorem pairwise_of_increases {values : List Nat} (ordered : increases values = true) :
    values.Pairwise (· < ·) := by
  refine List.isChain_iff_pairwise.mp ?_
  induction values with
  | nil => exact .nil
  | cons first values ih =>
    cases values with
    | nil => exact .singleton first
    | cons second others =>
      unfold increases at ordered
      rw [Bool.and_eq_true, decide_eq_true_eq] at ordered
      exact .cons_cons ordered.1 (ih ordered.2)

namespace Pattern

/-- **What makes a pattern**: places in rows of the matrix, with increasing columns in each row. -/
theorem of_ofPlaces?_eq_some {places : List (Nat × Nat)} {pattern : Pattern m n}
    (valid : ofPlaces? m n places = some pattern) :
    pattern = ofPlaces m n places ∧ (∀ place ∈ places, place.1 < m) ∧
      ∀ row < m, ((ofPlaces m n places).rowOf row (places.map (·.2))).Pairwise (· < ·) := by
  change (if places.all (·.1 < m) && (ofPlaces m n places).isValid then
    some (ofPlaces m n places) else none) = some pattern at valid
  split_ifs at valid with checked
  rw [Bool.and_eq_true] at checked
  refine ⟨(Option.some.inj valid).symm, ?_, ?_⟩
  · intro place among
    exact of_decide_eq_true (List.all_eq_true.mp checked.1 place among)
  · intro row inside
    have ordered := List.all_eq_true.mp checked.2 row (List.mem_range.mpr inside)
    exact pairwise_of_increases (Bool.and_eq_true _ _ ▸ ordered).1

/-! ### Rows of a list in two parts -/

section Parts

variable {β γ : Type} {places : List (Nat × Nat)} {row : Nat} {before after : List β}
  (key : β → Nat)

/-- **A row before those of the later items** holds earlier items only. -/
theorem rowOf_before (inside : row < m) (f : β → γ)
    (keys : (before ++ after).map key = places.map (·.1)) (later : ∀ item ∈ after, row < key item) :
    (ofPlaces m n places).rowOf row ((before ++ after).map f) =
      ((before.drop (before.countP fun item => key item < row)).take
        (before.countP fun item => key item == row)).map f := by
  have noneBelow : (after.countP fun item => key item < row) = 0 :=
    List.countP_eq_zero.mpr fun item among => by
      have beyond := later item among
      simp only [decide_eq_true_eq]
      omega
  have noneHere : (after.countP fun item => key item == row) = 0 :=
    List.countP_eq_zero.mpr fun item among => by
      have beyond := later item among
      simp only [beq_iff_eq]
      omega
  have fits : (before.countP fun item => key item < row) +
      (before.countP fun item => key item == row) ≤ before.length := by
    rw [← countP_lt_succ]
    exact List.countP_le_length
  rw [rowOf_eq_take_drop inside f keys, List.countP_append, List.countP_append, noneBelow, noneHere,
    Nat.add_zero, Nat.add_zero, List.drop_append_of_le_length (by omega),
    List.take_append_of_le_length (by rw [List.length_drop]; omega)]

/-- **A row after those of the earlier items** holds the later items with its number. -/
theorem rowOf_after (inside : row < m) (f : β → γ)
    (keys : (before ++ after).map key = places.map (·.1))
    (earlier : ∀ item ∈ before, key item < row)
    (sorted : after.Pairwise fun item next => key item ≤ key next) :
    (ofPlaces m n places).rowOf row ((before ++ after).map f) =
      (after.filter fun item => key item == row).map f := by
  have allBelow : (before.countP fun item => key item < row) = before.length :=
    List.countP_eq_length.mpr fun item among => decide_eq_true (earlier item among)
  have noneHere : (before.countP fun item => key item == row) = 0 :=
    List.countP_eq_zero.mpr fun item among => by
      have below := earlier item among
      simp only [beq_iff_eq]
      omega
  rw [rowOf_eq_take_drop inside f keys, List.countP_append, List.countP_append, allBelow, noneHere,
    Nat.zero_add, List.drop_length_add_append, take_drop_countP sorted]

end Parts

end Pattern

/-! ### Blocks -/

/-- The second list begins in a column not beyond the end of the first. -/
def Meets (before block : List (Nat × Nat)) : Prop :=
  ∀ last ∈ before.getLast?, ∀ first ∈ block.head?, first.2 ≤ last.2

/-- The end of one block and the beginning of the next do not stand in one row, so the places before
a block do not reach into its row. -/
theorem rows_lt_of_increases {before block after : List (Nat × Nat)} {row : Nat} (inside : row < m)
    (filled : block ≠ []) (here : ∀ place ∈ block, place.1 = row)
    (beyond : ∀ place ∈ after, row < place.1) (upTo : ∀ place ∈ before, place.1 < row + 1)
    (meets : Meets before block)
    (ordered : ((Pattern.ofPlaces m n (before ++ block ++ after)).rowOf row
      ((before ++ block ++ after).map (·.2))).Pairwise (· < ·)) :
    ∀ place ∈ before, place.1 < row := by
  intro place among
  by_contra reached
  have touched : 0 < before.countP fun place => place.1 == row :=
    List.countP_pos_iff.mpr ⟨place, among, beq_iff_eq.mpr (by have := upTo place among; omega)⟩
  have counted : (before.countP fun place => place.1 < row) +
      (before.countP fun place => place.1 == row) = before.length := by
    rw [← Pattern.countP_lt_succ]
    exact List.countP_eq_length.mpr fun other listed => decide_eq_true (upTo other listed)
  have below : ((before ++ block).countP fun place => place.1 < row) =
      before.countP fun place => place.1 < row := by
    rw [List.countP_append, Nat.add_eq_left]
    exact List.countP_eq_zero.mpr fun other listed => by simp [here other listed]
  have own : ((before ++ block).countP fun place => place.1 == row) =
      (before.countP fun place => place.1 == row) + block.length := by
    rw [List.countP_append, Nat.add_left_cancel_iff]
    exact List.countP_eq_length.mpr fun other listed => by simp [here other listed]
  obtain rfl | ⟨earlier, last, rfl⟩ := before.eq_nil_or_concat'
  · cases among
  obtain ⟨first, others, rfl⟩ := List.exists_cons_of_ne_nil filled
  rw [List.length_append, List.length_singleton] at counted
  have complete : ((earlier ++ [last] ++ first :: others).drop
      ((earlier ++ [last]).countP fun place => place.1 < row)).length ≤
      ((earlier ++ [last]).countP fun place => place.1 == row) + (first :: others).length := by
    rw [List.length_drop, List.length_append, List.length_append, List.length_singleton]
    omega
  -- The row holds everything from its first place before the block to the end of the block.
  rw [Pattern.rowOf_before Prod.fst inside (·.2) rfl beyond, below, own,
    List.take_of_length_le complete, List.append_assoc, List.drop_append_of_le_length (by omega),
    List.singleton_append, List.map_append, List.map_cons, List.map_cons] at ordered
  have rises := (List.pairwise_cons.mp (List.pairwise_append.mp ordered).2.1).1 first.2
    List.mem_cons_self
  exact absurd rises (Nat.not_lt.mpr (meets last List.getLast?_concat first rfl))

/-- Blocks of places in the rows from a first one on, none of which begins in a column beyond the
end of the block before it. -/
structure Restarts (row : Nat) (block : Nat → List (Nat × Nat)) : Prop where
  filled : ∀ j, block j ≠ []
  rows : ∀ j, ∀ place ∈ block j, place.1 = row + j
  meets : ∀ j, Meets (block j) (block (j + 1))

namespace Restarts

variable {row : Nat} {block : Nat → List (Nat × Nat)} {places : List (Nat × Nat)}

/-- **Places before the blocks keep to the rows before them.** The induction is on the number of
blocks: what stands before the later blocks keeps to the rows before theirs, and the first block
then ends the rows of what stands before it. -/
theorem rows_lt (restarts : Restarts row block) (inRows : ∀ place ∈ places, place.1 < m)
    (ordered : ∀ row < m, ((Pattern.ofPlaces m n places).rowOf row
      (places.map (·.2))).Pairwise (· < ·)) {count start : Nat} (last : row + start + count = m)
    {before : List (Nat × Nat)}
    (listed : before ++ (List.range' start count).flatMap block = places)
    (meets : Meets before (block start)) :
    ∀ place ∈ before, place.1 < row + start := by
  induction count generalizing start before with
  | zero =>
    intro place among
    have inside := inRows place (listed ▸ List.mem_append_left _ among)
    omega
  | succ count ih =>
    rw [List.range'_succ, List.flatMap_cons] at listed
    have later (place : Nat × Nat) (among : place ∈ (List.range' (start + 1) count).flatMap block) :
        row + start < place.1 := by
      obtain ⟨j, inside, among⟩ := List.mem_flatMap.mp among
      have beyond := List.left_le_of_mem_range' inside
      rw [restarts.rows j place among]
      omega
    have next : Meets (before ++ block start) (block (start + 1)) := by
      rw [Meets, List.getLast?_append_of_ne_nil _ (restarts.filled start)]
      exact restarts.meets start
    have upTo : ∀ place ∈ before ++ block start, place.1 < row + (start + 1) :=
      ih (by omega) ((List.append_assoc _ _ _).trans listed) next
    subst listed
    refine rows_lt_of_increases (m := m) (n := n) (by omega) (restarts.filled start)
      (restarts.rows start) later (fun place among => upTo place (List.mem_append_left _ among))
      meets ?_
    rw [List.append_assoc]
    exact ordered (row + start) (by omega)

end Restarts

end MultipleShooting
