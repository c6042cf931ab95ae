/-
**The entries of the constraint Jacobian.**

In any arithmetic, places and values of the stored entries run in step:

* `Shooting.places_eq`, `Shooting.mem_places_linkRow`: the places, row by row;
* `Shooting.zip_places_jacobianValues`: each place with its value;
* `Shooting.isRowMajor_places`: **the places make a pattern** when those of the initial condition
  are listed row by row, whatever the sizes of the problem.
-/
import MultipleShooting.Proofs.Linear.Compressed
import MultipleShooting.Proofs.Shooting.Evaluation

namespace MultipleShooting

namespace Shooting

variable {α : Type} [Number α] {layout : Layout} {shooting : Shooting α layout}

/-! ### Places -/

/-- The columns in which the row of a linked state has entries. -/
def linkColumns (shooting : Shooting α layout) (link : Fin shooting.links) (i : Fin layout.nx) :
    List (Fin layout.size) :=
  List.ofFn (layout.statePlace (shooting.linked link).castSucc) ++
    List.ofFn (layout.controlPlace (shooting.linked link)) ++
    [layout.statePlace (shooting.linked link).succ i]

/-- The places in the row of a linked state. -/
def linkPlaces (shooting : Shooting α layout) (link : Fin shooting.links) (i : Fin layout.nx) :
    List (Nat × Nat) :=
  (shooting.linkColumns link i).map fun column => ((shooting.linkRow link i).val, column.val)

omit [Number α] in
theorem val_linkRow (link : Fin shooting.links) (i : Fin layout.nx) :
    (shooting.linkRow link i).val = shooting.initial.count + link * layout.nx + i := by
  show shooting.initial.count + (finProdFinEquiv (link, i)).val = _
  rw [finProdFinEquiv_apply_val]
  show shooting.initial.count + (i.val + layout.nx * link.val) = _
  rw [Nat.mul_comm]
  omega

/-- The numbers of a block one after the other. -/
theorem range'_eq_ofFn (start count : Nat) :
    List.range' start count = List.ofFn fun i : Fin count => start + i.val :=
  List.ext_getElem (by simp) fun i inside _ => by simp

/-- The places in the row of a component of a link, as the problem lists them. -/
def rowPlaces (shooting : Shooting α layout) (link component : Nat) : List (Nat × Nat) :=
  let columnsOf (block : Block) : List Nat := List.range' block.start (block.stop - block.start)
  (columnsOf (layout.stateBlock link) ++ columnsOf (layout.controlBlock link) ++
      [(layout.stateBlock (link + 1)).start + component]).map fun column =>
    ((shooting.rows.linkBlock link).start + component, column)

omit [Number α] in
theorem places_eq_rowPlaces (shooting : Shooting α layout) :
    shooting.places = shooting.initial.pattern ++
      (List.range shooting.links).flatMap fun link =>
        (List.range layout.nx).flatMap (shooting.rowPlaces link) := by
  have first : (shooting.initial.pattern.map fun place =>
      (place.1, (layout.stateBlock 0).start + place.2)) = shooting.initial.pattern := by
    simp [Layout.stateBlock]
  rw [places, first]
  rfl

omit [Number α] in
theorem linkPlaces_eq_rowPlaces (link : Fin shooting.links) (i : Fin layout.nx) :
    shooting.linkPlaces link i = shooting.rowPlaces link i := by
  have width (start count : Nat) : start + count - start = count :=
    Nat.add_sub_cancel_left ..
  simp only [linkPlaces, linkColumns, rowPlaces, Layout.stateBlock, Layout.controlBlock,
    Rows.linkBlock, width, range'_eq_ofFn, List.map_append, List.map_ofFn, List.map_cons,
    List.map_nil, val_linkRow]
  rfl

omit [Number α] in
/-- **The places, row by row.** -/
theorem places_eq (shooting : Shooting α layout) :
    shooting.places = shooting.initial.pattern ++
      (List.finRange shooting.links).flatMap fun link =>
        (List.finRange layout.nx).flatMap (shooting.linkPlaces link) := by
  simp only [places_eq_rowPlaces, ← List.map_coe_finRange_eq_range, List.flatMap_map]
  refine congrArg (_ ++ ·) (List.flatMap_congr fun link _ => List.flatMap_congr fun i _ => ?_)
  exact (linkPlaces_eq_rowPlaces link i).symm

omit [Number α] in
/-- Where a link's row has entries: by states and controls of its interval, and by the state of the
next node that it is about. -/
theorem mem_linkColumns {link : Fin shooting.links} {i : Fin layout.nx}
    {column : Fin layout.size} : column ∈ shooting.linkColumns link i ↔
      (∃ j, layout.statePlace (shooting.linked link).castSucc j = column) ∨
        (∃ j, layout.controlPlace (shooting.linked link) j = column) ∨
        column = layout.statePlace (shooting.linked link).succ i := by
  simp only [linkColumns, List.mem_append, List.mem_ofFn, List.mem_singleton, or_assoc]

omit [Number α] in
theorem linkRow_inj {link other : Fin shooting.links} {i j : Fin layout.nx} :
    shooting.linkRow link i = shooting.linkRow other j ↔ link = other ∧ i = j := by
  constructor
  · intro same
    have places := finProdFinEquiv.injective (Fin.natAdd_injective _ _ same)
    exact ⟨congrArg Prod.fst places, congrArg Prod.snd places⟩
  · rintro ⟨rfl, rfl⟩
    rfl

omit [Number α] in
theorem initialRow_lt_linkRow (i : Fin shooting.initial.count) (link : Fin shooting.links)
    (j : Fin layout.nx) : (shooting.initialRow i).val < (shooting.linkRow link j).val := by
  rw [val_linkRow]
  show i.val < _
  omega

omit [Number α] in
/-- The places in the rows of links. -/
theorem mem_linkPlaces {place : Nat × Nat} :
    (place ∈ (List.finRange shooting.links).flatMap fun link =>
        (List.finRange layout.nx).flatMap (shooting.linkPlaces link)) ↔
      ∃ link i, ∃ column ∈ shooting.linkColumns link i,
        ((shooting.linkRow link i).val, column.val) = place := by
  simp only [List.mem_flatMap, List.mem_finRange, true_and, linkPlaces, List.mem_map]

section RowMajor

variable (rowMajor : IsRowMajor shooting.initial.count layout.nx shooting.initial.pattern)

include rowMajor

omit [Number α] in
/-- The entries of a row of the initial condition. -/
theorem mem_places_initialRow {i : Fin shooting.initial.count} {column : Fin layout.size} :
    ((shooting.initialRow i).val, column.val) ∈ shooting.places ↔
      ∃ j, (i.val, j.val) ∈ shooting.initial.pattern ∧ layout.statePlace 0 j = column := by
  have offset (j : Fin layout.nx) : (layout.statePlace 0 j).val = j.val := by
    simp [Layout.statePlace]
  rw [places_eq, List.mem_append, mem_linkPlaces]
  constructor
  · rintro (listed | ⟨link, j, column', -, same⟩)
    · have inside := (rowMajor.inside _ listed).2
      exact ⟨⟨column, inside⟩, listed, Fin.ext (offset _)⟩
    · have before := initialRow_lt_linkRow i link j
      rw [(Prod.mk.inj same).1] at before
      exact absurd before (lt_irrefl _)
  · rintro ⟨j, listed, rfl⟩
    rw [offset]
    exact .inl listed

omit [Number α] in
/-- The entries of a row of a link. -/
theorem mem_places_linkRow {link : Fin shooting.links} {i : Fin layout.nx}
    {column : Fin layout.size} :
    ((shooting.linkRow link i).val, column.val) ∈ shooting.places ↔
      column ∈ shooting.linkColumns link i := by
  rw [places_eq, List.mem_append, mem_linkPlaces]
  constructor
  · rintro (listed | ⟨other, j, column', among, same⟩)
    · have inside := (rowMajor.inside _ listed).1
      rw [val_linkRow] at inside
      omega
    · obtain ⟨sameRow, sameColumn⟩ := Prod.mk.inj same
      obtain ⟨rfl, rfl⟩ := linkRow_inj.mp (Fin.ext sameRow)
      rwa [Fin.ext sameColumn] at among
  · exact fun among => .inr ⟨link, i, column, among, rfl⟩

end RowMajor

/-! ### Order -/

omit [Number α] in
/-- The columns of a link's row increase. -/
theorem linkColumns_increases (link : Fin shooting.links) (i : Fin layout.nx) :
    (shooting.linkColumns link i).Pairwise (· < ·) := by
  have width : layout.stride = layout.nx + layout.nu := rfl
  have next : ((shooting.linked link).succ.val) * layout.stride =
      (shooting.linked link).val * layout.stride + layout.stride := by
    rw [Fin.val_succ, Nat.succ_mul]
  have here : (shooting.linked link).castSucc.val = (shooting.linked link).val := rfl
  refine List.pairwise_append.mpr ⟨List.pairwise_append.mpr ⟨?_, ?_, ?_⟩,
    List.pairwise_singleton _ _, ?_⟩
  · refine List.pairwise_ofFn.mpr fun j k before => Fin.lt_def.mpr ?_
    simp only [Layout.statePlace]
    omega
  · refine List.pairwise_ofFn.mpr fun j k before => Fin.lt_def.mpr ?_
    simp only [Layout.controlPlace]
    omega
  · rintro _ state _ control
    obtain ⟨j, rfl⟩ := List.mem_ofFn.mp state
    obtain ⟨k, rfl⟩ := List.mem_ofFn.mp control
    refine Fin.lt_def.mpr ?_
    simp only [Layout.statePlace, Layout.controlPlace, here]
    omega
  · rintro column among _ last
    rw [List.mem_singleton.mp last]
    rcases List.mem_append.mp among with state | control
    · obtain ⟨j, rfl⟩ := List.mem_ofFn.mp state
      refine Fin.lt_def.mpr ?_
      simp only [Layout.statePlace, next, here]
      omega
    · obtain ⟨j, rfl⟩ := List.mem_ofFn.mp control
      refine Fin.lt_def.mpr ?_
      simp only [Layout.statePlace, Layout.controlPlace, next]
      omega

omit [Number α] in
/-- The places in the rows of links are listed row by row. -/
theorem linkPlaces_increases (shooting : Shooting α layout) :
    ((List.finRange shooting.links).flatMap fun link =>
        (List.finRange layout.nx).flatMap (shooting.linkPlaces link)).Pairwise
      fun place next => place.1 < next.1 ∨ place.1 = next.1 ∧ place.2 < next.2 := by
  refine List.pairwise_flatMap.mpr ⟨?_, ?_⟩
  · intro link _
    refine List.pairwise_flatMap.mpr ⟨?_, ?_⟩
    · intro i _
      exact List.pairwise_map.mpr
        ((linkColumns_increases link i).imp fun ordered => .inr ⟨rfl, ordered⟩)
    · refine (List.pairwise_lt_finRange _).imp ?_
      intro i j before place among next amongNext
      obtain ⟨column, -, rfl⟩ := List.mem_map.mp among
      obtain ⟨other, -, rfl⟩ := List.mem_map.mp amongNext
      simp only [val_linkRow]
      omega
  · refine (List.pairwise_lt_finRange _).imp ?_
    intro link next before place among other amongNext
    obtain ⟨i, -, among⟩ := List.mem_flatMap.mp among
    obtain ⟨j, -, amongNext⟩ := List.mem_flatMap.mp amongNext
    obtain ⟨column, -, rfl⟩ := List.mem_map.mp among
    obtain ⟨other, -, rfl⟩ := List.mem_map.mp amongNext
    have ordered := Nat.mul_le_mul_right layout.nx (Nat.succ_le_of_lt before)
    simp only [Nat.succ_eq_add_one, Nat.add_mul, Nat.one_mul] at ordered
    simp only [val_linkRow]
    omega

omit [Number α] in
/-- **The places make a pattern** when those of the initial condition are listed row by row. -/
theorem isRowMajor_places
    (rowMajor : IsRowMajor shooting.initial.count layout.nx shooting.initial.pattern) :
    IsRowMajor shooting.rows.count layout.size shooting.places where
  increases := by
    rw [places_eq]
    refine List.pairwise_append.mpr ⟨rowMajor.increases, shooting.linkPlaces_increases, ?_⟩
    intro place listed next among
    obtain ⟨link, i, column, -, rfl⟩ := mem_linkPlaces.mp among
    have inside := (rowMajor.inside _ listed).1
    simp only [val_linkRow]
    omega
  inside := by
    intro place among
    rw [places_eq, List.mem_append, mem_linkPlaces] at among
    rcases among with listed | ⟨link, i, column, -, rfl⟩
    · obtain ⟨row, column⟩ := rowMajor.inside _ listed
      refine ⟨(shooting.initialRow ⟨place.1, row⟩).isLt, ?_⟩
      have inside := (layout.statePlace 0 ⟨place.2, column⟩).isLt
      simpa [Layout.statePlace] using inside
    · exact ⟨(shooting.linkRow link i).isLt, column.isLt⟩

/-! ### Values -/

/-- The value at a place of the initial condition's Jacobian. -/
def initialValue {rows columns : Nat} (jacobian : Dense α rows columns) (place : Nat × Nat) : α :=
  match jacobian[place.1]? with
  | some cells => cells[place.2]?.getD 0
  | none => 0

theorem initialValue_eq {rows columns : Nat} (jacobian : Dense α rows columns) (i : Fin rows)
    (j : Fin columns) : initialValue jacobian (i.val, j.val) = (jacobian.get i).get j := by
  unfold initialValue
  rw [Vector.getElem?_eq_getElem i.isLt]
  show (jacobian.get i)[j.val]?.getD 0 = _
  rw [Vector.getElem?_eq_getElem j.isLt]
  rfl

/-- The entries in the row of a linked state, column by column. -/
def linkEntries (shooting : Shooting α layout) (link : Fin shooting.links) (i : Fin layout.nx)
    (tangents : Tangents α layout.nx layout.nu) : List (Fin layout.size × α) :=
  List.ofFn (fun j => (layout.statePlace (shooting.linked link).castSucc j,
      (tangents.byState.get i).get j)) ++
    List.ofFn (fun j => (layout.controlPlace (shooting.linked link) j,
      (tangents.byControl.get i).get j)) ++
    [(layout.statePlace (shooting.linked link).succ i, -1)]

theorem map_fst_linkEntries {link : Fin shooting.links} {i : Fin layout.nx}
    {tangents : Tangents α layout.nx layout.nu} :
    (shooting.linkEntries link i tangents).map Prod.fst = shooting.linkColumns link i := by
  simp only [linkEntries, linkColumns, List.map_append, List.map_ofFn, List.map_cons, List.map_nil]
  rfl

/-- The entries in the rows of links: each place with its value. -/
def linkEntriesAt (shooting : Shooting α layout)
    (ends : Vector (Differentiated α layout.nx layout.nu) layout.nk) :
    List ((Nat × Nat) × α) :=
  (List.finRange shooting.links).flatMap fun link =>
    (List.finRange layout.nx).flatMap fun i =>
      (shooting.linkEntries link i (ends.get (shooting.linked link)).tangents).map fun entry =>
        (((shooting.linkRow link i).val, entry.1.val), entry.2)

/-- All entries: each place with its value. -/
def entriesAt (shooting : Shooting α layout)
    (initialJacobian : Dense α shooting.initial.count layout.nx)
    (ends : Vector (Differentiated α layout.nx layout.nu) layout.nk) :
    List ((Nat × Nat) × α) :=
  (shooting.initial.pattern.map fun place => (place, initialValue initialJacobian place)) ++
    shooting.linkEntriesAt ends

variable {initialJacobian : Dense α shooting.initial.count layout.nx}
  {ends : Vector (Differentiated α layout.nx layout.nu) layout.nk}

theorem map_fst_linkEntriesAt : (shooting.linkEntriesAt ends).map Prod.fst =
    (List.finRange shooting.links).flatMap fun link =>
      (List.finRange layout.nx).flatMap (shooting.linkPlaces link) := by
  unfold linkEntriesAt
  rw [List.map_flatMap]
  refine List.flatMap_congr ?_
  intro link _
  rw [List.map_flatMap]
  refine List.flatMap_congr ?_
  intro i _
  rw [linkPlaces, ← map_fst_linkEntries, List.map_map, List.map_map]
  rfl

theorem map_fst_entriesAt : (shooting.entriesAt initialJacobian ends).map Prod.fst =
    shooting.places := by
  rw [places_eq, entriesAt, List.map_append, List.map_map, map_fst_linkEntriesAt]
  exact congrArg (· ++ _) (List.map_id _)

theorem map_snd_entriesAt : (shooting.entriesAt initialJacobian ends).map Prod.snd =
    shooting.jacobianValues initialJacobian ends := by
  have linkedEnds : ends.toList.take shooting.links =
      (List.finRange shooting.links).map fun link => ends.get (shooting.linked link) :=
    List.ext_getElem (by simp [shooting.links_le]) fun link inside _ => by
      simp [linked, Vector.get, Fin.cast]
  have rows (result : Differentiated α layout.nx layout.nu) :
      List.zip result.tangents.byState.toList result.tangents.byControl.toList =
        (List.finRange layout.nx).map fun i =>
          (result.tangents.byState.get i, result.tangents.byControl.get i) := by
    rw [toList_eq_ofFn, toList_eq_ofFn, List.ofFn_eq_map, List.ofFn_eq_map, List.zip_map']
  unfold jacobianValues entriesAt linkEntriesAt
  rw [List.map_append, List.map_map, List.map_flatMap, linkedEnds, List.flatMap_map]
  congr 1
  · refine List.map_congr_left ?_
    intro place _
    simp only [Function.comp_apply, initialValue]
    cases initialJacobian[place.1]? <;> rfl
  · refine List.flatMap_congr ?_
    intro link _
    rw [List.map_flatMap, rows, List.flatMap_map]
    refine List.flatMap_congr ?_
    intro i _
    simp only [linkEntries, List.map_append, List.map_ofFn, List.map_cons, List.map_nil,
      toList_eq_ofFn]
    rfl

/-- The values are as many as the places. -/
theorem length_jacobianValues :
    (shooting.jacobianValues initialJacobian ends).length = shooting.places.length :=
  calc (shooting.jacobianValues initialJacobian ends).length
      = (shooting.entriesAt initialJacobian ends).length := by
        rw [← map_snd_entriesAt, List.length_map]
    _ = shooting.places.length := by
        rw [← List.length_map (f := Prod.fst), map_fst_entriesAt]

/-- **Each place with its value.** -/
theorem zip_places_jacobianValues :
    shooting.places.zip (shooting.jacobianValues initialJacobian ends) =
      shooting.entriesAt initialJacobian ends := by
  have parts := List.zip_unzip (shooting.entriesAt initialJacobian ends)
  rwa [List.unzip_fst, List.unzip_snd, map_fst_entriesAt, map_snd_entriesAt] at parts

/-- A listed value of the initial condition's Jacobian is stored. -/
theorem stored_initialRow {i : Fin shooting.initial.count} {j : Fin layout.nx}
    (listed : (i.val, j.val) ∈ shooting.initial.pattern) :
    (((shooting.initialRow i).val, (layout.statePlace 0 j).val),
        (initialJacobian.get i).get j) ∈
      shooting.places.zip (shooting.jacobianValues initialJacobian ends) := by
  have offset : (layout.statePlace 0 j).val = j.val := by simp [Layout.statePlace]
  rw [zip_places_jacobianValues, entriesAt, offset]
  refine List.mem_append_left _ (List.mem_map.mpr ⟨_, listed, ?_⟩)
  rw [initialValue_eq]
  rfl

/-- The entries of a link's row are stored. -/
theorem stored_linkRow {link : Fin shooting.links} {i : Fin layout.nx}
    {entry : Fin layout.size × α}
    (among : entry ∈ shooting.linkEntries link i (ends.get (shooting.linked link)).tangents) :
    (((shooting.linkRow link i).val, entry.1.val), entry.2) ∈
      shooting.places.zip (shooting.jacobianValues initialJacobian ends) := by
  rw [zip_places_jacobianValues, entriesAt, linkEntriesAt]
  refine List.mem_append_right _ (List.mem_flatMap.mpr ⟨link, List.mem_finRange _,
    List.mem_flatMap.mpr ⟨i, List.mem_finRange _, List.mem_map.mpr ⟨entry, among, rfl⟩⟩⟩)

end Shooting

end MultipleShooting
