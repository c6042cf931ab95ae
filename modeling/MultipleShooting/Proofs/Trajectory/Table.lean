/-
**The table of a trajectory.**

The table has a header and one record for each node: its time, then the text of the sample of each
series there, and nothing for a series that has ended.

* `Trajectory.csvText_eq_ok_iff`: it is written exactly when there are as many names as series, or
  no nodes;
* `Trajectory.writes_of_csvText`: what is written is the table, by the rules of the format;
* `Trajectory.isRecovered_table`: the table of a decision vector has the components of the vector in
  its fields, and no other empty fields than those of the controls at the last node.

`Trajectory.csvText_recovers` puts them together.
-/
import MultipleShooting.Proofs.Csv
import MultipleShooting.Proofs.Decimal.ReadBack
import MultipleShooting.Proofs.Trajectory.Recovery

namespace MultipleShooting

/-- The field of a table in a row and a column. -/
def Csv.field? (table : Table) (row column : Nat) : Option (List Char) :=
  table[row]?.bind fun record => record[column]?

namespace Trajectory

variable {α : Type} [DecimalText α] {trajectory : Trajectory α}

/-! ### Tables -/

/-- The names of the columns. -/
def header (trajectory : Trajectory α) : List (List Char) :=
  "t".toList :: (trajectory.stateNames ++ trajectory.controlNames).map String.toList

/-- The record of a node: its time and the samples of all series there. -/
def record (trajectory : Trajectory α) (node : Nat) (time : α) : List (List Char) :=
  DecimalText.write time :: (trajectory.states ++ trajectory.controls).map fun series =>
    series[node]?.elim [] DecimalText.write

/-- The table of a trajectory. -/
def table (trajectory : Trajectory α) : Csv.Table :=
  trajectory.header :: trajectory.times.mapIdx trajectory.record

/-- There are as many names as series. -/
def IsNamed (trajectory : Trajectory α) : Prop :=
  trajectory.stateNames.length + trajectory.controlNames.length =
    trajectory.states.length + trajectory.controls.length

instance (trajectory : Trajectory α) : Decidable trajectory.IsNamed :=
  inferInstanceAs (Decidable (_ = _))

omit [DecimalText α] in
theorem length_header : trajectory.header.length =
    trajectory.stateNames.length + trajectory.controlNames.length + 1 := by
  simp [header]

theorem length_record (node : Nat) (time : α) : (trajectory.record node time).length =
    trajectory.states.length + trajectory.controls.length + 1 := by
  simp [record]

/-! ### Writing -/

theorem toCsv_eq : trajectory.toCsv =
    Csv.write trajectory.header (trajectory.times.mapIdx trajectory.record) := by
  have cells (node : Nat) :
      cell node = fun series : List α => series[node]?.elim [] DecimalText.write := by
    funext series
    unfold cell
    cases series[node]? <;> rfl
  unfold toCsv
  rw [List.mapIdx_eq_zipIdx_map]
  simp only [cells]
  rfl

theorem toCsv_eq_ok {chars : List Char} : trajectory.toCsv = .ok chars ↔
    (trajectory.times = [] ∨ trajectory.IsNamed) ∧
      trajectory.table.flatMap Csv.writeRecord = chars := by
  have lengths : (∀ record ∈ trajectory.times.mapIdx trajectory.record,
      record.length = trajectory.header.length) ↔ trajectory.times = [] ∨ trajectory.IsNamed := by
    constructor
    · intro same
      cases nodes : trajectory.times with
      | nil => exact .inl rfl
      | cons time times =>
        have first := same (trajectory.record 0 time) (by simp [nodes])
        rw [length_record, length_header] at first
        exact .inr (Nat.succ.inj first).symm
    · intro written record among
      obtain ⟨node, inside, rfl⟩ := List.mem_mapIdx.mp among
      rw [length_record, length_header]
      rcases written with empty | named
      · simp [empty] at inside
      · rw [named]
  rw [toCsv_eq, Csv.write, map_eq_ok]
  constructor
  · rintro ⟨others, written, rfl⟩
    obtain ⟨same, rfl⟩ := Csv.writeRecords_eq_ok.mp written
    exact ⟨lengths.mp same, rfl⟩
  · rintro ⟨named, rfl⟩
    exact ⟨_, Csv.writeRecords_eq_ok.mpr ⟨lengths.mpr named, rfl⟩, rfl⟩

theorem csvText_eq_ok {text : String} :
    trajectory.csvText = .ok text ↔ trajectory.toCsv = .ok text.toList := by
  unfold csvText
  cases trajectory.toCsv with
  | error fault => simp
  | ok chars =>
    simp only [Except.ok.injEq]
    constructor
    · rintro rfl
      exact String.toList_ofList.symm
    · rintro rfl
      exact String.ofList_toList

/-- **The table is written** exactly when there are as many names as series, or no nodes. -/
theorem csvText_eq_ok_iff : (∃ text, trajectory.csvText = .ok text) ↔
    trajectory.times = [] ∨ trajectory.IsNamed := by
  constructor
  · rintro ⟨text, written⟩
    exact (toCsv_eq_ok.mp (csvText_eq_ok.mp written)).1
  · intro named
    exact ⟨String.ofList _, csvText_eq_ok.mpr (toCsv_eq_ok.mpr ⟨named, String.toList_ofList.symm⟩)⟩

/-- **What is written** is the table. -/
theorem writes_of_csvText {text : String} (written : trajectory.csvText = .ok text) :
    Csv.Writes trajectory.table text.toList := by
  obtain ⟨-, same⟩ := toCsv_eq_ok.mp (csvText_eq_ok.mp written)
  rw [← same]
  refine Csv.writes_flatMap (List.forall_mem_cons.mpr ⟨List.cons_ne_nil _ _, ?_⟩)
  intro record among
  obtain ⟨node, inside, rfl⟩ := List.mem_mapIdx.mp among
  exact List.cons_ne_nil _ _

/-! ### Fields -/

section Fields

variable {node : Nat} {time : α}

theorem field?_table (here : trajectory.times[node]? = some time) (column : Nat) :
    Csv.field? trajectory.table (node + 1) column = (trajectory.record node time)[column]? := by
  rw [Csv.field?, table, List.getElem?_cons_succ, List.getElem?_mapIdx, here]
  rfl

theorem field?_time (here : trajectory.times[node]? = some time) :
    Csv.field? trajectory.table (node + 1) 0 = some (DecimalText.write time) :=
  field?_table here 0

theorem field?_state (here : trajectory.times[node]? = some time) {i : Nat} {series : List α}
    (found : trajectory.states[i]? = some series) :
    Csv.field? trajectory.table (node + 1) (1 + i) =
      some (series[node]?.elim [] DecimalText.write) := by
  have inside := (List.getElem?_eq_some_iff.mp found).1
  rw [field?_table here, Nat.add_comm 1 i, record, List.getElem?_cons_succ, List.getElem?_map,
    List.getElem?_append_left inside, found, Option.map_some]

theorem field?_control (here : trajectory.times[node]? = some time) {i : Nat} {series : List α}
    (found : trajectory.controls[i]? = some series) :
    Csv.field? trajectory.table (node + 1) (1 + trajectory.states.length + i) =
      some (series[node]?.elim [] DecimalText.write) := by
  rw [field?_table here, Nat.add_comm 1, Nat.add_right_comm, record, List.getElem?_cons_succ,
    List.getElem?_map, List.getElem?_append_right (Nat.le_add_right _ _), Nat.add_sub_cancel_left,
    found, Option.map_some]

end Fields

/-! ### Recovery -/

/-- The texts of some numbers are read back, and no text is read as nothing. -/
structure ReadsBack (read : List Char → Option α) (values : List α) : Prop where
  empty : read [] = none
  text : ∀ value ∈ values, read (DecimalText.write value) = some value

/-- **A table has the components of a decision vector in its fields**: those of the states at the
nodes and those of the controls in the intervals. The only empty fields below the header are those
of the controls at the last node. -/
structure IsRecovered [Number α] (read : List Char → Option α) (layout : Layout) (vector : List α)
    (duration : α) (table : Csv.Table) : Prop where
  length : table.length = layout.nk + 2
  time : ∀ node ≤ layout.nk,
    (Csv.field? table (node + 1) 0).bind read = some ((node : α) * duration)
  state : ∀ i < layout.nx, ∀ node ≤ layout.nk,
    (Csv.field? table (node + 1) (1 + i)).bind read =
      vector[node * (layout.nx + layout.nu) + i]?
  control : ∀ i < layout.nu, ∀ k < layout.nk,
    (Csv.field? table (k + 1) (1 + layout.nx + i)).bind read =
      vector[k * (layout.nx + layout.nu) + layout.nx + i]?
  empty : ∀ node column, Csv.field? table (node + 1) column = some [] ↔
    node = layout.nk ∧ 1 + layout.nx ≤ column ∧ column < 1 + layout.nx + layout.nu

variable {read : List Char → Option α} {values : List α}

/-- **The field of a sample** is read back, and it is not empty. -/
theorem ReadsBack.sample (reads : ReadsBack read values) {sample : Option α} (known : sample ≠ none)
    (among : ∀ value, sample = some value → value ∈ values) :
    read (sample.elim [] DecimalText.write) = sample ∧
      sample.elim [] DecimalText.write ≠ [] := by
  cases sample with
  | none => exact absurd rfl known
  | some value =>
    have same := reads.text value (among value rfl)
    refine ⟨same, fun blank => ?_⟩
    rw [Option.elim_some] at blank
    rw [blank, reads.empty] at same
    cases same

section OfVector

variable [Number α] {layout : Layout} {vector : List α} {duration : α}
  {stateNames controlNames : List String}

omit [DecimalText α] in
theorem times_of_ofVector
    (read : ofVector layout vector duration stateNames controlNames = .ok trajectory) {node : Nat}
    (known : node ≤ layout.nk) : trajectory.times[node]? = some ((node : α) * duration) := by
  by_cases fits : Fits layout vector stateNames controlNames
  · obtain ⟨vector, rfl⟩ := exists_toList_eq fits.1.symm
    rw [(ofVector_eq_ok read).1, List.getElem?_map,
      List.getElem?_range (Nat.lt_succ_of_le known), Option.map_some]
  · obtain ⟨failure, refused, -⟩ := isConfiguration_of_ofVector fits duration
    rw [refused] at read
    cases read

omit [DecimalText α] in
theorem isNamed_of_ofVector
    (read : ofVector layout vector duration stateNames controlNames = .ok trajectory) :
    trajectory.IsNamed := by
  by_cases fits : Fits layout vector stateNames controlNames
  · have isRead := isReadFrom_of_ofVector read
    obtain ⟨vector, rfl⟩ := exists_toList_eq fits.1.symm
    obtain ⟨-, sameStates, sameControls, -⟩ := ofVector_eq_ok read
    rw [IsNamed, sameStates, sameControls, isRead.states_length, isRead.controls_length,
      fits.2.1, fits.2.2]
  · obtain ⟨failure, refused, -⟩ := isConfiguration_of_ofVector fits duration
    rw [refused] at read
    cases read

section Fields

variable (isOf : ofVector layout vector duration stateNames controlNames = .ok trajectory)
  (reads : ReadsBack read (trajectory.times ++ vector))
include isOf reads

theorem time_isRecovered {node : Nat} (known : node ≤ layout.nk) :
    ∃ text, Csv.field? trajectory.table (node + 1) 0 = some text ∧
      read text = some ((node : α) * duration) ∧ text ≠ [] := by
  have here := times_of_ofVector isOf known
  have known : some ((node : α) * duration) ≠ none := by simp
  exact ⟨_, field?_time here, reads.sample known fun value same =>
    List.mem_append_left _ (List.mem_of_getElem? (here.trans same))⟩

theorem state_isRecovered {i node : Nat} (inside : i < layout.nx) (known : node ≤ layout.nk) :
    ∃ text, Csv.field? trajectory.table (node + 1) (1 + i) = some text ∧
      read text = vector[node * (layout.nx + layout.nu) + i]? ∧ text ≠ [] := by
  obtain ⟨series, found, complete, samples⟩ := (isReadFrom_of_ofVector isOf).state i inside
  have sampled : series[node]? ≠ none := by
    rw [Ne, List.getElem?_eq_none_iff]
    omega
  have field := field?_state (times_of_ofVector isOf known) found
  rw [samples node known] at sampled field
  exact ⟨_, field, reads.sample sampled fun value here =>
    List.mem_append_right _ (List.mem_of_getElem? here)⟩

theorem control_isRecovered {i k : Nat} (inside : i < layout.nu) (known : k < layout.nk) :
    ∃ text, Csv.field? trajectory.table (k + 1) (1 + layout.nx + i) = some text ∧
      read text = vector[k * (layout.nx + layout.nu) + layout.nx + i]? ∧ text ≠ [] := by
  have isRead := isReadFrom_of_ofVector isOf
  obtain ⟨series, found, complete, samples⟩ := isRead.control i inside
  have sampled : series[k]? ≠ none := by
    rw [Ne, List.getElem?_eq_none_iff]
    omega
  have field := field?_control (times_of_ofVector isOf known.le) found
  rw [samples k known] at sampled field
  rw [isRead.states_length] at field
  exact ⟨_, field, reads.sample sampled fun value here =>
    List.mem_append_right _ (List.mem_of_getElem? here)⟩

omit reads in
/-- A control has no sample at the last node. -/
theorem control_isEmpty {i : Nat} (inside : i < layout.nu) :
    Csv.field? trajectory.table (layout.nk + 1) (1 + layout.nx + i) = some [] := by
  have isRead := isReadFrom_of_ofVector isOf
  obtain ⟨series, found, complete, -⟩ := isRead.control i inside
  have field := field?_control (times_of_ofVector isOf le_rfl) found
  have ended : series[layout.nk]? = none := List.getElem?_eq_none_iff.mpr complete.le
  rwa [ended, isRead.states_length] at field

/-- **The empty fields** below the header are those of the controls at the last node. -/
theorem field?_eq_nil_iff (node column : Nat) :
    Csv.field? trajectory.table (node + 1) column = some [] ↔
      node = layout.nk ∧ 1 + layout.nx ≤ column ∧ column < 1 + layout.nx + layout.nu := by
  have isRead := isReadFrom_of_ofVector isOf
  -- A field with a text is not empty.
  have filled {row column : Nat} {sample : Option α}
      (recovered : ∃ text, Csv.field? trajectory.table row column = some text ∧
        read text = sample ∧ text ≠ []) :
      Csv.field? trajectory.table row column ≠ some [] := by
    obtain ⟨text, field, -, visible⟩ := recovered
    rw [field]
    exact fun blank => visible (Option.some.inj blank)
  constructor
  · intro blank
    obtain ⟨record, row, column'⟩ := Option.bind_eq_some_iff.mp blank
    have known : node ≤ layout.nk := by
      have inside := (List.getElem?_eq_some_iff.mp row).1
      rw [table, List.length_cons, List.length_mapIdx, isRead.nodes] at inside
      omega
    have wide : column < 1 + layout.nx + layout.nu := by
      rw [field?_table (times_of_ofVector isOf known)] at blank
      have inside := (List.getElem?_eq_some_iff.mp blank).1
      rw [length_record, isRead.states_length, isRead.controls_length] at inside
      omega
    rcases Nat.eq_zero_or_pos column with rfl | pos
    · exact absurd blank (filled (time_isRecovered isOf reads known))
    · rcases Nat.lt_or_ge column (1 + layout.nx) with ofState | ofControl
      · obtain ⟨i, rfl⟩ := Nat.exists_eq_add_of_le pos
        have inside : i < layout.nx := by omega
        exact absurd blank (filled (state_isRecovered isOf reads inside known))
      · obtain ⟨i, rfl⟩ := Nat.exists_eq_add_of_le ofControl
        have inside : i < layout.nu := by omega
        refine ⟨?_, ofControl, wide⟩
        by_contra notLast
        have before : node < layout.nk := lt_of_le_of_ne known notLast
        exact absurd blank (filled (control_isRecovered isOf reads inside before))
  · rintro ⟨rfl, ofControl, wide⟩
    obtain ⟨i, rfl⟩ := Nat.exists_eq_add_of_le ofControl
    exact control_isEmpty isOf (by omega)

/-- **The table of a decision vector** has its components in the fields. -/
theorem isRecovered_table : IsRecovered read layout vector duration trajectory.table where
  length := by
    rw [table, List.length_cons, List.length_mapIdx, (isReadFrom_of_ofVector isOf).nodes]
  time node known := by
    obtain ⟨text, field, same, -⟩ := time_isRecovered isOf reads known
    rw [field, Option.bind_some, same]
  state i inside node known := by
    obtain ⟨text, field, same, -⟩ := state_isRecovered isOf reads inside known
    rw [field, Option.bind_some, same]
  control i inside k known := by
    obtain ⟨text, field, same, -⟩ := control_isRecovered isOf reads inside known
    rw [field, Option.bind_some, same]
  empty := field?_eq_nil_iff isOf reads

end Fields

/-- **The table of a trajectory decodes to the trajectory.** With as many names as series the table
is written, whatever the names are and however long the series; with another number of names the
writing fails exactly when there are nodes. What has been written follows the rules of the format,
and everything that does is read back as the header and one record for each node: its time, and for
each series in order the text of its sample there or nothing. The table of a decision vector is
always written, and where the texts of its numbers are read back, every component of the vector is
found in it, the only empty fields below the header being those of the controls at the last node. -/
theorem csvText_recovers :
    (∀ trajectory : Trajectory α,
      (trajectory.IsNamed → ∃ text, trajectory.csvText = .ok text) ∧
      (¬ trajectory.IsNamed →
        ((∃ failure, trajectory.csvText = .error failure) ↔ trajectory.times ≠ [])) ∧
      (∀ text, trajectory.csvText = .ok text → Csv.Writes trajectory.table text.toList ∧
        Csv.read? text.toList = some trajectory.table) ∧
      ∀ chars, Csv.Writes trajectory.table chars → Csv.read? chars = some trajectory.table) ∧
    ∀ (layout : Layout) (vector : List α) (duration : α) (stateNames controlNames : List String)
      (trajectory : Trajectory α),
      ofVector layout vector duration stateNames controlNames = .ok trajectory →
      (∃ text, trajectory.csvText = .ok text ∧
        Csv.read? text.toList = some trajectory.table) ∧
      ∀ read, ReadsBack read (trajectory.times ++ vector) →
        IsRecovered read layout vector duration trajectory.table := by
  refine ⟨fun trajectory => ⟨fun named => csvText_eq_ok_iff.mpr (.inr named), fun unnamed => ?_,
    fun text written => ?_, fun chars => Csv.read?_of_writes⟩, ?_⟩
  · have succeeds : (∃ text, trajectory.csvText = .ok text) ↔ _ := csvText_eq_ok_iff
    cases written : trajectory.csvText with
    | ok text =>
      have still := (succeeds.mp ⟨text, written⟩).resolve_right unnamed
      exact iff_of_false (by simp) fun failed => failed still
    | error failure =>
      rw [written] at succeeds
      refine iff_of_true ⟨failure, rfl⟩ fun still => ?_
      obtain ⟨text, same⟩ := succeeds.mpr (.inl still)
      cases same
  · have follows := writes_of_csvText written
    exact ⟨follows, Csv.read?_of_writes follows⟩
  · intro layout vector duration stateNames controlNames trajectory isOf
    obtain ⟨text, written⟩ := csvText_eq_ok_iff.mpr (.inr (isNamed_of_ofVector isOf))
    exact ⟨⟨text, written, Csv.read?_of_writes (writes_of_csvText written)⟩,
      fun read reads => isRecovered_table isOf reads⟩

end OfVector

/-- A state and a control over one interval, whose names have a comma, quotes and a line break. The
table is read back, and without the name of the state it is not written. -/
theorem csvText_recovers_oneInterval : ∃ trajectory : Trajectory Float,
    ofVector ⟨1, 1, 1⟩ [1.0, -2.0, 0.6] 0.5 ["level, \"high\""] ["feed\nrate"] = .ok trajectory ∧
    trajectory.IsNamed ∧
    (∃ text, trajectory.csvText = .ok text ∧ Csv.read? text.toList = some trajectory.table) ∧
    trajectory.table.head? =
      some ["t".toList, "level, \"high\"".toList, "feed\nrate".toList] ∧
    ReadsBack Decimal.readDouble? (trajectory.times ++ [1.0, -2.0, 0.6]) ∧
    IsRecovered Decimal.readDouble? ⟨1, 1, 1⟩ [1.0, -2.0, 0.6] 0.5 trajectory.table ∧
    ¬ { trajectory with stateNames := [] }.IsNamed ∧
    ∃ failure, { trajectory with stateNames := [] }.csvText = .error failure := by
  obtain ⟨writes, recovers⟩ := csvText_recovers (α := Float)
  obtain ⟨trajectory, isOf, times, header, named, unnamed⟩ : ∃ trajectory : Trajectory Float,
      ofVector ⟨1, 1, 1⟩ [1.0, -2.0, 0.6] 0.5 ["level, \"high\""] ["feed\nrate"] = .ok trajectory ∧
      trajectory.times = [((0 : Nat) : Float) * 0.5, ((1 : Nat) : Float) * 0.5] ∧
      trajectory.header = ["t".toList, "level, \"high\"".toList, "feed\nrate".toList] ∧
      trajectory.IsNamed ∧ ¬ { trajectory with stateNames := [] }.IsNamed :=
    ⟨_, rfl, rfl, rfl, rfl, by decide⟩
  have finite : ∀ value ∈ [((0 : Nat) : Float) * 0.5, ((1 : Nat) : Float) * 0.5, 1.0, -2.0, 0.6],
      Number.isFinite value = true := by decide
  have reads : ReadsBack Decimal.readDouble? (trajectory.times ++ [1.0, -2.0, 0.6]) := by
    rw [times]
    exact ⟨rfl, fun value among => Decimal.readDouble?_write (finite value among)⟩
  obtain ⟨written, recovered⟩ := recovers _ _ _ _ _ _ isOf
  refine ⟨trajectory, isOf, named, written, congrArg some header, reads, recovered _ reads, unnamed,
    ((writes _).2.1 unnamed).mpr ?_⟩
  rw [times]
  exact List.cons_ne_nil _ _

end Trajectory

end MultipleShooting
