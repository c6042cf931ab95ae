/-
**Elimination solves linear systems of real numbers.**

* `choosePivot_perm`, `choosePivot_largest`: the chosen pivot and the others are the given
  equations, and no leading coefficient is larger in magnitude than the pivot's;
* `solveEquations_sound`, `solveEquations_none`: unknowns that are found satisfy every equation, and
  where none are found the homogeneous equations have a solution other than zero. The induction is
  on the number of unknowns: subtracting multiples of the pivot from the others keeps the solutions;
* `Elimination.solve_sound`, `Elimination.solve_nonsingular`: **a solution that is found solves the
  system, and every nonsingular system is solved.**
-/
import MultipleShooting.Proofs.Linear.Real
import MultipleShooting.Linear.Elimination

namespace MultipleShooting

open Matrix

/-- The left-hand side of an equation for given unknowns. -/
noncomputable def Equation.left (equation : Equation ℝ) (values : List ℝ) : ℝ :=
  (List.zipWith (· * ·) equation.coefficients values).sum

namespace Elimination

/-! ### The pivot -/

section Pivot

variable (first : Equation ℝ) (others : List (Equation ℝ))

/-- The equation at which the search for the largest leading coefficient has arrived. -/
def candidate (index : Option Nat) : Equation ℝ :=
  match index with
  | none => first
  | some index => others.getD index first

/-- One step of the search. -/
noncomputable def search (best : Option Nat × ℝ) (item : Equation ℝ × Nat) : Option Nat × ℝ :=
  if best.2 < Number.abs item.1.head then (some item.2, Number.abs item.1.head) else best

/-- The search has found one of the equations, which is largest among those visited. -/
structure IsLargest (visited : List (Equation ℝ)) (best : Option Nat × ℝ) : Prop where
  size_eq : best.2 = |(candidate first others best.1).head|
  largest : ∀ equation ∈ first :: visited, |equation.head| ≤ best.2

/-- The search keeps its candidate the largest of the visited equations. -/
theorem isLargest_foldl (visited rest : List (Equation ℝ)) (whole : others = visited ++ rest)
    (best : Option Nat × ℝ) (known : IsLargest first others visited best) :
    IsLargest first others others ((rest.zipIdx visited.length).foldl search best) := by
  induction rest generalizing visited best with
  | nil =>
    rw [List.append_nil] at whole
    exact whole ▸ known
  | cons equation rest ih =>
    have extended : others = (visited ++ [equation]) ++ rest := by
      rw [whole, List.append_assoc, List.singleton_append]
    have place : others.getD visited.length first = equation := by
      rw [whole, List.getD_eq_getElem?_getD, List.getElem?_append_right le_rfl, Nat.sub_self]
      rfl
    rw [List.zipIdx_cons, List.foldl_cons]
    have next : IsLargest first others (visited ++ [equation])
        (search best (equation, visited.length)) := by
      unfold search
      split_ifs with larger
      · refine ⟨?_, ?_⟩
        · simp only [candidate, place]
          rfl
        · intro other among
          rw [← List.cons_append, List.mem_append, List.mem_singleton] at among
          obtain among | rfl := among
          · exact (known.largest other among).trans larger.le
          · exact le_rfl
      · refine ⟨known.size_eq, ?_⟩
        intro other among
        rw [← List.cons_append, List.mem_append, List.mem_singleton] at among
        obtain among | rfl := among
        · exact known.largest other among
        · exact not_lt.mp larger
    have result := ih (visited ++ [equation]) extended _ next
    rwa [List.length_append, List.length_singleton] at result

/-- The result of the search. -/
theorem isLargest_search : IsLargest first others others
    (others.zipIdx.foldl search (none, Number.abs first.head)) := by
  refine isLargest_foldl first others [] others rfl _ ⟨rfl, ?_⟩
  intro equation among
  rw [List.mem_singleton] at among
  rw [among]
  exact le_rfl

theorem choosePivot_eq : choosePivot first others =
    match (others.zipIdx.foldl search (none, Number.abs first.head)).1 with
    | none => (first, others)
    | some index => (others.getD index first, others.set index first) := rfl

/-- The pivot and the others are the given equations. -/
theorem choosePivot_perm :
    ((choosePivot first others).1 :: (choosePivot first others).2).Perm (first :: others) := by
  rw [choosePivot_eq]
  cases (others.zipIdx.foldl search (none, Number.abs first.head)).1 with
  | none => exact .refl _
  | some index =>
    simp only [List.getD_eq_getElem?_getD]
    exact List.getD_set_perm_cons others index first

/-- No leading coefficient is larger in magnitude than that of the pivot. -/
theorem choosePivot_largest {equation : Equation ℝ} (among : equation ∈ first :: others) :
    |equation.head| ≤ |(choosePivot first others).1.head| := by
  have known := isLargest_search first others
  refine (known.largest equation among).trans_eq (known.size_eq.trans ?_)
  rw [choosePivot_eq]
  cases (others.zipIdx.foldl search (none, Number.abs first.head)).1 <;> rfl

end Pivot

/-! ### One unknown less -/

/-- An equation with an unknown has a leading coefficient. -/
theorem coefficients_eq {equation : Equation ℝ} {size : Nat}
    (width : equation.coefficients.length = size + 1) :
    equation.coefficients = equation.head :: equation.coefficients.tail := by
  obtain ⟨coefficients, right⟩ := equation
  cases coefficients with
  | nil => cases width
  | cons leading others => rfl

/-- The left-hand side by its first unknown and the others. -/
theorem left_cons {equation : Equation ℝ} {size : Nat}
    (width : equation.coefficients.length = size + 1) (value : ℝ) (values : List ℝ) :
    equation.left (value :: values) =
      equation.head * value + (List.zipWith (· * ·) equation.coefficients.tail values).sum := by
  unfold Equation.left
  rw [coefficients_eq width, List.zipWith_cons_cons, List.sum_cons]
  rfl

/-- The sum of products with coefficients from which a multiple of others has been subtracted. -/
theorem sum_reduced (factor : ℝ) {uppers owns : List ℝ} (same : uppers.length = owns.length)
    (values : List ℝ) :
    (List.zipWith (· * ·) (List.zipWith (fun upper own => -upper * factor + own) uppers owns)
      values).sum = -factor * (List.zipWith (· * ·) uppers values).sum +
        (List.zipWith (· * ·) owns values).sum := by
  induction uppers generalizing owns values with
  | nil =>
    cases owns with
    | nil => simp
    | cons own owns => cases same
  | cons upper uppers ih =>
    cases owns with
    | nil => cases same
    | cons own owns =>
      cases values with
      | nil => simp
      | cons value values =>
        simp only [List.zipWith_cons_cons, List.sum_cons, ih (Nat.succ.inj same)]
        ring

/-- The sum of products with zeros. -/
theorem sum_replicate_zero (coefficients : List ℝ) (count : Nat) :
    (List.zipWith (· * ·) coefficients (List.replicate count 0)).sum = 0 := by
  induction coefficients generalizing count with
  | nil => simp
  | cons coefficient coefficients ih =>
    cases count with
    | zero => simp
    | succ count => rw [List.replicate_succ, List.zipWith_cons_cons, List.sum_cons, ih, mul_zero,
        add_zero]

/-- The left-hand side of a reduced equation. -/
theorem left_reduce {pivot equation : Equation ℝ} {size : Nat}
    (width : pivot.coefficients.length = size + 1)
    (widthOther : equation.coefficients.length = size + 1) (reciprocal : ℝ) (values : List ℝ) :
    (reduce reciprocal pivot equation).left values =
      -(equation.head * reciprocal) *
          (List.zipWith (· * ·) pivot.coefficients.tail values).sum +
        (List.zipWith (· * ·) equation.coefficients.tail values).sum :=
  sum_reduced _ (by rw [List.length_tail, List.length_tail, width, widthOther]) values

/-- The first unknown is what is left of the right-hand side, divided by its coefficient. -/
theorem backSubstitute_real (pivot : Equation ℝ) (known : List ℝ) :
    backSubstitute pivot known =
      (pivot.right - (List.zipWith (· * ·) pivot.coefficients.tail known).sum) / pivot.head := by
  have fold (coefficients : List ℝ) :
      (List.zip coefficients known).foldr
        (fun (coefficient, value) right => -value * coefficient + right) pivot.right =
          pivot.right - (List.zipWith (· * ·) coefficients known).sum := by
    induction coefficients generalizing known with
    | nil => simp
    | cons coefficient coefficients ih =>
      cases known with
      | nil => simp
      | cons value known =>
        simp only [List.zip_cons_cons, List.foldr_cons, ih, List.zipWith_cons_cons, List.sum_cons]
        ring
  unfold backSubstitute
  rw [fold]

/-! ### All unknowns -/

/-- Equations in as many unknowns as there are equations. -/
structure IsSquare (size : Nat) (equations : List (Equation ℝ)) : Prop where
  count : equations.length = size
  width : ∀ equation ∈ equations, equation.coefficients.length = size

/-- What remains of square equations is square. -/
theorem IsSquare.reduced {size : Nat} {first : Equation ℝ} {others : List (Equation ℝ)}
    (square : IsSquare (size + 1) (first :: others)) (reciprocal : ℝ) :
    (choosePivot first others).1.coefficients.length = size + 1 ∧
      (∀ equation ∈ (choosePivot first others).2, equation.coefficients.length = size + 1) ∧
      IsSquare size
        ((choosePivot first others).2.map (reduce reciprocal (choosePivot first others).1)) := by
  have same := choosePivot_perm first others
  have pivotWidth := square.width _ (same.subset List.mem_cons_self)
  have otherWidth : ∀ equation ∈ (choosePivot first others).2,
      equation.coefficients.length = size + 1 := fun equation among =>
    square.width _ (same.subset (List.mem_cons_of_mem _ among))
  refine ⟨pivotWidth, otherWidth, ?_, ?_⟩
  · have lengths := same.length_eq.trans square.count
    rw [List.length_cons] at lengths
    rw [List.length_map]
    exact Nat.succ.inj lengths
  · intro equation among
    obtain ⟨source, amongOthers, rfl⟩ := List.mem_map.mp among
    simp only [reduce, List.length_zipWith, List.length_tail, pivotWidth,
      otherWidth source amongOthers, Nat.add_sub_cancel, Nat.min_self]

/-- A step of elimination. -/
theorem solveEquations_cons (size : Nat) (first : Equation ℝ) (others : List (Equation ℝ)) :
    solveEquations (size + 1) (first :: others) =
      if (choosePivot first others).1.head == 0 then none
      else (solveEquations size ((choosePivot first others).2.map
        (reduce (1 / (choosePivot first others).1.head) (choosePivot first others).1))).map
          fun known => backSubstitute (choosePivot first others).1 known :: known := by
  rw [solveEquations]
  obtain ⟨pivot, rest⟩ := choosePivot first others
  simp only
  split_ifs
  · rfl
  · cases solveEquations size (rest.map (reduce (1 / pivot.head) pivot)) <;> rfl

/-- **Unknowns that are found satisfy every equation.** -/
theorem solveEquations_sound {size : Nat} {equations : List (Equation ℝ)}
    (square : IsSquare size equations) {values : List ℝ}
    (found : solveEquations size equations = some values) :
    values.length = size ∧ ∀ equation ∈ equations, equation.left values = equation.right := by
  induction size generalizing equations values with
  | zero =>
    cases List.length_eq_zero_iff.mp square.count
    cases found
    exact ⟨rfl, fun equation among => by cases among⟩
  | succ size ih =>
    cases equations with
    | nil => cases square.count
    | cons first others =>
      rw [solveEquations_cons] at found
      split_ifs at found with flat
      rw [Number.beq_real] at flat
      obtain ⟨known, solved, rfl⟩ := Option.map_eq_some_iff.mp found
      obtain ⟨pivotWidth, otherWidth, reduced⟩ :=
        square.reduced (1 / (choosePivot first others).1.head)
      obtain ⟨length, holds⟩ := ih reduced solved
      have holdsPivot : (choosePivot first others).1.left
          (backSubstitute (choosePivot first others).1 known :: known) =
            (choosePivot first others).1.right := by
        rw [left_cons pivotWidth, backSubstitute_real, mul_div_cancel₀ _ flat, sub_add_cancel]
      refine ⟨congrArg Nat.succ length, ?_⟩
      intro equation among
      obtain rfl | amongOthers :=
        List.mem_cons.mp ((choosePivot_perm first others).symm.subset among)
      · exact holdsPivot
      · have holdsReduced := holds _ (List.mem_map_of_mem amongOthers)
        rw [left_reduce pivotWidth (otherWidth _ amongOthers)] at holdsReduced
        simp only [reduce] at holdsReduced
        rw [left_cons (otherWidth _ amongOthers), backSubstitute_real]
        field_simp at holdsReduced ⊢
        linarith

/-- **Where no unknowns are found** the homogeneous equations have a solution other than zero. -/
theorem solveEquations_none {size : Nat} {equations : List (Equation ℝ)}
    (square : IsSquare size equations) (unsolved : solveEquations size equations = none) :
    ∃ values, values.length = size ∧ (∃ value ∈ values, value ≠ 0) ∧
      ∀ equation ∈ equations, equation.left values = 0 := by
  induction size generalizing equations with
  | zero =>
    cases List.length_eq_zero_iff.mp square.count
    cases unsolved
  | succ size ih =>
    cases equations with
    | nil => cases square.count
    | cons first others =>
      obtain ⟨pivotWidth, otherWidth, reduced⟩ :=
        square.reduced (1 / (choosePivot first others).1.head)
      rw [solveEquations_cons] at unsolved
      split_ifs at unsolved with flat
      · -- no equation has the first unknown
        rw [Number.beq_real] at flat
        refine ⟨1 :: List.replicate size 0, by simp, ⟨1, by simp, one_ne_zero⟩,
          fun equation among => ?_⟩
        have zero : equation.head = 0 := by
          have small := choosePivot_largest first others among
          rw [flat, abs_zero] at small
          exact abs_nonpos_iff.mp small
        rw [left_cons (square.width _ among), zero, zero_mul, zero_add, sum_replicate_zero]
      · rw [Number.beq_real] at flat
        rw [Option.map_eq_none_iff] at unsolved
        obtain ⟨known, length, ⟨value, amongKnown, nonzero⟩, holds⟩ := ih reduced unsolved
        let leading := -(List.zipWith (· * ·) (choosePivot first others).1.coefficients.tail
          known).sum / (choosePivot first others).1.head
        refine ⟨leading :: known, congrArg Nat.succ length,
          ⟨value, List.mem_cons_of_mem _ amongKnown, nonzero⟩, fun equation among => ?_⟩
        obtain rfl | amongOthers :=
          List.mem_cons.mp ((choosePivot_perm first others).symm.subset among)
        · rw [left_cons pivotWidth, mul_div_cancel₀ _ flat, neg_add_cancel]
        · have holdsReduced := holds _ (List.mem_map_of_mem amongOthers)
          rw [left_reduce pivotWidth (otherWidth _ amongOthers)] at holdsReduced
          rw [left_cons (otherWidth _ amongOthers)]
          simp only [leading]
          field_simp at holdsReduced ⊢
          linarith

/-! ### Systems -/

variable {n : Nat}

/-- The equations of a system. -/
noncomputable def equationsOf (matrix : Dense ℝ n n) (right : Vector ℝ n) : List (Equation ℝ) :=
  List.zipWith (fun row value => Equation.mk row value) (matrix.toList.map Vector.toList)
    right.toList

theorem equationsOf_eq (matrix : Dense ℝ n n) (right : Vector ℝ n) :
    equationsOf matrix right =
      List.ofFn fun i => Equation.mk (matrix.get i).toList (right.get i) := by
  refine List.ext_getElem (by simp [equationsOf]) ?_
  intro i inside _
  simp only [equationsOf, List.getElem_zipWith, List.getElem_map, Vector.getElem_toList,
    List.getElem_ofFn]
  rfl

theorem isSquare_equationsOf (matrix : Dense ℝ n n) (right : Vector ℝ n) :
    IsSquare n (equationsOf matrix right) := by
  rw [equationsOf_eq]
  refine ⟨List.length_ofFn, ?_⟩
  rw [List.forall_mem_ofFn_iff]
  exact fun i => Vector.length_toList

/-- The left-hand side of an equation of a system. -/
theorem left_toList (row values : Vector ℝ n) (right : ℝ) :
    (Equation.mk row.toList right).left values.toList = Column.dot row values := by
  unfold Equation.left
  rw [← Vector.toList_zipWith, toList_eq_ofFn, List.sum_ofFn, Column.dot_real]
  simp only [get_zipWith]
  rfl

/-- The unknowns of a list of the right length. -/
theorem toList_unknowns {values : List ℝ} (length : values.length = n) :
    (Vector.ofFn fun i : Fin n => values.getD i 0).toList = values := by
  refine List.ext_getElem (by simp [length]) ?_
  intro i inside within
  rw [Vector.getElem_toList, Vector.getElem_ofFn, List.getD_eq_getElem _ _ within]

/-- **A solution that is found solves the system.** -/
theorem solve_sound {matrix : Dense ℝ n n} {right solution : Vector ℝ n}
    (found : solve matrix right = some solution) : matrix.apply solution = right := by
  obtain ⟨values, solved, rfl⟩ := Option.map_eq_some_iff.mp found
  obtain ⟨length, holds⟩ := solveEquations_sound (isSquare_equationsOf matrix right) solved
  rw [equationsOf_eq, List.forall_mem_ofFn_iff, ← toList_unknowns length] at holds
  apply ext_get
  intro i
  rw [Dense.get_apply, ← left_toList _ _ (right.get i)]
  exact holds i

/-- **Every nonsingular system is solved.** -/
theorem solve_nonsingular (matrix : Dense ℝ n n) (right : Vector ℝ n)
    (nonsingular : matrix.toMatrix.det ≠ 0) :
    ∃ solution, solve matrix right = some solution ∧ matrix.apply solution = right := by
  cases found : solveEquations n (equationsOf matrix right) with
  | none =>
    obtain ⟨values, length, ⟨value, among, nonzero⟩, holds⟩ :=
      solveEquations_none (isSquare_equationsOf matrix right) found
    rw [equationsOf_eq, List.forall_mem_ofFn_iff, ← toList_unknowns length] at holds
    let unknowns : Vector ℝ n := Vector.ofFn fun i => values.getD i 0
    refine absurd (exists_mulVec_eq_zero_iff.mp
      ⟨unknowns.get, fun vanishes => nonzero ?_, funext fun i => ?_⟩) nonsingular
    · rw [← toList_unknowns length, toList_eq_ofFn, List.mem_ofFn] at among
      obtain ⟨i, rfl⟩ := among
      exact congrFun vanishes i
    · rw [← Dense.get_apply_real, Dense.get_apply, ← left_toList _ _ (right.get i)]
      exact holds i
  | some values =>
    have answered : solve matrix right = some _ := congrArg (Option.map _) found
    exact ⟨_, answered, solve_sound answered⟩

end Elimination

end MultipleShooting
