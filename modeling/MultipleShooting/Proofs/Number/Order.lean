/-
**The order of doubles and its ends.**

* `Double.le_infinity`, `Double.neg_infinity_le`: every number lies between the two infinities, and
  an ordinary one is neither (`Double.lt_infinity`, `Double.neg_infinity_lt`);
* `Double.larger_eq_left`, `Double.larger_eq_right`: which operand a maximum is;
* `Double.le_larger`, `Double.smaller_le`, `Double.le_smaller`: where maxima and minima lie.
-/
import MultipleShooting.Proofs.Number.Sign

namespace MultipleShooting

namespace Double

open Float.Model Float.Model.UnpackedFloat

theorem isNaN_eq_false_iff {value : Float} :
    Number.isNaN value = false ↔ parts value ≠ .notANumber := by
  rw [← Bool.not_eq_true, isNaN_iff]

/-- A double is determined by its parts. -/
theorem eq_of_parts {left right : Float} (same : parts left = parts right) : left = right := by
  rw [← ofModel_pack_parts left, same, ofModel_pack_parts]

/-- What lies at or above a number is one. -/
theorem isNaN_of_le {least value : Float} (above : least ≤ value) : Number.isNaN value = false :=
  isNaN_eq_false_iff.mpr (le_iff.mp above).2.1

theorem le_refl {value : Float} (number : Number.isNaN value = false) : value ≤ value :=
  le_of_not_lt number number fun below => lt_irrefl _ (lt_iff.mp below).2.2

/-! ### Infinities -/

theorem rank_le_infinity {value : UnpackedFloat} (number : value ≠ .notANumber) :
    rank value ≤ rank (.infinity .positive) := by
  cases value with
  | notANumber => exact absurd rfl number
  | infinity sign => cases sign <;> decide
  | zero sign => exact (rank_lt_infinity rfl).le
  | finite sign mantissa exponent positive => exact (rank_lt_infinity rfl).le

/-- An ordinary number is above negative infinity. -/
theorem infinity_lt_rank {value : UnpackedFloat} (finite : value.isFinite = true) :
    rank (.infinity .negative) < rank value := by
  rcases value with _ | _ | _ | ⟨sign, _, _, _⟩
  · cases finite
  · cases finite
  · exact Prod.Lex.toLex_lt_toLex.mpr (.inl (by simp))
  · cases sign <;> exact Prod.Lex.toLex_lt_toLex.mpr (.inl (by simp))

theorem infinity_le_rank {value : UnpackedFloat} (number : value ≠ .notANumber) :
    rank (.infinity .negative) ≤ rank value := by
  cases value with
  | notANumber => exact absurd rfl number
  | infinity sign => cases sign <;> decide
  | zero sign => exact (infinity_lt_rank rfl).le
  | finite sign mantissa exponent positive => exact (infinity_lt_rank rfl).le

theorem parts_zero : parts 0 = .zero .positive := rfl

theorem parts_infinity : parts (Number.infinity : Float) = .infinity .positive := rfl

theorem parts_neg_infinity : parts (-Number.infinity : Float) = .infinity .negative := by
  rw [parts_neg (by simp [parts_infinity]), parts_infinity]
  rfl

/-- Every number is at most the infinite one. -/
theorem le_infinity {value : Float} (number : Number.isNaN value = false) :
    value ≤ Number.infinity := by
  rw [isNaN_eq_false_iff] at number
  refine le_iff.mpr ⟨number, ?_, ?_⟩
  · simp [parts_infinity]
  · rw [parts_infinity]
    exact rank_le_infinity number

/-- Every number is at least the negative infinite one. -/
theorem neg_infinity_le {value : Float} (number : Number.isNaN value = false) :
    -Number.infinity ≤ value := by
  rw [isNaN_eq_false_iff] at number
  refine le_iff.mpr ⟨?_, number, ?_⟩
  · simp [parts_neg_infinity]
  · rw [parts_neg_infinity]
    exact infinity_le_rank number

/-- An ordinary number is below the infinite one. -/
theorem lt_infinity {value : Float} (finite : Number.isFinite value = true) :
    value < Number.infinity := by
  refine lt_iff.mpr ⟨(unpacked_isFinite_iff.mp finite).1, ?_, ?_⟩
  · simp [parts_infinity]
  · rw [parts_infinity]
    exact rank_lt_infinity finite

/-- An ordinary number is above the negative infinite one. -/
theorem neg_infinity_lt {value : Float} (finite : Number.isFinite value = true) :
    -Number.infinity < value := by
  refine lt_iff.mpr ⟨?_, (unpacked_isFinite_iff.mp finite).1, ?_⟩
  · simp [parts_neg_infinity]
  · rw [parts_neg_infinity]
    exact infinity_lt_rank finite

theorem neg_infinity_lt_infinity : (-Number.infinity : Float) < Number.infinity :=
  lt_iff.mpr ⟨by simp [parts_neg_infinity], by simp [parts_infinity], by
    rw [parts_neg_infinity, parts_infinity]
    decide⟩

theorem isNaN_infinity : Number.isNaN (Number.infinity : Float) = false :=
  isNaN_eq_false_iff.mpr (by simp [parts_infinity])

theorem isNaN_neg_infinity : Number.isNaN (-Number.infinity : Float) = false :=
  isNaN_eq_false_iff.mpr (by simp [parts_neg_infinity])

theorem isFinite_zero : Number.isFinite (0 : Float) = true := rfl

/-- A number that is no ordinary one is infinite. -/
theorem eq_infinity_of_not_isFinite {value : Float} (infinite : Number.isFinite value = false)
    (number : Number.isNaN value = false) :
    value = Number.infinity ∨ value = -Number.infinity := by
  rw [isNaN_eq_false_iff] at number
  have notFinite : (parts value).isFinite = false := infinite
  cases same : parts value with
  | notANumber => exact absurd same number
  | infinity sign =>
    cases sign with
    | positive => exact .inl (eq_of_parts (same.trans parts_infinity.symm))
    | negative => exact .inr (eq_of_parts (same.trans parts_neg_infinity.symm))
  | zero sign =>
    rw [same] at notFinite
    cases notFinite
  | finite sign significand exponent positive =>
    rw [same] at notFinite
    cases notFinite

/-- A double that is infinite or undefined is one of three. -/
theorem eq_of_not_isFinite {value : Float} (infinite : Number.isFinite value = false) :
    value = 1.0 / 0.0 ∨ value = -(1.0 / 0.0) ∨ value = 0.0 / 0.0 := by
  by_cases number : parts value = .notANumber
  · have undefined : parts (0.0 / 0.0) = .notANumber := rfl
    exact .inr (.inr (eq_of_parts (number.trans undefined.symm)))
  · exact (eq_infinity_of_not_isFinite infinite (isNaN_eq_false_iff.mpr number)).imp id .inl

/-! ### Maxima and minima -/

/-- A maximum is its first operand if that is the larger one. -/
theorem larger_eq_left {left right : Float} (below : right < left) :
    Number.larger left right = left := by
  obtain ⟨second, first, -⟩ := lt_iff.mp below
  unfold Number.larger
  rw [isNaN_eq_false_iff.mpr first, isNaN_eq_false_iff.mpr second, if_pos below]
  rfl

/-- A maximum is its second operand if that is a number and the first one is not larger. -/
theorem larger_eq_right {left right : Float} (number : parts right ≠ .notANumber)
    (within : ¬ right < left) : Number.larger left right = right := by
  unfold Number.larger
  rw [isNaN_eq_false_iff.mpr number, if_neg within, if_neg Bool.false_ne_true, ite_self]

/-- A maximum drops a first operand that is a NaN. -/
theorem larger_of_isNaN {left : Float} (undefined : Number.isNaN left = true) (right : Float) :
    Number.larger left right = right :=
  if_pos undefined

/-- A maximum with a number is at least that number. -/
theorem le_larger (value : Float) {bound : Float} (number : Number.isNaN bound = false) :
    bound ≤ Number.larger value bound := by
  unfold Number.larger
  rw [number, if_neg Bool.false_ne_true]
  split_ifs with undefined below
  · exact le_refl number
  · exact le_of_lt below
  · exact le_refl number

/-- A minimum with a number is at most that number, and above what is below both operands. -/
theorem smaller_le (value : Float) {bound : Float} (number : Number.isNaN bound = false) :
    Number.smaller value bound ≤ bound := by
  unfold Number.smaller
  rw [number, if_neg Bool.false_ne_true]
  split_ifs with undefined below
  · exact le_refl number
  · exact le_of_lt below
  · exact le_refl number

theorem le_smaller {least value bound : Float} (first : least ≤ value) (second : least ≤ bound) :
    least ≤ Number.smaller value bound := by
  unfold Number.smaller
  split_ifs
  · exact second
  · exact first
  · exact first
  · exact second

end Double

end MultipleShooting
