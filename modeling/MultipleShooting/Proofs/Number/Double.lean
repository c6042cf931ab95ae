/-
**Doubles with their infinities and NaNs.**

What an operation on doubles lets through:

* `Double.isFinite_of_add`, `Double.isFinite_of_sub`, `Double.isFinite_of_mul`: an ordinary result
  has ordinary operands, so no infinity and no NaN is lost in a sum or a product;
* `Double.le_trans`, `Double.le_of_not_lt`: off the NaNs the comparison is a linear order, read off
  sign, exponent and mantissa (`Double.compare_eq`);
* `Double.isFinite_of_abs_le`: a magnitude within an ordinary bound is that of an ordinary number;
* `Double.le_of_larger_le`: **a maximum keeps the bound of both operands, unless one is a NaN**,
  which it drops.
-/
import MultipleShooting.Number.Double
import Mathlib

namespace MultipleShooting

namespace Double

open Float.Model Float.Model.UnpackedFloat

/-! ### Parts -/

/-- The sign, mantissa and exponent of a double, or what it is instead of a number. -/
def parts (value : Float) : UnpackedFloat := value.toModel.unpack

theorem unpack_pack_infinity (sign : Sign) : (pack (.infinity sign)).unpack = .infinity sign := by
  cases sign <;> rfl

/-- Bits whose exponent is not the last one, or whose mantissa is zero, are no NaN. -/
theorem unpack_ne_notANumber {bits : BitVec Format.binary64.numBits}
    (number : unpackExponent bits ≠ -1#11 ∨ unpackMantissa bits = 0#52) :
    UnpackedFloat.unpack Format.binary64 bits ≠ .notANumber := by
  simp only [UnpackedFloat.unpack]
  split_ifs with last empty
  · exact fun same => by cases same
  · exact absurd (number.resolve_left (not_not_intro last)) empty
  · exact fun same => by cases same
  · exact fun same => by cases same
  · exact fun same => by cases same

/-- What is no NaN is not stored as one. -/
theorem unpack_pack_ne_notANumber {value : UnpackedFloat} (number : value ≠ .notANumber) :
    (pack value).unpack ≠ .notANumber := by
  cases value with
  | notANumber => exact absurd rfl number
  | infinity sign =>
    rw [unpack_pack_infinity]
    exact number
  | zero sign => cases sign <;> exact fun same => by cases same
  | finite sign mantissa exponent positive =>
    refine unpack_ne_notANumber ?_
    show unpackExponent (UnpackedFloat.pack Format.binary64 _) ≠ _ ∨
      unpackMantissa (UnpackedFloat.pack Format.binary64 _) = _
    rw [UnpackedFloat.pack]
    split_ifs with beyond normal
    · exact .inr unpackMantissa_packComponents
    · refine .inl ?_
      rw [unpackExponent_packComponents]
      intro same
      have value := congrArg BitVec.toNat same
      have last : (-1#11).toNat = 2047 := rfl
      have exponents : 2 ^ Format.binary64.exponentBits = 2048 := rfl
      rw [BitVec.toNat_ofNat, last, Nat.mod_eq_of_lt (by omega)] at value
      omega
    · refine .inl ?_
      rw [unpackExponent_packComponents]
      decide

/-! ### Order -/

/-- The place of a double in the order, by sign, exponent and mantissa. -/
def rank : UnpackedFloat → ℤ ×ₗ ℤ ×ₗ ℤ
  | .infinity .negative => toLex (-2, toLex (0, 0))
  | .finite .negative mantissa exponent _ => toLex (-1, toLex (-exponent, -mantissa))
  | .zero _ => toLex (0, toLex (0, 0))
  | .finite .positive mantissa exponent _ => toLex (1, toLex (exponent, mantissa))
  | .infinity .positive => toLex (2, toLex (0, 0))
  | .notANumber => toLex (3, toLex (0, 0))

theorem compare_natCast (left right : ℕ) :
    compare (left : ℤ) (right : ℤ) = compare left right := by
  rcases lt_trichotomy left right with below | rfl | above
  · rw [compare_lt_iff_lt.mpr below, compare_lt_iff_lt.mpr (Int.ofNat_lt.mpr below)]
  · rw [compare_eq_iff_eq.mpr rfl, compare_eq_iff_eq.mpr rfl]
  · rw [compare_gt_iff_gt.mpr above, compare_gt_iff_gt.mpr (Int.ofNat_lt.mpr above)]

theorem compare_neg (left right : ℤ) : compare (-left) (-right) = (compare left right).swap := by
  rcases lt_trichotomy left right with below | rfl | above
  · rw [compare_lt_iff_lt.mpr below, compare_gt_iff_gt.mpr (neg_lt_neg below)]
    rfl
  · rw [compare_eq_iff_eq.mpr rfl, compare_eq_iff_eq.mpr rfl]
    rfl
  · rw [compare_gt_iff_gt.mpr above, compare_lt_iff_lt.mpr (neg_lt_neg above)]
    rfl

/-- **Off the NaNs** doubles compare as their places in the order. -/
theorem compare_eq {left right : UnpackedFloat} (first : left ≠ .notANumber)
    (second : right ≠ .notANumber) :
    left.compare right = some (compare (rank left) (rank right)) := by
  rcases left with s | _ | s | ⟨s, mantissa, exponent, _⟩ <;>
    rcases right with t | _ | t | ⟨t, other, power, _⟩ <;>
    (try cases s) <;> (try cases t) <;>
    try first | exact absurd rfl first | exact absurd rfl second | rfl
  · show some ((compare exponent power).then (compare mantissa other)).swap =
      some ((compare (-1 : ℤ) (-1)).then ((compare (-exponent) (-power)).then
        (compare (-(mantissa : ℤ)) (-(other : ℤ)))))
    rw [compare_neg exponent, compare_neg (mantissa : ℤ), compare_natCast, Ordering.swap_then]
    rfl
  · show some ((compare exponent power).then (compare mantissa other)) =
      some ((compare (1 : ℤ) 1).then ((compare exponent power).then
        (compare (mantissa : ℤ) (other : ℤ))))
    rw [compare_natCast]
    rfl

theorem le_iff {left right : Float} : left ≤ right ↔ parts left ≠ .notANumber ∧
    parts right ≠ .notANumber ∧ rank (parts left) ≤ rank (parts right) := by
  have compared : left ≤ right ↔ ((parts left).compare (parts right)).any (·.isLE) = true := by
    show (decide (left.toModel ≤ right.toModel) = true) ↔ _
    rw [decide_eq_true_eq]
    rfl
  rw [compared]
  by_cases first : parts left = .notANumber
  · simp [first, UnpackedFloat.compare]
  · by_cases second : parts right = .notANumber
    · cases parts left <;> simp [second, UnpackedFloat.compare]
    · simp only [compare_eq first second, Option.any_some, ne_eq, first, second, not_false_eq_true,
        true_and]
      exact Ordering.isLE_iff_ne_gt.trans compare_le_iff_le

theorem lt_iff {left right : Float} : left < right ↔ parts left ≠ .notANumber ∧
    parts right ≠ .notANumber ∧ rank (parts left) < rank (parts right) := by
  have compared : left < right ↔ (parts left).compare (parts right) = some .lt := by
    show (decide (left.toModel < right.toModel) = true) ↔ _
    rw [decide_eq_true_eq]
    exact beq_iff_eq
  rw [compared]
  by_cases first : parts left = .notANumber
  · simp [first, UnpackedFloat.compare]
  · by_cases second : parts right = .notANumber
    · cases parts left <;> simp [second, UnpackedFloat.compare]
    · simp only [compare_eq first second, Option.some.injEq, ne_eq, first, second,
        not_false_eq_true, true_and]
      exact compare_lt_iff_lt

theorem isNaN_iff (value : Float) : Number.isNaN value = true ↔ parts value = .notANumber := by
  show (!((parts value).compare (parts value) == some .eq)) = true ↔ _
  by_cases number : parts value = .notANumber
  · simp [number, UnpackedFloat.compare]
  · simp [number, compare_eq]

theorem le_trans {first second third : Float} (below : first ≤ second) (above : second ≤ third) :
    first ≤ third := by
  rw [le_iff] at below above ⊢
  exact ⟨below.1, above.2.1, below.2.2.trans above.2.2⟩

theorem le_of_lt {left right : Float} (below : left < right) : left ≤ right := by
  rw [lt_iff] at below
  exact le_iff.mpr ⟨below.1, below.2.1, below.2.2.le⟩

/-- Off the NaNs the comparison is total. -/
theorem le_of_not_lt {left right : Float} (first : Number.isNaN left = false)
    (second : Number.isNaN right = false) (beyond : ¬ right < left) : left ≤ right := by
  have firstNumber : parts left ≠ .notANumber := fun same => by
    rw [(isNaN_iff left).mpr same] at first
    cases first
  have secondNumber : parts right ≠ .notANumber := fun same => by
    rw [(isNaN_iff right).mpr same] at second
    cases second
  refine le_iff.mpr ⟨firstNumber, secondNumber, not_lt.mp fun below => beyond ?_⟩
  exact lt_iff.mpr ⟨secondNumber, firstNumber, below⟩

/-! ### Ordinary numbers -/

theorem unpacked_isFinite_iff {value : UnpackedFloat} : value.isFinite = true ↔
    value ≠ .notANumber ∧ ∀ sign, value ≠ .infinity sign := by
  cases value <;> simp [UnpackedFloat.isFinite]

/-- What is stored is an ordinary number only if it was one before. -/
theorem isFinite_of_pack {value : UnpackedFloat} (finite : (pack value).unpack.isFinite = true) :
    value.isFinite = true := by
  cases value with
  | notANumber => cases finite
  | infinity sign =>
    rw [unpack_pack_infinity] at finite
    cases finite
  | zero sign => rfl
  | finite sign mantissa exponent positive => rfl

theorem unpacked_isFinite_of_add {left right : UnpackedFloat}
    (finite : (UnpackedFloat.add Format.binary64 left right).isFinite = true) :
    left.isFinite = true ∧ right.isFinite = true := by
  rcases left with s | _ | s | _ <;> rcases right with t | _ | t | _ <;>
    first | exact ⟨rfl, rfl⟩ | cases finite | skip
  · cases s <;> cases t <;> cases finite

theorem unpacked_isFinite_of_sub {left right : UnpackedFloat}
    (finite : (UnpackedFloat.sub Format.binary64 left right).isFinite = true) :
    left.isFinite = true ∧ right.isFinite = true := by
  rcases left with s | _ | s | _ <;> rcases right with t | _ | t | _ <;>
    first | exact ⟨rfl, rfl⟩ | cases finite | skip
  · cases s <;> cases t <;> cases finite

theorem unpacked_isFinite_of_mul {left right : UnpackedFloat}
    (finite : (UnpackedFloat.mul Format.binary64 left right).isFinite = true) :
    left.isFinite = true ∧ right.isFinite = true := by
  rcases left with s | _ | s | _ <;> rcases right with t | _ | t | _ <;>
    first | exact ⟨rfl, rfl⟩ | cases finite

/-- No infinity and no NaN is lost in a sum. -/
theorem isFinite_of_add {left right : Float} (finite : Number.isFinite (left + right) = true) :
    Number.isFinite left = true ∧ Number.isFinite right = true :=
  unpacked_isFinite_of_add (isFinite_of_pack finite)

/-- No infinity and no NaN is lost in a difference. -/
theorem isFinite_of_sub {left right : Float} (finite : Number.isFinite (left - right) = true) :
    Number.isFinite left = true ∧ Number.isFinite right = true :=
  unpacked_isFinite_of_sub (isFinite_of_pack finite)

/-- No infinity and no NaN is lost in a product. -/
theorem isFinite_of_mul {left right : Float} (finite : Number.isFinite (left * right) = true) :
    Number.isFinite left = true ∧ Number.isFinite right = true :=
  unpacked_isFinite_of_mul (isFinite_of_pack finite)

/-- Only an ordinary number has an ordinary magnitude. -/
theorem isFinite_of_abs {value : Float} (finite : Number.isFinite (Number.abs value) = true) :
    Number.isFinite value = true := by
  have magnitude : (parts value).abs.isFinite = true := isFinite_of_pack finite
  show (parts value).isFinite = true
  generalize parts value = value at magnitude ⊢
  cases value <;> exact magnitude

/-- The magnitude of a number is one. -/
theorem isNaN_abs {value : Float} (number : Number.isNaN value = false) :
    Number.isNaN (Number.abs value) = false := by
  rw [← Bool.not_eq_true, isNaN_iff] at number ⊢
  have magnitude : (parts value).abs ≠ .notANumber := by
    generalize parts value = value at number ⊢
    cases value with
    | notANumber => exact absurd rfl number
    | infinity _ => exact fun same => by cases same
    | zero _ => exact fun same => by cases same
    | finite _ _ _ _ => exact fun same => by cases same
  exact unpack_pack_ne_notANumber magnitude

/-- An ordinary number is below positive infinity. -/
theorem rank_lt_infinity {value : UnpackedFloat} (finite : value.isFinite = true) :
    rank value < rank (.infinity .positive) := by
  rcases value with _ | _ | _ | ⟨sign, _, _, _⟩
  · cases finite
  · cases finite
  · exact Prod.Lex.toLex_lt_toLex.mpr (.inl (by simp))
  · cases sign <;> exact Prod.Lex.toLex_lt_toLex.mpr (.inl (by simp))

/-- **A magnitude within an ordinary bound** is that of an ordinary number. -/
theorem isFinite_of_abs_le {value bound : Float} (within : Number.abs value ≤ bound)
    (ordinary : Number.isFinite bound = true) : Number.isFinite value = true := by
  obtain ⟨number, _, ordered⟩ := le_iff.mp within
  refine unpacked_isFinite_iff.mpr ⟨fun same => number ?_, ?_⟩
  · show (pack (parts value).abs).unpack = _
    rw [show parts value = .notANumber from same]
    rfl
  · intro sign same
    have magnitude : parts (Number.abs value) = .infinity .positive := by
      show (pack (parts value).abs).unpack = _
      rw [show parts value = .infinity sign from same]
      exact unpack_pack_infinity .positive
    rw [magnitude] at ordered
    exact absurd (rank_lt_infinity ordinary) (not_lt.mpr ordered)

/-- An ordinary number is no NaN. -/
theorem isNaN_of_isFinite {value : Float} (finite : Number.isFinite value = true) :
    Number.isNaN value = false := by
  rw [← Bool.not_eq_true, isNaN_iff]
  exact (unpacked_isFinite_iff.mp finite).1

/-! ### Maxima -/

/-- A maximum is a number as soon as its first operand is one. -/
theorem isNaN_larger {left right : Float} (number : Number.isNaN left = false) :
    Number.isNaN (Number.larger left right) = false := by
  unfold Number.larger
  rw [number, if_neg Bool.false_ne_true]
  split_ifs with second
  · exact number
  · exact number
  · simpa using second

/-- **A maximum keeps the bound of both operands**, unless the second one is a NaN. -/
theorem le_of_larger_le {left right bound : Float} (number : Number.isNaN left = false)
    (within : Number.larger left right ≤ bound) :
    left ≤ bound ∧ (Number.isNaN right = false → right ≤ bound) := by
  unfold Number.larger at within
  rw [number, if_neg Bool.false_ne_true] at within
  split_ifs at within with second below
  · exact ⟨within, fun other => absurd second (by simp [other])⟩
  · exact ⟨within, fun _ => le_trans (le_of_lt below) within⟩
  · exact ⟨le_trans (le_of_not_lt number (by simpa using second) below) within, fun _ => within⟩

end Double

end MultipleShooting
