/-
**Differences taken either way.**

* `sub_isOpposite`: exchanging the operands of a difference of doubles negates it, except that
  equal operands have the positive zero either way;
* `larger_differences`: hence **the largest of both differences and zero is their magnitude**, zero
  taking the place of a NaN. The second difference may be from an equal double, such as the zero of
  the other sign.
-/
import MultipleShooting.Proofs.Number.Order

namespace MultipleShooting

namespace Double

open Float.Model Float.Model.UnpackedFloat

/-! ### Rounding under the other sign -/

theorem roundWithAccuracy_neg (sign : Sign) (mantissa : ℕ) (exponent : ℤ) (accuracy : Accuracy) :
    roundWithAccuracy Format.binary64 (-sign) mantissa exponent accuracy =
      (roundWithAccuracy Format.binary64 sign mantissa exponent accuracy).neg := by
  simp only [UnpackedFloat.roundWithAccuracy]
  split_ifs <;> rfl

theorem normalize_neg {mantissa : ℤ} (nonzero : mantissa ≠ 0) (exponent : ℤ) :
    UnpackedFloat.normalize Format.binary64 (-mantissa) exponent .positive =
      (UnpackedFloat.normalize Format.binary64 mantissa exponent .positive).neg := by
  rcases lt_or_gt_of_ne nonzero with below | above
  · have first : compare (-mantissa) 0 = .gt := compare_gt_iff_gt.mpr (neg_pos.mpr below)
    have second : compare mantissa 0 = .lt := compare_lt_iff_lt.mpr below
    simp only [UnpackedFloat.normalize, first, second]
    exact roundWithAccuracy_neg .negative _ _ _
  · have first : compare (-mantissa) 0 = .lt := compare_lt_iff_lt.mpr (neg_neg_iff_pos.mpr above)
    have second : compare mantissa 0 = .gt := compare_gt_iff_gt.mpr above
    simp only [UnpackedFloat.normalize, first, second, neg_neg]
    exact roundWithAccuracy_neg .positive _ _ _

/-! ### Opposite values -/

/-- Of two opposite values one is the negative of the other, or both are zeros of any sign. -/
def IsOpposite (left right : UnpackedFloat) : Prop :=
  left = right.neg ∨ ∃ first second, left = .zero first ∧ right = .zero second

theorem normalize_sub_isOpposite (left right exponent : ℤ) :
    IsOpposite (UnpackedFloat.normalize Format.binary64 (right - left) exponent .positive)
      (UnpackedFloat.normalize Format.binary64 (left - right) exponent .positive) := by
  rcases eq_or_ne left right with rfl | differ
  · rw [sub_self]
    exact .inr ⟨_, _, rfl, rfl⟩
  · rw [← neg_sub]
    exact .inl (normalize_neg (sub_ne_zero.mpr differ) exponent)

/-- **Exchanging the operands** of a difference gives the opposite. -/
theorem unpacked_sub_isOpposite (left right : UnpackedFloat) :
    IsOpposite (UnpackedFloat.sub Format.binary64 right left)
      (UnpackedFloat.sub Format.binary64 left right) := by
  rcases left with s | _ | s | ⟨s, mantissa, exponent, positive⟩ <;>
    rcases right with t | _ | t | ⟨t, other, power, otherPositive⟩ <;>
    (try cases s) <;> (try cases t) <;>
    first | exact .inl rfl | exact .inr ⟨_, _, rfl, rfl⟩ | skip
  all_goals
    simp only [UnpackedFloat.sub, min_comm power exponent]
    exact normalize_sub_isOpposite _ _ _

/-- Values keep being opposite when they are stored. -/
theorem IsOpposite.pack {left right : UnpackedFloat} (opposite : IsOpposite left right) :
    IsOpposite (Float.Model.pack left).unpack (Float.Model.pack right).unpack := by
  obtain rfl | ⟨first, second, rfl, rfl⟩ := opposite
  · by_cases undefined : right = .notANumber
    · rw [undefined]
      exact .inl rfl
    · have flipped : UnpackedFloat.pack Format.binary64 right.neg =
          negatedBits (UnpackedFloat.pack Format.binary64 right) := by
        cases right with
        | notANumber => exact absurd rfl undefined
        | infinity sign => cases sign <;> rfl
        | zero sign => cases sign <;> rfl
        | finite sign mantissa exponent positive =>
          simp only [UnpackedFloat.neg, UnpackedFloat.pack]
          split_ifs <;> cases sign <;>
            simp only [packedInfinity, negatedBits, unpackSign_packComponents,
              unpackExponent_packComponents, unpackMantissa_packComponents,
              Sign.ofBitVec_toBitVec]
      refine .inl ?_
      show UnpackedFloat.unpack Format.binary64 (UnpackedFloat.pack Format.binary64 right.neg) =
        (UnpackedFloat.unpack Format.binary64 (UnpackedFloat.pack Format.binary64 right)).neg
      rw [flipped, neg_unpack]
  · refine .inr ⟨first, second, ?_, ?_⟩
    · cases first <;> rfl
    · cases second <;> rfl

/-- Exchanging the operands of a difference of doubles gives the opposite. -/
theorem sub_isOpposite (left right : Float) :
    IsOpposite (parts (right - left)) (parts (left - right)) :=
  (unpacked_sub_isOpposite (parts left) (parts right)).pack

/-! ### Equal values -/

/-- Two values are the same when they have the same parts or are zeros of any sign. -/
def IsSame (left right : UnpackedFloat) : Prop :=
  left = right ∨ ∃ first second, left = .zero first ∧ right = .zero second

theorem IsSame.symm {left right : UnpackedFloat} (same : IsSame left right) :
    IsSame right left := by
  obtain rfl | ⟨first, second, rfl, rfl⟩ := same
  · exact .inl rfl
  · exact .inr ⟨second, first, rfl, rfl⟩

theorem IsSame.trans {left middle right : UnpackedFloat} (first : IsSame left middle)
    (second : IsSame middle right) : IsSame left right := by
  obtain rfl | ⟨_, _, rfl, rfl⟩ := first
  · exact second
  · obtain rfl | ⟨_, _, _, rfl⟩ := second
    · exact .inr ⟨_, _, rfl, rfl⟩
    · exact .inr ⟨_, _, rfl, rfl⟩

/-- Values keep being the same when they are stored. -/
theorem IsSame.pack {left right : UnpackedFloat} (same : IsSame left right) :
    IsSame (Float.Model.pack left).unpack (Float.Model.pack right).unpack := by
  obtain rfl | ⟨first, second, rfl, rfl⟩ := same
  · exact .inl rfl
  · refine .inr ⟨first, second, ?_, ?_⟩
    · cases first <;> rfl
    · cases second <;> rfl

/-- Values at the same place in the order are the same. -/
theorem isSame_of_rank {left right : UnpackedFloat} (same : rank left = rank right) :
    IsSame left right := by
  rcases left with s | _ | s | ⟨s, mantissa, exponent, _⟩ <;>
    rcases right with t | _ | t | ⟨t, other, power, _⟩ <;>
    (try cases s) <;> (try cases t) <;>
    simp [IsSame, rank, Prod.ext_iff] at same ⊢ <;> omega

/-- A zero that is taken away changes nothing but the sign of a zero. -/
theorem isSame_sub_zero (value : UnpackedFloat) (sign : Sign) :
    IsSame (UnpackedFloat.sub Format.binary64 value (.zero sign)) value := by
  cases value with
  | notANumber => exact .inl rfl
  | infinity _ => exact .inl rfl
  | zero other => cases sign <;> cases other <;> exact .inr ⟨_, _, rfl, rfl⟩
  | finite _ _ _ _ => exact .inl rfl

theorem isSame_of_beq {left right : Float} (equal : (left == right) = true) :
    IsSame (parts left) (parts right) := by
  have compared : (parts left).compare (parts right) = some .eq := beq_iff_eq.mp equal
  have first : parts left ≠ .notANumber := by
    intro undefined
    rw [undefined] at compared
    cases compared
  have second : parts right ≠ .notANumber := by
    intro undefined
    rw [undefined] at compared
    cases shown : parts left <;> rw [shown] at compared <;> cases compared
  rw [compare_eq first second, Option.some.injEq, compare_eq_iff_eq] at compared
  exact isSame_of_rank compared

/-- Differences from equal doubles are the same. -/
theorem isSame_sub_of_beq (value : Float) {low high : Float} (equal : (low == high) = true) :
    IsSame (parts (value - high)) (parts (value - low)) := by
  obtain same | ⟨first, second, lowZero, highZero⟩ := isSame_of_beq equal
  · rw [eq_of_parts same]
    exact .inl rfl
  · have differences : IsSame
        (UnpackedFloat.sub Format.binary64 (parts value) (parts high))
        (UnpackedFloat.sub Format.binary64 (parts value) (parts low)) := by
      rw [lowZero, highZero]
      exact (isSame_sub_zero _ second).trans (isSame_sub_zero _ first).symm
    exact differences.pack

/-! ### The larger difference -/

/-- Of a value that is not zero and its negative one is the magnitude, which comes after zero, and
the other one comes before zero. -/
theorem abs_cases {value : UnpackedFloat} (number : value ≠ .notANumber)
    (nonzero : ∀ sign, value ≠ .zero sign) :
    value.abs = value ∧ rank value.neg < rank (.zero .positive) ∧
        rank (.zero .positive) < rank value ∨
      value.abs = value.neg ∧ rank value < rank (.zero .positive) ∧
        rank (.zero .positive) < rank value.neg := by
  cases value with
  | notANumber => exact absurd rfl number
  | zero sign => exact absurd rfl (nonzero sign)
  | infinity sign =>
    cases sign
    · exact .inr ⟨rfl, by decide, by decide⟩
    · exact .inl ⟨rfl, by decide, by decide⟩
  | finite sign mantissa exponent positive =>
    cases sign
    · exact .inr ⟨rfl, Prod.Lex.toLex_lt_toLex.mpr (.inl (by simp)),
        Prod.Lex.toLex_lt_toLex.mpr (.inl (by simp))⟩
    · exact .inl ⟨rfl, Prod.Lex.toLex_lt_toLex.mpr (.inl (by simp)),
        Prod.Lex.toLex_lt_toLex.mpr (.inl (by simp))⟩

/-- The largest of zeros is zero. -/
theorem larger_of_zeros {first second difference : Float} {left middle right : Sign}
    (firstZero : parts first = .zero left) (secondZero : parts second = .zero middle)
    (zero : parts difference = .zero right) :
    Number.larger (Number.larger first second) 0 = Number.abs difference := by
  have number : parts second ≠ .notANumber := by
    rw [secondZero]
    exact fun same => by cases same
  have level : ¬ second < first := by
    rw [lt_iff, firstZero, secondZero]
    exact fun below => lt_irrefl _ below.2.2
  have positive : ¬ (0 : Float) < second := by
    rw [lt_iff, secondZero]
    exact fun below => lt_irrefl _ below.2.2
  rw [larger_eq_right number level, larger_eq_right (by simp [parts_zero]) positive]
  show 0 = Float.ofModel (Float.Model.pack (parts difference).abs)
  rw [zero]
  rfl

/-- The larger of a number and its negative is its magnitude. -/
theorem larger_of_opposites {first difference : Float} (number : parts difference ≠ .notANumber)
    (nonzero : ∀ sign, parts difference ≠ .zero sign)
    (negative : parts first = (parts difference).neg) :
    Number.larger (Number.larger first difference) 0 = Number.abs difference := by
  have otherNumber : parts first ≠ .notANumber := by
    rw [negative]
    cases shown : parts difference with
    | notANumber => exact absurd shown number
    | _ => exact fun same => by cases same
  rcases abs_cases number nonzero with ⟨isAbs, below, above⟩ | ⟨isAbs, below, above⟩
  · have within : ¬ difference < first := by
      rw [lt_iff, negative]
      exact fun reversed => lt_asymm reversed.2.2 (below.trans above)
    have beyond : (0 : Float) < difference := lt_iff.mpr ⟨by simp [parts_zero], number, above⟩
    rw [larger_eq_right number within, larger_eq_left beyond]
    show difference = Float.ofModel (Float.Model.pack (parts difference).abs)
    rw [isAbs, ofModel_pack_parts]
  · have within : difference < first :=
      lt_iff.mpr ⟨number, otherNumber, by rw [negative]; exact below.trans above⟩
    have beyond : (0 : Float) < first :=
      lt_iff.mpr ⟨by simp [parts_zero], otherNumber, by rw [negative]; exact above⟩
    rw [larger_eq_left within, larger_eq_left beyond]
    show first = Float.ofModel (Float.Model.pack (parts difference).abs)
    rw [isAbs, ← negative, ofModel_pack_parts]

/-- **The largest of both differences and zero** is the magnitude of the difference, and zero if
that is a NaN. -/
theorem larger_differences (value : Float) {low high : Float} (equal : (low == high) = true) :
    Number.larger (Number.larger (low - value) (value - high)) 0 =
      if Number.isNaN (value - low) then 0 else Number.abs (value - low) := by
  have opposite := sub_isOpposite value low
  have same := isSame_sub_of_beq value equal
  by_cases undefined : parts (value - low) = .notANumber
  · rw [if_pos ((isNaN_iff _).mpr undefined)]
    have first : parts (low - value) = .notANumber := by
      obtain negative | ⟨_, _, _, zero⟩ := opposite
      · rw [negative, undefined]
        rfl
      · rw [undefined] at zero
        cases zero
    have second : parts (value - high) = .notANumber := by
      obtain equal | ⟨_, _, _, zero⟩ := same
      · rw [equal, undefined]
      · rw [undefined] at zero
        cases zero
    rw [larger_of_isNaN ((isNaN_iff _).mpr first), larger_of_isNaN ((isNaN_iff _).mpr second)]
  · rw [isNaN_eq_false_iff.mpr undefined, if_neg Bool.false_ne_true]
    by_cases zero : ∃ sign, parts (value - low) = .zero sign
    · obtain ⟨sign, zero⟩ := zero
      have first : ∃ sign, parts (low - value) = .zero sign := by
        obtain negative | ⟨sign, _, first, _⟩ := opposite
        · exact ⟨_, by rw [negative, zero]; rfl⟩
        · exact ⟨sign, first⟩
      have second : ∃ sign, parts (value - high) = .zero sign := by
        obtain equal | ⟨sign, _, second, _⟩ := same
        · exact ⟨_, equal.trans zero⟩
        · exact ⟨sign, second⟩
      exact larger_of_zeros first.choose_spec second.choose_spec zero
    · have nonzero := not_exists.mp zero
      have negative := opposite.resolve_right fun ⟨_, sign, _, found⟩ => nonzero sign found
      have equal := same.resolve_right fun ⟨_, sign, _, found⟩ => nonzero sign found
      rw [eq_of_parts equal]
      exact larger_of_opposites undefined nonzero negative

end Double

end MultipleShooting
