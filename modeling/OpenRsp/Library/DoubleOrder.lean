import Mathlib
import OpenRsp.Library.Doubles
import Mathlib.Tactic.Ring

/-!
# The order of doubles

The comparisons of `Float` look at exponents first and at mantissas second.
They agree with the order of the values because the numbers are normalised:
a mantissa has its leading bit unless the exponent is the least one.
-/

namespace Doubles

open Float.Model

/-! ## Normalised mantissas -/

/-- A mantissa and an exponent as a double stores them. -/
structure Normalised (mantissa : Nat) (exponent : Int) : Prop where
  bits : mantissa < 2 ^ 53
  least : -1074 ≤ exponent
  leading : -1074 < exponent → 2 ^ 52 ≤ mantissa

theorem unpack_normalised {bits : BitVec Format.binary64.numBits}
    {sign : UnpackedFloat.Sign} {mantissa : Nat} {exponent : Int}
    {positive : 0 < mantissa}
    (unpacked :
      UnpackedFloat.unpack Format.binary64 bits = .finite sign mantissa exponent positive) :
    Normalised mantissa exponent := by
  unfold UnpackedFloat.unpack at unpacked
  have bias : Format.binary64.exponentBias = 1023 := by decide
  have small := (UnpackedFloat.unpackMantissa bits).isLt
  dsimp only at unpacked small
  rw [bias] at unpacked
  rcases ite_eq_iff.mp unpacked with ⟨_, unpacked⟩ | ⟨_, unpacked⟩
  · rcases ite_eq_iff.mp unpacked with ⟨_, unpacked⟩ | ⟨_, unpacked⟩
    · cases unpacked
    · cases unpacked
  · rcases ite_eq_iff.mp unpacked with
      ⟨subnormal, unpacked⟩ | ⟨normal, unpacked⟩
    · rcases dite_eq_iff.mp unpacked with ⟨_, unpacked⟩ | ⟨_, unpacked⟩
      · cases unpacked
      · injection unpacked with _ isMantissa isExponent
        rw [subnormal] at isExponent
        subst isMantissa isExponent
        exact ⟨by omega, by decide, fun above => absurd above (by decide)⟩
    · injection unpacked with _ isMantissa isExponent
      have nonzero : (UnpackedFloat.unpackExponent bits).toNat ≠ 0 :=
        fun isZero => normal (BitVec.eq_of_toNat_eq isZero)
      rw [BitVec.toNat_append, Nat.shiftLeft_eq,
        Nat.mul_comm, ← Nat.two_pow_add_eq_or_of_lt small] at isMantissa
      subst isMantissa isExponent
      have one : (1#1).toNat = 1 := rfl
      rw [one]
      exact ⟨by omega, by omega, fun _ => by omega⟩

/-- The magnitude a mantissa and an exponent stand for. -/
theorem magnitude_eq (mantissa : Nat) (exponent : Int) :
    mkRat ((mantissa * 2 ^ exponent.toNat : Nat) : Int)
        (2 ^ (-exponent).toNat) =
      (mantissa : Rat) * 2 ^ exponent := by
  rw [Rat.mkRat_eq_div]
  rcases Int.le_total 0 exponent with nonnegative | negative
  · obtain ⟨power, rfl⟩ := Int.eq_ofNat_of_zero_le nonnegative
    simp
  · obtain ⟨power, isPower⟩ := Int.eq_ofNat_of_zero_le (Int.neg_nonneg_of_nonpos negative)
    obtain rfl : exponent = -(power : Int) := by omega
    simp [div_eq_mul_inv]

theorem compare_neg (left right : Rat) :
    (compare left right).swap = compare (-left) (-right) := by
  rcases lt_trichotomy left right with less | same | greater
  · rw [compare_lt_iff_lt.mpr less, eq_comm]
    exact compare_gt_iff_gt.mpr (neg_lt_neg less)
  · rw [same, compare_eq_iff_eq.mpr rfl, compare_eq_iff_eq.mpr rfl]
    rfl
  · rw [compare_gt_iff_gt.mpr greater, eq_comm]
    exact compare_lt_iff_lt.mpr (neg_lt_neg greater)

/-- A greater exponent outweighs every mantissa. -/
theorem magnitude_lt_of_exponent_lt {mantissa mantissa' : Nat}
    {exponent exponent' : Int} (normalised : Normalised mantissa exponent)
    (normalised' : Normalised mantissa' exponent')
    (less : exponent < exponent') :
    (mantissa : Rat) * 2 ^ exponent < mantissa' * 2 ^ exponent' := by
  have leading := normalised'.leading (by have := normalised.least; omega)
  have bits : (mantissa : Rat) < 2 ^ 53 := by
    exact_mod_cast normalised.bits
  have step : (2 : Rat) ^ exponent * 2 ≤ 2 ^ exponent' := by
    rw [← zpow_add_one₀ (by norm_num)]
    exact zpow_le_zpow_right₀ (by norm_num) (by omega)
  calc (mantissa : Rat) * 2 ^ exponent
      < 2 ^ 53 * 2 ^ exponent := mul_lt_mul_of_pos_right bits (by positivity)
    _ = 2 ^ 52 * (2 ^ exponent * 2) := by ring
    _ ≤ mantissa' * 2 ^ exponent' := by
        gcongr
        exact_mod_cast leading

/-- Magnitudes are compared as the exponents are, and as the mantissas are
where the exponents agree. -/
theorem compare_magnitude {mantissa mantissa' : Nat}
    {exponent exponent' : Int} (normalised : Normalised mantissa exponent)
    (normalised' : Normalised mantissa' exponent') :
    (compare exponent exponent').then (compare mantissa mantissa') =
      compare ((mantissa : Rat) * 2 ^ exponent) ((mantissa' : Rat) * 2 ^ exponent') := by
  rcases lt_trichotomy exponent exponent' with less | same | greater
  · rw [compare_lt_iff_lt.mpr less, Ordering.lt_then, eq_comm, compare_lt_iff_lt]
    exact magnitude_lt_of_exponent_lt normalised normalised' less
  · subst same
    have power : (0 : Rat) < 2 ^ exponent := by positivity
    rw [compare_eq_iff_eq.mpr rfl, Ordering.eq_then]
    rcases lt_trichotomy mantissa mantissa' with less | same | greater
    · rw [compare_lt_iff_lt.mpr less, eq_comm, compare_lt_iff_lt]
      exact mul_lt_mul_of_pos_right (Nat.cast_lt.mpr less) power
    · rw [same, compare_eq_iff_eq.mpr rfl, compare_eq_iff_eq.mpr rfl]
    · rw [compare_gt_iff_gt.mpr greater, eq_comm, compare_gt_iff_gt]
      exact mul_lt_mul_of_pos_right (Nat.cast_lt.mpr greater) power
  · rw [compare_gt_iff_gt.mpr greater, Ordering.gt_then, eq_comm, compare_gt_iff_gt]
    exact magnitude_lt_of_exponent_lt normalised' normalised greater

/-! ## Comparison and value -/

/-- The value of an unpacked double. -/
theorem value?_finite {number : Float} {sign : UnpackedFloat.Sign}
    {mantissa : Nat} {exponent : Int} {positive : 0 < mantissa}
    (unpacked : number.toModel.unpack = .finite sign mantissa exponent positive) :
    Normalised mantissa exponent ∧
      0 < (mantissa : Rat) * 2 ^ exponent ∧
      value? number = some (match sign with
          | .positive => (mantissa : Rat) * 2 ^ exponent
          | .negative => -((mantissa : Rat) * 2 ^ exponent)) := by
  refine ⟨unpack_normalised unpacked, ?_, ?_⟩
  · have : (0 : Rat) < mantissa := Nat.cast_pos.mpr positive
    positivity
  · simp only [value?, unpacked]
    cases sign with
    | positive => simp only [UnpackedFloat.Sign.apply, magnitude_eq]
    | negative =>
        simp only [UnpackedFloat.Sign.apply]
        rw [← Rat.neg_mkRat, magnitude_eq]

/-- The comparison of finite doubles is that of their values. -/
theorem compare_value {number number' : Float} {value value' : Rat}
    (isValue : value? number = some value)
    (isValue' : value? number' = some value') :
    number.toModel.unpack.compare number'.toModel.unpack = some (compare value value') := by
  cases unpacked : number.toModel.unpack with
  | infinity sign => simp [value?, unpacked] at isValue
  | notANumber => simp [value?, unpacked] at isValue
  | zero sign =>
      obtain rfl : 0 = value := by simpa [value?, unpacked] using isValue
      cases unpacked' : number'.toModel.unpack with
      | infinity sign' => simp [value?, unpacked'] at isValue'
      | notANumber => simp [value?, unpacked'] at isValue'
      | zero sign' =>
          obtain rfl : 0 = value' := by
            simpa [value?, unpacked'] using isValue'
          rfl
      | finite sign' mantissa' exponent' positive' =>
          obtain ⟨_, above, finite⟩ := value?_finite unpacked'
          obtain rfl := Option.some.inj (finite.symm.trans isValue')
          cases sign' with
          | positive => exact congrArg some (compare_lt_iff_lt.mpr above).symm
          | negative =>
              exact congrArg some (compare_gt_iff_gt.mpr (neg_lt_zero.mpr above)).symm
  | finite sign mantissa exponent positive =>
      obtain ⟨normalised, above, finite⟩ := value?_finite unpacked
      obtain rfl := Option.some.inj (finite.symm.trans isValue)
      cases unpacked' : number'.toModel.unpack with
      | infinity sign' => simp [value?, unpacked'] at isValue'
      | notANumber => simp [value?, unpacked'] at isValue'
      | zero sign' =>
          obtain rfl : 0 = value' := by
            simpa [value?, unpacked'] using isValue'
          cases sign with
          | positive => exact congrArg some (compare_gt_iff_gt.mpr above).symm
          | negative =>
              exact congrArg some (compare_lt_iff_lt.mpr (neg_lt_zero.mpr above)).symm
      | finite sign' mantissa' exponent' positive' =>
          obtain ⟨normalised', above', finite'⟩ := value?_finite unpacked'
          obtain rfl := Option.some.inj (finite'.symm.trans isValue')
          have magnitudes := compare_magnitude normalised normalised'
          cases sign <;> cases sign'
          case positive.positive => exact congrArg some magnitudes
          case negative.negative =>
            refine congrArg some ?_
            rw [magnitudes, compare_neg]
          case negative.positive =>
            exact congrArg some (compare_lt_iff_lt.mpr (by linarith)).symm
          case positive.negative =>
            exact congrArg some (compare_gt_iff_gt.mpr (by linarith)).symm

/-- Finite doubles that compare equal have the same value. -/
theorem value_eq_of_beq {number number' : Float} {value value' : Rat}
    (isValue : value? number = some value)
    (isValue' : value? number' = some value')
    (equal : (number == number') = true) : value = value' := by
  have compared :
      number.toModel.unpack.compare number'.toModel.unpack = some .eq :=
    beq_iff_eq.mp equal
  rw [compare_value isValue isValue'] at compared
  exact compare_eq_iff_eq.mp (Option.some.inj compared)

/-- A finite double that is not below another is not below it in value. -/
theorem value_le_of_not_lt {number number' : Float} {value value' : Rat}
    (isValue : value? number = some value)
    (isValue' : value? number' = some value')
    (notBelow : ¬number < number') : value' ≤ value := by
  by_contra below
  have compared := compare_value isValue isValue'
  rw [compare_lt_iff_lt.mpr (not_le.mp below)] at compared
  exact notBelow (decide_eq_true (beq_iff_eq.mpr compared))

/-! ## Finite doubles -/

theorem value?_of_isFinite {number : Float} (finite : number.isFinite = true) :
    ∃ value, value? number = some value := by
  have unpacked : number.toModel.unpack.isFinite = true := finite
  unfold value?
  cases isUnpacked : number.toModel.unpack with
  | infinity sign => rw [isUnpacked] at unpacked; cases unpacked
  | notANumber => rw [isUnpacked] at unpacked; cases unpacked
  | zero sign => exact ⟨_, rfl⟩
  | finite sign mantissa exponent positive => exact ⟨_, rfl⟩

/-- A finite double equal to another converts to the same word. -/
theorem toUInt32?_of_beq {number number' : Float}
    (finite : number.isFinite = true) (finite' : number'.isFinite = true)
    (equal : (number == number') = true) :
    toUInt32? number = toUInt32? number' := by
  obtain ⟨value, isValue⟩ := value?_of_isFinite finite
  obtain ⟨value', isValue'⟩ := value?_of_isFinite finite'
  unfold toUInt32?
  rw [isValue, isValue', value_eq_of_beq isValue isValue' equal]

/-- What is one at least does not convert to zero. -/
theorem toUInt32?_ne_zero {number : Float} {value : Rat} {word : UInt32}
    (isValue : value? number = some value) (large : 1 ≤ value)
    (converted : toUInt32? number = some word) : word ≠ 0 := by
  have isFloor : truncate value = value.floor := if_pos (zero_le_one.trans large)
  have floor : 1 ≤ value.floor := Rat.le_floor_iff.mpr (by exact_mod_cast large)
  simp only [toUInt32?, isValue, isFloor, Option.bind_some,
    Option.ite_none_right_eq_some, Option.some.injEq] at converted
  obtain ⟨⟨_, small⟩, rfl⟩ := converted
  intro isZero
  have words := congrArg UInt32.toNat isZero
  rw [UInt32.toNat_ofNat_of_lt' (by simp only [UInt32.size]; omega)] at words
  simp only [UInt32.toNat_zero] at words
  omega

end Doubles
