import Mathlib.Data.UInt

/-!
# A clock seen through 32 bits

An unbounded count of which the low 32 bits are seen.  Two instants that are
less than half the range apart are compared by the sign of the difference of
what is seen of them.
-/

namespace WrappingClock

/-- What is seen of an instant. -/
def seen (time : Nat) : UInt32 := UInt32.ofNat time

theorem seen_add (time span : Nat) :
    seen (time + span) = seen time + seen span := by
  simp [seen]

theorem seen_mul (first second : Nat) :
    seen (first * second) = seen first * seen second := by
  simp [seen]

theorem seen_toNat (time : Nat) : (seen time).toNat = time % 2 ^ 32 := rfl

/-- A span below the range is seen as it is. -/
theorem seen_sub_toNat {earlier later : Nat} (ordered : earlier ≤ later)
    (close : later < earlier + 2 ^ 32) :
    (seen later - seen earlier).toNat = later - earlier := by
  rw [UInt32.toNat_sub, seen_toNat, seen_toNat]
  omega

/-- Two instants at most half the range apart, the second less than half the
range ahead. -/
structure Near (boundary time : Nat) : Prop where
  ahead : time < boundary + 2 ^ 31
  behind : boundary ≤ time + 2 ^ 31

theorem toInt32_nonneg_iff (value : UInt32) :
    0 ≤ value.toInt32 ↔ value.toNat < 2 ^ 31 := by
  have bound := value.toNat_lt
  have signed : value.toInt32.toInt =
        if 2 * value.toNat < 2 ^ 32 then (value.toNat : Int)
        else (value.toNat : Int) - 2 ^ 32 :=
    BitVec.toInt_eq_toNat_cond value.toBitVec
  rw [Int32.le_iff_toInt_le, signed, Int32.toInt_zero]
  split_ifs <;> omega

/-- The sign of the difference of what is seen tells which instant is
later. -/
theorem sign_iff {boundary time : Nat} (near : Near boundary time) :
    0 ≤ (seen time - seen boundary).toInt32 ↔ boundary ≤ time := by
  have ahead := near.ahead
  have behind := near.behind
  have difference : (seen time - seen boundary).toNat =
        if boundary ≤ time then time - boundary
        else 2 ^ 32 - (boundary - time) := by
    rw [UInt32.toNat_sub, seen_toNat, seen_toNat]
    split_ifs <;> omega
  rw [toInt32_nonneg_iff, difference]
  split_ifs with ordered <;> omega

end WrappingClock
