import Mathlib.Algebra.BigOperators.Group.Finset.Basic
import Mathlib.Algebra.BigOperators.Ring.Finset
import Mathlib.Algebra.Order.Floor.Div

/-!
# Decimated convolutions

The convolution of a signal that is zero before its start with finitely many
coefficients, and every so manieth of a sequence of values.  A sum that is
taken tap by tap over the reversed signal is a value of the convolution.
-/

namespace DecimatedConvolution

universe u

/-! ## Every so manieth value -/

section Every

variable {β : Type u}

/-- Of the first `count` values every one whose index is a multiple of
`factor`, in order. -/
def every (factor : Nat) (value : Nat → β) (count : Nat) : List β :=
  (List.range (count ⌈/⌉ factor)).map fun index => value (factor * index)

@[simp]
theorem every_zero (factor : Nat) (value : Nat → β) :
    every factor value 0 = [] := by
  simp [every]

@[simp]
theorem every_length (factor : Nat) (value : Nat → β) (count : Nat) :
    (every factor value count).length = count ⌈/⌉ factor := by
  simp [every]

theorem every_one (value : Nat → β) (count : Nat) :
    every 1 value count = (List.range count).map value := by
  rw [every, Nat.ceilDiv_eq_add_pred_div]
  simp

theorem ceilDiv_succ {factor : Nat} (positive : 0 < factor) (count : Nat) :
    (count + 1) ⌈/⌉ factor = count / factor + 1 := by
  rw [Nat.ceilDiv_eq_add_pred_div,
    show count + 1 + factor - 1 = count + factor by omega,
    Nat.add_div_right _ positive]

theorem ceilDiv_of_dvd {factor count : Nat} (positive : 0 < factor)
    (divides : count % factor = 0) : count ⌈/⌉ factor = count / factor := by
  have division := Nat.div_add_mod count factor
  rw [Nat.ceilDiv_eq_add_pred_div]
  refine Nat.div_eq_of_lt_le ?_ ?_
  · rw [Nat.mul_comm]
    omega
  · rw [Nat.add_one_mul, Nat.mul_comm]
    omega

theorem ceilDiv_of_not_dvd {factor count : Nat} (positive : 0 < factor)
    (divides : count % factor ≠ 0) :
    count ⌈/⌉ factor = count / factor + 1 := by
  have division := Nat.div_add_mod count factor
  have remainder := Nat.mod_lt count positive
  rw [Nat.ceilDiv_eq_add_pred_div]
  refine Nat.div_eq_of_lt_le ?_ ?_
  · rw [Nat.add_one_mul, Nat.mul_comm]
    omega
  · rw [Nat.add_one_mul, Nat.add_one_mul, Nat.mul_comm]
    omega

theorem every_succ {factor : Nat} (positive : 0 < factor) (value : Nat → β) (count : Nat) :
    every factor value (count + 1) = every factor value count ++
        if count % factor = 0 then [value count] else [] := by
  unfold every
  rw [ceilDiv_succ positive]
  by_cases divides : count % factor = 0
  · have last : factor * (count / factor) = count :=
      Nat.mul_div_cancel' (Nat.dvd_of_mod_eq_zero divides)
    rw [if_pos divides, ceilDiv_of_dvd positive divides, List.range_succ,
      List.map_append, List.map_singleton, last]
  · rw [if_neg divides, ceilDiv_of_not_dvd positive divides, List.append_nil]

theorem every_congr {factor count : Nat} {value other : Nat → β} (positive : 0 < factor)
    (same : ∀ index, index < count → value index = other index) :
    every factor value count = every factor other count := by
  refine List.map_congr_left fun index member => same _ ?_
  have below := List.mem_range.mp member
  by_contra beyond
  have above := (ceilDiv_le_iff_le_mul positive).mpr (not_lt.mp beyond)
  omega

end Every

/-! ## The convolution -/

section Convolution

variable {R : Type u} [Semiring R]

/-- The convolution of a signal with `taps` coefficients at an index. -/
def convolution (taps : Nat) (coefficient : Nat → R) (signal : List R) (index : Nat) : R :=
  ∑ tap ∈ Finset.range taps,
    if tap ≤ index then coefficient tap * signal.getD (index - tap) 0 else 0

/-- A sum accumulated from zero, tap by tap. -/
theorem foldl_range_eq_sum (taps : Nat) (term : Nat → R) :
    (List.range taps).foldl (fun sum tap => sum + term tap) 0 =
      ∑ tap ∈ Finset.range taps, term tap := by
  induction taps with
  | zero => rfl
  | succ taps inductionHypothesis =>
      rw [List.range_succ, List.foldl_append, inductionHypothesis, Finset.sum_range_succ]
      rfl

/-- The sum over the newest values is the convolution where they end. -/
theorem foldl_reverse_eq_convolution (taps : Nat) (coefficient : Nat → R)
    (signal : List R) (index : Nat) (inside : index < signal.length) :
    (List.range taps).foldl
        (fun sum tap =>
          sum + coefficient tap * (signal.take (index + 1)).reverse.getD tap 0) 0 =
      convolution taps coefficient signal index := by
  rw [foldl_range_eq_sum, convolution]
  refine Finset.sum_congr rfl fun tap _ => ?_
  rw [List.getD_eq_getElem?_getD]
  split_ifs with given
  · have length : (signal.take (index + 1)).length = index + 1 := by
      rw [List.length_take]
      omega
    rw [List.getElem?_reverse (by omega), length,
      List.getElem?_take_of_lt (by omega), List.getD_eq_getElem?_getD]
    congr 4
  · rw [List.getElem?_eq_none (by simp; omega), Option.getD_none, mul_zero]

end Convolution

end DecimatedConvolution
