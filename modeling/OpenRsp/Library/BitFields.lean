import Mathlib
import OpenRsp.Library.ByteStream

/-!
# Bytes as a row of bit fields

Bytes, lowest first, are a number, and its bits are cut into fields of one
width.  A reader that takes the same number of bytes at a time reads a row of
fields when it reads those of each group.
-/

namespace BitFields

open ByteStreams

/-- A field above the bits already in a word. -/
theorem or_field {low width : Nat} (bound : low < 2 ^ width) (field : Nat) :
    low ||| field <<< width = field * 2 ^ width + low := by
  rw [Nat.or_comm, ← Nat.shiftLeft_add_eq_or_of_lt bound, Nat.shiftLeft_eq]

theorem field_lt {low width field more : Nat} (bound : low < 2 ^ width)
    (narrow : field < 2 ^ more) :
    field * 2 ^ width + low < 2 ^ (width + more) :=
  calc
    _ < field * 2 ^ width + 2 ^ width := Nat.add_lt_add_left bound _
    _ = (field + 1) * 2 ^ width := (Nat.succ_mul _ _).symm
    _ ≤ 2 ^ more * 2 ^ width := Nat.mul_le_mul_right _ narrow
    _ = 2 ^ (width + more) := by rw [← pow_add, Nat.add_comm]

/-- A field of a number. -/
def field (width number index : Nat) : Nat := number / 2 ^ (width * index) % 2 ^ width

theorem field_low {width count index : Nat} (inside : index < count) (low high : Nat) :
    field width (low + 2 ^ (width * count) * high) index =
      field width low index := by
  obtain ⟨more, rfl⟩ := Nat.exists_eq_add_of_lt inside
  have power : 2 ^ (width * (index + more + 1)) * high =
        2 ^ (width * index) * (2 ^ width * (2 ^ (width * more) * high)) := by
    ring
  rw [field, power, Nat.add_mul_div_left _ _ (by positivity), Nat.add_mul_mod_self_left, field]

theorem field_high {width count low : Nat} (bound : low < 2 ^ (width * count)) (high index : Nat) :
    field width (low + 2 ^ (width * count) * high) (count + index) =
      field width high index := by
  rw [field, Nat.mul_add, pow_add, ← Nat.div_div_eq_div_mul,
    Nat.add_mul_div_left _ _ (by positivity), Nat.div_eq_of_lt bound,
    Nat.zero_add, field]

theorem ofBytes_append (bytes more : List UInt8) :
    ofBytes (bytes ++ more) = ofBytes bytes + 2 ^ (8 * bytes.length) * ofBytes more := by
  induction bytes with
  | nil => simp [ofBytes]
  | cons byte bytes inductionHypothesis =>
      rw [List.cons_append, ofBytes, ofBytes, inductionHypothesis,
        List.length_cons, Nat.mul_succ, pow_add]
      ring

theorem ofBytes_lt (bytes : List UInt8) :
    ofBytes bytes < 2 ^ (8 * bytes.length) := by
  induction bytes with
  | nil => simp [ofBytes]
  | cons byte bytes inductionHypothesis =>
      have bound := byte.toNat_lt
      rw [ofBytes, List.length_cons, Nat.mul_succ, pow_add]
      omega

/-- What a reader makes of a row of fields, whose first has a given place. -/
def row {β : Type*} (present : Nat → Nat → β) (width first count : Nat)
    (bytes : List UInt8) : List β :=
  (List.range count).map fun index =>
    present (first + index) (field width (ofBytes bytes) index)

theorem row_append {β : Type*} (present : Nat → Nat → β)
    {width first count : Nat} {bytes : List UInt8}
    (agree : 8 * bytes.length = width * count) (more : Nat)
    (rest : List UInt8) :
    row present width first (count + more) (bytes ++ rest) =
      row present width first count bytes ++ row present width (first + count) more rest := by
  have bound := ofBytes_lt bytes
  rw [agree] at bound
  simp only [row, List.range_add, List.map_append, List.map_map, ofBytes_append, agree]
  congr 1
  · refine List.map_congr_left fun index member => ?_
    rw [field_low (List.mem_range.mp member)]
  · refine List.map_congr_left fun index _ => ?_
    rw [Function.comp_apply, field_high bound, Nat.add_assoc]

/-- Reading group by group reads the row. -/
theorem eq_row_of_groups {β : Type*} {read : Nat → List UInt8 → List β}
    {present : Nat → Nat → β} {bytes width count : Nat}
    (agree : 8 * bytes = width * count) (empty : ∀ number, read number [] = [])
    (group : ∀ number chunk rest, chunk.length = bytes → read number (chunk ++ rest) =
          row present width (count * number) count chunk ++ read (number + 1) rest)
    (groups number : Nat) {payload : List UInt8}
    (whole : payload.length = bytes * groups) :
    read number payload = row present width (count * number) (count * groups) payload := by
  induction groups generalizing number payload with
  | zero =>
      obtain rfl : payload = [] := List.length_eq_zero_iff.mp whole
      exact empty number
  | succ groups inductionHypothesis =>
      have first : (payload.take bytes).length = bytes := by
        rw [List.length_take, whole]
        exact Nat.min_eq_left (Nat.le_mul_of_pos_right _ groups.succ_pos)
      have rest : (payload.drop bytes).length = bytes * groups := by
        rw [List.length_drop, whole, Nat.mul_succ, Nat.add_sub_cancel]
      rw [← List.take_append_drop bytes payload, group _ _ _ first,
        inductionHypothesis _ rest, Nat.mul_succ count groups,
        Nat.add_comm (count * groups),
        row_append present (first.symm ▸ agree), Nat.mul_succ]

end BitFields
