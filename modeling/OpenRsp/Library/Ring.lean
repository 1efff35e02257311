import Mathlib.Data.List.Basic
import Mathlib.Data.Nat.ModEq
import Mathlib.Logic.Function.Basic

/-!
# Ring buffers

A ring keeps its elements in `capacity` slots, `count` of them from `head`
on, wrapping round at the end.  Its bounds are part of the structure.  Read
as a list, oldest element first, appending adds a last element and dropping
the front removes the first.
-/

namespace Rings

universe u

/-- A ring buffer; slots outside the occupied ones hold stale values. -/
structure Ring (α : Type u) (capacity : Nat) where
  slots : Nat → α
  head : Nat
  count : Nat
  headBound : head < capacity
  countBound : count ≤ capacity

namespace Ring

variable {α : Type u} {capacity : Nat}

/-- The slot `offset` places after the head. -/
def slot (ring : Ring α capacity) (offset : Nat) : Nat := (ring.head + offset) % capacity

/-- The elements, oldest first. -/
def toList (ring : Ring α capacity) : List α :=
  (List.range ring.count).map fun offset => ring.slots (ring.slot offset)

/-- The oldest element of a ring that is not empty. -/
def front (ring : Ring α capacity) : α := ring.slots ring.head

/-- Forget the elements and start over at slot zero. -/
def clear (ring : Ring α capacity) : Ring α capacity where
  slots := ring.slots
  head := 0
  count := 0
  headBound := Nat.zero_lt_of_lt ring.headBound
  countBound := Nat.zero_le capacity

/-- Give up the oldest element. -/
def dropFront (ring : Ring α capacity) : Ring α capacity where
  slots := ring.slots
  head := (ring.head + 1) % capacity
  count := ring.count - 1
  headBound := Nat.mod_lt _ (Nat.zero_lt_of_lt ring.headBound)
  countBound := (Nat.sub_le _ _).trans ring.countBound

/-- Write a new last element into the first free slot. -/
def pushBack (ring : Ring α capacity) (value : α) (room : ring.count < capacity) :
    Ring α capacity where
  slots := Function.update ring.slots (ring.slot ring.count) value
  head := ring.head
  count := ring.count + 1
  headBound := ring.headBound
  countBound := room

/-- A ring that has given up its oldest element has room for another. -/
theorem dropFront_room (ring : Ring α capacity) :
    ring.dropFront.count < capacity :=
  lt_of_le_of_lt (Nat.sub_le_sub_right ring.countBound 1)
    (Nat.sub_lt (Nat.zero_lt_of_lt ring.headBound) Nat.one_pos)

@[simp]
theorem length_toList (ring : Ring α capacity) :
    ring.toList.length = ring.count := by
  simp [toList]

theorem toList_eq_nil {ring : Ring α capacity} (empty : ring.count = 0) :
    ring.toList = [] := by
  simp [toList, empty]

/-- Different places of an occupied ring are different slots. -/
theorem slot_ne (ring : Ring α capacity) {left right : Nat}
    (before : left < right) (bound : right < capacity) :
    ring.slot left ≠ ring.slot right := by
  intro same
  have congruent : left ≡ right [MOD capacity] := Nat.ModEq.add_left_cancel' ring.head same
  have equal : left = right := congruent.eq_of_lt_of_lt (before.trans bound) bound
  exact before.ne equal

@[simp]
theorem toList_pushBack (ring : Ring α capacity) (value : α) (room : ring.count < capacity) :
    (ring.pushBack value room).toList = ring.toList ++ [value] := by
  have kept : ∀ offset ∈ List.range ring.count,
        Function.update ring.slots (ring.slot ring.count) value
            (ring.slot offset) =
          ring.slots (ring.slot offset) := by
    intro offset member
    exact Function.update_of_ne (ring.slot_ne (List.mem_range.mp member) room) _ _
  calc
    (ring.pushBack value room).toList = (List.range ring.count).map
            (fun offset =>
              Function.update ring.slots (ring.slot ring.count) value (ring.slot offset)) ++
          [Function.update ring.slots (ring.slot ring.count) value (ring.slot ring.count)] := by
      simp only [toList, pushBack, List.range_succ, List.map_append, List.map_cons, List.map_nil]
      rfl
    _ = ring.toList ++ [value] := by
      rw [List.map_congr_left kept, Function.update_self]
      rfl

/-- Dropping the front moves every other element one place forward. -/
theorem slot_dropFront (ring : Ring α capacity) (offset : Nat) :
    ring.dropFront.slot offset = ring.slot (offset + 1) := by
  simp only [slot, dropFront, Nat.mod_add_mod]
  congr 1
  omega

theorem toList_eq_front_cons (ring : Ring α capacity) (occupied : ring.count ≠ 0) :
    ring.toList = ring.front :: ring.dropFront.toList := by
  obtain ⟨rest, counted⟩ := Nat.exists_eq_succ_of_ne_zero occupied
  have first : ring.slot 0 = ring.head := Nat.mod_eq_of_lt ring.headBound
  have left : ring.dropFront.count = rest := by
    simp [dropFront, counted]
  simp only [toList, counted, left, Nat.succ_eq_add_one,
    List.range_succ_eq_map, List.map_cons, List.map_map, first]
  refine congrArg₂ List.cons rfl (List.map_congr_left ?_)
  intro offset _
  exact congrArg ring.slots (ring.slot_dropFront offset).symm

theorem of_toList_eq_cons {ring : Ring α capacity} {value : α} {rest : List α}
    (listed : ring.toList = value :: rest) :
    ring.count ≠ 0 ∧ ring.front = value ∧ ring.dropFront.toList = rest := by
  have occupied : ring.count ≠ 0 := fun empty => by
    rw [toList_eq_nil empty] at listed
    cases listed
  exact ⟨occupied, List.cons.inj ((ring.toList_eq_front_cons occupied).symm.trans listed)⟩

end Ring

end Rings
