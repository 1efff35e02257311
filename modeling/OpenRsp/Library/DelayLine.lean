import Mathlib.Data.List.Basic

/-!
# Delay lines

The newest values of an input, kept in a circular buffer, or in a buffer of
twice their number.  In the second each value is stored in both halves, so
that the window of the newest values can be read from one position on without
wrapping.
-/

namespace DelayLine

universe u

variable {α : Type u}

/-- The newest `taps` values of an input, with `rest` before its start. -/
def newest (taps : Nat) (rest : α) (inputs : List α) : List α :=
  (List.replicate taps rest ++ inputs).drop inputs.length

@[simp]
theorem newest_nil (taps : Nat) (rest : α) :
    newest taps rest [] = List.replicate taps rest := by
  simp [newest]

theorem newest_concat {taps : Nat} (positive : 0 < taps) (rest : α) (inputs : List α) (value : α) :
    newest taps rest (inputs ++ [value]) = (newest taps rest inputs).tail ++ [value] := by
  have within :
      inputs.length + 1 ≤ (List.replicate taps rest ++ inputs).length := by
    simp
    omega
  rw [newest, newest, ← List.append_assoc, List.length_append,
    List.length_singleton, List.drop_append_of_le_length within,
    List.tail_drop]

/-- The place that lies `offset` after `position`, the first place following
the last. -/
def place (taps position offset : Nat) : Nat :=
  if position + offset < taps then position + offset
  else position + offset - taps

variable {taps position : Nat} {buffer window : List α}

theorem place_eq_mod {offset : Nat} (within : position < taps) (inside : offset < taps) :
    place taps position offset = (position + offset) % taps := by
  unfold place
  split_ifs with unwrapped
  · rw [Nat.mod_eq_of_lt unwrapped]
  · rw [Nat.mod_eq_sub_mod (by omega), Nat.mod_eq_of_lt (by omega)]

theorem place_next {offset : Nat} (within : position < taps) :
    place taps ((position + 1) % taps) offset =
      if offset + 1 < taps then place taps position (offset + 1)
      else place taps ((position + 1) % taps) offset := by
  split_ifs with inside
  · by_cases last : position + 1 = taps
    · rw [last, Nat.mod_self]
      unfold place
      split_ifs <;> omega
    · rw [Nat.mod_eq_of_lt (by omega)]
      unfold place
      split_ifs <;> omega
  · rfl

theorem place_last (within : position < taps) :
    place taps ((position + 1) % taps) (taps - 1) = position := by
  by_cases last : position + 1 = taps
  · rw [last, Nat.mod_self]
    unfold place
    split_ifs <;> omega
  · rw [Nat.mod_eq_of_lt (by omega)]
    unfold place
    split_ifs <;> omega

theorem place_lt {offset : Nat} (within : position < taps)
    (inside : offset < taps) : place taps position offset < taps := by
  unfold place
  split_ifs <;> omega

theorem place_ne {offset : Nat} (positive : 0 < offset) (inside : offset < taps) :
    place taps position offset ≠ position := by
  unfold place
  split_ifs <;> omega

/-- The newest values are those of the reversed input, oldest first. -/
theorem newest_getD {taps tap : Nat} (inside : tap < taps) (rest : α) (inputs : List α) :
    (newest taps rest inputs).getD (taps - 1 - tap) rest =
      inputs.reverse.getD tap rest := by
  rw [List.getD_eq_getElem?_getD, List.getD_eq_getElem?_getD, newest, List.getElem?_drop]
  by_cases given : tap < inputs.length
  · rw [List.getElem?_append_right (by rw [List.length_replicate]; omega),
      List.length_replicate, List.getElem?_reverse given]
    congr 2
    omega
  · rw [List.getElem?_append_left (by rw [List.length_replicate]; omega),
      List.getElem?_replicate_of_lt (by omega),
      List.getElem?_eq_none (by rw [List.length_reverse]; omega)]
    rfl

/-! ## One copy -/

/-- A buffer holds a window, which starts at a position and wraps. -/
structure Circular (taps : Nat) (buffer : List α) (position : Nat)
    (window : List α) : Prop where
  length : taps ≤ buffer.length
  size : window.length = taps
  within : position < taps
  holds : ∀ offset, offset < taps → buffer[place taps position offset]? = window[offset]?

/-- The window is read through a remainder. -/
theorem Circular.read (circular : Circular taps buffer position window)
    {offset : Nat} (inside : offset < taps) :
    buffer[(position + offset) % taps]? = window[offset]? := by
  rw [← place_eq_mod circular.within inside]
  exact circular.holds offset inside

/-- Storing a value drops the oldest one of the window. -/
theorem Circular.store (circular : Circular taps buffer position window) (value : α) :
    Circular taps (buffer.set position value) ((position + 1) % taps) (window.tail ++ [value]) := by
  have within := circular.within
  have length := circular.length
  have size := circular.size
  refine
    { length := by rwa [List.length_set]
      size := by
        rw [List.length_append, List.length_tail, size]
        simp only [List.length_singleton]
        omega
      within := Nat.mod_lt _ (by omega)
      holds := ?_ }
  intro offset inside
  -- A place of the new window is the next place of the old one, or the place
  -- that was stored.
  rw [place_next within]
  by_cases kept : offset + 1 < taps
  · have other : place taps position (offset + 1) ≠ position := place_ne (by omega) kept
    rw [if_pos kept, List.getElem?_set_ne other.symm, circular.holds (offset + 1) kept,
      List.getElem?_append_left (by rw [List.length_tail]; omega),
      List.getElem?_tail]
  · have last : offset = taps - 1 := by omega
    rw [if_neg kept, last, place_last within, List.getElem?_set_self (by omega),
      List.getElem?_append_right (by rw [List.length_tail]; omega),
      List.length_tail, size, Nat.sub_self]
    rfl

theorem circular_replicate {count : Nat} (positive : 0 < taps) (enough : taps ≤ count) (rest : α) :
    Circular taps (List.replicate count rest) 0 (List.replicate taps rest) where
  length := by rwa [List.length_replicate]
  size := List.length_replicate
  within := positive
  holds := by
    intro offset inside
    have below := place_lt positive inside
    rw [List.getElem?_replicate_of_lt (by omega), List.getElem?_replicate_of_lt inside]

/-- A buffer that holds the newest values holds them again after one more has
been stored. -/
theorem Circular.store_newest {rest : α} {inputs : List α}
    (circular : Circular taps buffer position (newest taps rest inputs))
    (value : α) :
    Circular taps (buffer.set position value) ((position + 1) % taps)
      (newest taps rest (inputs ++ [value])) := by
  rw [newest_concat (Nat.zero_lt_of_lt circular.within)]
  exact circular.store value

/-! ## Two copies -/

/-- Store a value in both halves of a buffer. -/
def store (taps : Nat) (buffer : List α) (position : Nat) (value : α) :
    List α :=
  (buffer.set position value).set (position + taps) value

/-- Both halves of a buffer hold a window, which starts at a position and
wraps. -/
structure Doubled (taps : Nat) (buffer : List α) (position : Nat)
    (window : List α) : Prop where
  length : buffer.length = 2 * taps
  size : window.length = taps
  within : position < taps
  low : ∀ offset, offset < taps → buffer[place taps position offset]? = window[offset]?
  high : ∀ offset, offset < taps → buffer[place taps position offset + taps]? = window[offset]?

/-- The window is read from its position on without wrapping. -/
theorem Doubled.read (doubled : Doubled taps buffer position window)
    {offset : Nat} (inside : offset < taps) :
    buffer[position + offset]? = window[offset]? := by
  have within := doubled.within
  by_cases unwrapped : position + offset < taps
  · have low := doubled.low offset inside
    rwa [place, if_pos unwrapped] at low
  · have high := doubled.high offset inside
    rw [place, if_neg unwrapped] at high
    rwa [Nat.sub_add_cancel (by omega)] at high

/-- Two copies are a copy in either half. -/
theorem doubled_iff : Doubled taps buffer position window ↔
      buffer.length = 2 * taps ∧
        Circular taps buffer position window ∧
        Circular taps (buffer.drop taps) position window := by
  constructor
  · intro doubled
    have length := doubled.length
    refine ⟨length, ⟨by omega, doubled.size, doubled.within, doubled.low⟩,
      ⟨by rw [List.length_drop]; omega, doubled.size, doubled.within, ?_⟩⟩
    intro offset inside
    rw [List.getElem?_drop, Nat.add_comm]
    exact doubled.high offset inside
  · rintro ⟨length, low, high⟩
    refine ⟨length, low.size, low.within, low.holds, ?_⟩
    intro offset inside
    rw [← high.holds offset inside, List.getElem?_drop, Nat.add_comm]

/-- Storing a value drops the oldest one of the window. -/
theorem Doubled.store (doubled : Doubled taps buffer position window) (value : α) :
    Doubled taps (store taps buffer position value) ((position + 1) % taps)
      (window.tail ++ [value]) := by
  obtain ⟨length, low, high⟩ := doubled_iff.mp doubled
  have within := doubled.within
  have upper : (DelayLine.store taps buffer position value).drop taps =
        (buffer.drop taps).set position value := by
    rw [DelayLine.store, List.drop_set, List.drop_set,
      if_neg (by omega), if_pos (by omega), Nat.add_sub_cancel]
  refine doubled_iff.mpr ⟨by simpa [DelayLine.store] using length, ?_, ?_⟩
  · have stored := low.store value
    refine { stored with
      length := by rw [DelayLine.store, List.length_set]; exact stored.length
      holds := fun offset inside => ?_ }
    have below := place_lt stored.within inside
    rw [DelayLine.store, List.getElem?_set_ne (by omega)]
    exact stored.holds offset inside
  · rw [upper]
    exact high.store value

theorem doubled_replicate (positive : 0 < taps) (rest : α) :
    Doubled taps (List.replicate (2 * taps) rest) 0 (List.replicate taps rest) where
  length := List.length_replicate
  size := List.length_replicate
  within := positive
  low := by
    intro offset inside
    have below := place_lt positive inside
    rw [List.getElem?_replicate_of_lt (by omega), List.getElem?_replicate_of_lt inside]
  high := by
    intro offset inside
    have below := place_lt positive inside
    rw [List.getElem?_replicate_of_lt (by omega), List.getElem?_replicate_of_lt inside]

/-- A buffer that holds the newest values holds them again after one more has
been stored. -/
theorem Doubled.store_newest {rest : α} {inputs : List α}
    (doubled : Doubled taps buffer position (newest taps rest inputs))
    (value : α) :
    Doubled taps (DelayLine.store taps buffer position value)
      ((position + 1) % taps) (newest taps rest (inputs ++ [value])) := by
  rw [newest_concat (Nat.zero_lt_of_lt doubled.within)]
  exact doubled.store value

end DelayLine
