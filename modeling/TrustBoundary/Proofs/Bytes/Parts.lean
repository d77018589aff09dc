import TrustBoundary.Bytes

/-!
# Parts of byte strings

What is found in a part of a byte string after another part was overwritten, cut off or put
behind it.  A part in front of the overwritten bytes and a part behind them are as before
(`slice_overwrite_before`, `slice_overwrite_behind`), and the overwritten part is the new data
(`slice_overwrite_self`).  The same is said byte by byte (`byteAt_slice`, `byteAt_overwrite`).
-/

set_option autoImplicit false

namespace TrustBoundary.Bytes

variable {bytes other data front : Bytes} {offset start count : Nat}

/-! ## Parts -/

/-- A part that lies inside is as long as it is said to be. -/
theorem length_slice (inside : offset + count ≤ bytes.length) :
    (bytes.slice offset count).length = count := by
  rw [slice, List.length_take, List.length_drop]
  omega

/-- Two parts next to each other are one part. -/
theorem slice_append_slice (bytes : Bytes) (offset first second : Nat) :
    bytes.slice offset first ++ bytes.slice (offset + first) second =
      bytes.slice offset (first + second) := by
  rw [slice, slice, slice, List.take_add, List.drop_drop]

/-- A part of the front of a byte string is a part of the byte string. -/
theorem slice_append_left (inside : offset + count ≤ bytes.length) (back : Bytes) :
    (bytes ++ back).slice offset count = bytes.slice offset count := by
  rw [slice, slice, List.drop_append_of_le_length (by omega),
    List.take_append_of_le_length (by rw [List.length_drop]; omega)]

theorem slice_take {length : Nat} (inside : start + count ≤ length) :
    slice (bytes.take length) start count = bytes.slice start count := by
  rw [slice, slice, List.drop_take, List.take_take, Nat.min_eq_left (by omega)]

/-- A part of the first bytes is a matter of these. -/
theorem slice_congr {length : Nat} (same : bytes.take length = other.take length)
    (inside : start + count ≤ length) : bytes.slice start count = other.slice start count := by
  rw [← slice_take inside, same, slice_take inside]

/-! ## Overwritten bytes -/

theorem take_overwrite (inside : offset ≤ bytes.length) (before : count ≤ offset) :
    (bytes.overwrite offset data).take count = bytes.take count := by
  rw [overwrite, List.append_assoc, List.take_append_of_le_length
    (by rw [List.length_take]; omega), List.take_take, Nat.min_eq_left before]

theorem drop_overwrite_self (inside : offset ≤ bytes.length) :
    (bytes.overwrite offset data).drop offset = data ++ bytes.drop (offset + data.length) := by
  rw [overwrite, List.append_assoc, List.drop_left' (by rw [List.length_take]; omega)]

theorem drop_overwrite (inside : offset ≤ bytes.length) (behind : offset + data.length ≤ count) :
    (bytes.overwrite offset data).drop count = bytes.drop count := by
  have split : count = offset + (data.length + (count - (offset + data.length))) := by omega
  rw [split, ← List.drop_drop, drop_overwrite_self inside, ← List.drop_drop, List.drop_left,
    List.drop_drop]
  congr 1
  omega

theorem slice_overwrite_before (inside : offset ≤ bytes.length) (before : start + count ≤ offset) :
    (bytes.overwrite offset data).slice start count = bytes.slice start count := by
  rw [slice, slice, List.take_drop, List.take_drop, take_overwrite inside before]

theorem slice_overwrite_behind (inside : offset ≤ bytes.length)
    (behind : offset + data.length ≤ start) :
    (bytes.overwrite offset data).slice start count = bytes.slice start count := by
  rw [slice, slice, drop_overwrite inside behind]

/-- What was written is there. -/
theorem slice_overwrite_self (inside : offset ≤ bytes.length) :
    (bytes.overwrite offset data).slice offset data.length = data := by
  rw [slice, drop_overwrite_self inside, List.take_left]

/-- Overwriting the front of a byte string leaves the rest of it alone. -/
theorem overwrite_append (back : Bytes) (inside : offset + data.length ≤ front.length) :
    Bytes.overwrite (front ++ back) offset data = Bytes.overwrite front offset data ++ back := by
  rw [overwrite, overwrite, List.take_append_of_le_length (by omega),
    List.drop_append_of_le_length inside, ← List.append_assoc]

/-- Writing what is there changes nothing. -/
theorem overwrite_slice_self (same : bytes.slice offset data.length = data) :
    bytes.overwrite offset data = bytes := by
  have behind : (bytes.drop offset).drop data.length = bytes.drop (offset + data.length) :=
    List.drop_drop
  rw [overwrite, ← behind, List.append_assoc]
  conv => lhs; rhs; lhs; rw [← same, slice]
  rw [List.take_append_drop, List.take_append_drop]

/-- Bytes that are written back as they were need not be written. -/
theorem overwrite_unchanged_append (inside : offset + count ≤ bytes.length) (data : Bytes) :
    bytes.overwrite offset (bytes.slice offset count ++ data) =
      bytes.overwrite (offset + count) data := by
  rw [overwrite, overwrite, List.length_append, length_slice inside, ← Nat.add_assoc, List.take_add]
  simp only [slice, List.append_assoc]

/-- Overwriting the middle of a byte string. -/
theorem overwrite_middle {middle : Bytes} (back : Bytes)
    (sameLength : middle.length = data.length) :
    Bytes.overwrite (front ++ middle ++ back) front.length data = front ++ data ++ back := by
  rw [List.append_assoc, overwrite, List.take_left, ← List.drop_drop, List.drop_left, ← sameLength,
    List.drop_left]

/-- Overwriting the middle of a byte string that is cut somewhere behind it. -/
theorem overwrite_take_middle {middle : Bytes} (back : Bytes)
    (sameLength : middle.length = data.length) (enough : front.length + data.length ≤ count) :
    Bytes.overwrite ((front ++ middle ++ back).take count) front.length data =
      front ++ data ++ back.take (count - (front.length + data.length)) := by
  have cut : (front ++ middle ++ back).take count =
      front ++ middle ++ back.take (count - (front.length + data.length)) := by
    have long : (front ++ middle).length ≤ count := by rw [List.length_append]; omega
    rw [List.take_append, List.take_of_length_le long, List.length_append, sameLength]
  rw [cut, overwrite_middle _ sameLength]

/-! ## Byte by byte -/

theorem byteAt_of_length_le {index : Nat} (past : bytes.length ≤ index) :
    bytes.byteAt index = 0 := by
  rw [byteAt, List.getD_eq_getElem?_getD, List.getElem?_eq_none past, Option.getD_none]

/-- Byte strings of one length are the same if their bytes are. -/
theorem ext_byteAt (length : bytes.length = other.length)
    (same : ∀ index, bytes.byteAt index = other.byteAt index) : bytes = other := by
  refine List.ext_getElem length fun index inside otherInside => ?_
  have byte := same index
  simpa only [byteAt, List.getD_eq_getElem?_getD, List.getElem?_eq_getElem inside,
    List.getElem?_eq_getElem otherInside, Option.getD_some] using byte

theorem byteAt_drop (bytes : Bytes) (offset index : Nat) :
    byteAt (bytes.drop offset) index = bytes.byteAt (offset + index) := by
  simp only [byteAt, List.getD_eq_getElem?_getD, List.getElem?_drop]

theorem byteAt_zeroes (count index : Nat) : (zeroes count).byteAt index = 0 := by
  simp only [byteAt, zeroes, List.getD_eq_getElem?_getD, List.getElem?_replicate]
  split <;> rfl

theorem byteAt_slice (bytes : Bytes) (offset count index : Nat) :
    (bytes.slice offset count).byteAt index =
      if index < count then bytes.byteAt (offset + index) else 0 := by
  simp only [byteAt, slice, List.getD_eq_getElem?_getD, List.getElem?_take, List.getElem?_drop]
  split <;> rfl

theorem byteAt_overwrite (inside : offset + data.length ≤ bytes.length) (index : Nat) :
    (bytes.overwrite offset data).byteAt index =
      if offset ≤ index ∧ index < offset + data.length then data.byteAt (index - offset)
      else bytes.byteAt index := by
  have within : offset ≤ bytes.length := Nat.le_trans (Nat.le_add_right _ _) inside
  simp only [byteAt, overwrite, List.getD_eq_getElem?_getD, List.append_assoc, List.getElem?_append,
    List.length_take, Nat.min_eq_left within, List.getElem?_take, List.getElem?_drop]
  by_cases before : index < offset
  · rw [if_pos before, if_pos before, if_neg (by omega)]
  · rw [if_neg before]
    by_cases reached : index - offset < data.length
    · rw [if_pos reached, if_pos (by omega)]
    · have same : offset + data.length + (index - offset - data.length) = index := by omega
      rw [if_neg reached, if_neg (by omega), same]

/-- A part of a byte string is zero exactly if its bytes are. -/
theorem slice_eq_zeroes_iff (inside : offset + count ≤ bytes.length) :
    bytes.slice offset count = zeroes count ↔
      ∀ index, offset ≤ index → index < offset + count → bytes.byteAt index = 0 := by
  constructor
  · intro zero index above below
    have byte := byteAt_slice bytes offset count (index - offset)
    rwa [zero, byteAt_zeroes, if_pos (by omega), Nat.add_sub_cancel' above, eq_comm] at byte
  · intro zero
    refine ext_byteAt ((length_slice inside).trans (length_zeroes count).symm) fun index => ?_
    rw [byteAt_slice, byteAt_zeroes]
    split
    · exact zero _ (by omega) (by omega)
    · rfl

theorem allZero_iff : bytes.allZero ↔ bytes = zeroes bytes.length := by
  simp only [allZero, List.all_eq_true, decide_eq_true_eq, zeroes, List.eq_replicate_iff, true_and]

end TrustBoundary.Bytes
