import TrustBoundary.Proofs.Bytes.Parts

/-!
# Byte strings that differ in one byte

What happens to a byte string when one of its bytes is replaced is said here byte by byte:
two strings of one length differ at an index, and nowhere else (`Bytes.DifferAt`).  A part of
them with that index differs there, and a part without it does not differ at all.  The same
holds of the strings after a part of both was overwritten.
-/

set_option autoImplicit false

namespace TrustBoundary.Bytes

/-- Byte strings of one length that differ in exactly one byte. -/
structure DifferAt (first second : Bytes) (index : Nat) : Prop where
  length : first.length = second.length
  byteAt_ne : first.byteAt index ≠ second.byteAt index
  byteAt_eq : ∀ other, other ≠ index → first.byteAt other = second.byteAt other

namespace DifferAt

variable {first second data : Bytes} {index offset count : Nat}

theorem inside (differ : DifferAt first second index) : index < first.length := by
  refine Nat.not_le.mp fun past => differ.byteAt_ne ?_
  rw [byteAt_of_length_le past, byteAt_of_length_le (differ.length ▸ past)]

theorem ne (differ : DifferAt first second index) : first ≠ second :=
  fun same => differ.byteAt_ne (by rw [same])

/-- A part that the difference lies in differs. -/
theorem slice (differ : DifferAt first second index) (above : offset ≤ index)
    (below : index < offset + count) :
    DifferAt (first.slice offset count) (second.slice offset count) (index - offset) where
  length := by
    simp only [Bytes.slice, List.length_take, List.length_drop, differ.length]
  byteAt_ne := by
    have within : index - offset < count := by omega
    rw [byteAt_slice, byteAt_slice, if_pos within, if_pos within, Nat.add_sub_cancel' above]
    exact differ.byteAt_ne
  byteAt_eq other elsewhere := by
    rw [byteAt_slice, byteAt_slice, differ.byteAt_eq (offset + other) (by omega)]

/-- A front that the difference lies in differs. -/
theorem take (differ : DifferAt first second index) (below : index < count) :
    DifferAt (first.take count) (second.take count) index :=
  differ.slice (Nat.zero_le _) (Nat.lt_of_lt_of_eq below (Nat.zero_add count).symm)

/-- A part that the difference does not lie in is the same. -/
theorem slice_eq (differ : DifferAt first second index)
    (outside : index < offset ∨ offset + count ≤ index) :
    first.slice offset count = second.slice offset count := by
  refine ext_byteAt (by simp only [Bytes.slice, List.length_take, List.length_drop, differ.length])
    fun other => ?_
  rw [byteAt_slice, byteAt_slice]
  split
  · rw [differ.byteAt_eq (offset + other) (by omega)]
  · rfl

/-- A word that the difference does not lie in is the same. -/
theorem word32At_eq (differ : DifferAt first second index)
    (outside : index < offset ∨ offset + 4 ≤ index) :
    first.word32At offset = second.word32At offset := by
  rw [word32At, word32At, differ.slice_eq outside]

/-- The difference stays if other bytes are overwritten. -/
theorem overwrite (differ : DifferAt first second index)
    (inside : offset + data.length ≤ first.length)
    (outside : index < offset ∨ offset + data.length ≤ index) :
    DifferAt (first.overwrite offset data) (second.overwrite offset data) index where
  length := by
    rw [length_overwrite _ _ _ inside, length_overwrite _ _ _ (differ.length ▸ inside),
      differ.length]
  byteAt_ne := by
    have elsewhere : ¬(offset ≤ index ∧ index < offset + data.length) := by omega
    rw [byteAt_overwrite inside, byteAt_overwrite (differ.length ▸ inside), if_neg elsewhere,
      if_neg elsewhere]
    exact differ.byteAt_ne
  byteAt_eq other elsewhere := by
    rw [byteAt_overwrite inside, byteAt_overwrite (differ.length ▸ inside),
      differ.byteAt_eq other elsewhere]

/-- Overwriting the byte that differs makes the strings the same. -/
theorem overwrite_eq (differ : DifferAt first second index)
    (inside : offset + data.length ≤ first.length) (above : offset ≤ index)
    (below : index < offset + data.length) :
    first.overwrite offset data = second.overwrite offset data := by
  refine ext_byteAt ?_ fun other => ?_
  · rw [length_overwrite _ _ _ inside, length_overwrite _ _ _ (differ.length ▸ inside),
      differ.length]
  · rw [byteAt_overwrite inside, byteAt_overwrite (differ.length ▸ inside)]
    split
    · rfl
    · exact differ.byteAt_eq other (by omega)

/-- In front of the difference and behind it, the strings are the same. -/
theorem exists_parts (differ : DifferAt first second index) : ∃ front one other back,
    first = front ++ one :: back ∧ second = front ++ other :: back ∧ one ≠ other := by
  have inside := differ.inside
  have otherInside : index < second.length := differ.length ▸ inside
  have front : first.take index = second.take index := by
    have same := differ.slice_eq (.inr (Nat.le_of_eq (Nat.zero_add index)))
    exact same
  have back : first.drop (index + 1) = second.drop (index + 1) := by
    have same := @slice_eq _ _ _ (index + 1) first.length differ (.inl (Nat.lt_succ_self _))
    rwa [Bytes.slice, Bytes.slice, List.take_of_length_le (by rw [List.length_drop]; omega),
      List.take_of_length_le (by rw [List.length_drop, differ.length]; omega)] at same
  refine ⟨first.take index, first[index], second[index], first.drop (index + 1), ?_, ?_, ?_⟩
  · rw [List.getElem_cons_drop, List.take_append_drop]
  · rw [front, back, List.getElem_cons_drop, List.take_append_drop]
  · have byte := differ.byteAt_ne
    simpa only [byteAt, List.getD_eq_getElem?_getD, List.getElem?_eq_getElem inside,
      List.getElem?_eq_getElem otherInside, Option.getD_some] using byte

end DifferAt

end TrustBoundary.Bytes
