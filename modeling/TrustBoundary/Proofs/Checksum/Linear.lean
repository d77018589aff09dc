import TrustBoundary.Bytes

/-!
# The checksum register is linear

Dividing by a polynomial is linear over exclusive or, and so is every step of the
register.  A combination of two registers that takes in bytes ends as the
combination of what the two end as, when one of them takes in the bytes and the
other one as many zeroes (`absorb_xor`).

So what bytes do to a register does not depend on what it was before: they change
it, compared with as many zeroes, by what they make of an empty register.  A text
that ends in zeroes therefore keeps its checksum when other bytes are put in the
place of these zeroes exactly if those bytes leave an empty register empty
(`crc32_append_eq_iff`).
-/

set_option autoImplicit false

namespace TrustBoundary

namespace Checksum

/-- The lowest bit of a register is clear or set. -/
theorem and_one_cases (register : UInt32) : register &&& 1 = 0 ∨ register &&& 1 = 1 := by
  have small : (register &&& 1).toNat ≤ 1 := by
    rw [UInt32.toNat_and]
    exact Nat.and_le_right
  rcases Nat.le_one_iff_eq_zero_or_eq_one.mp small with clear | set
  · exact .inl (UInt32.toNat_inj.mp clear)
  · exact .inr (UInt32.toNat_inj.mp set)

/-- The lowest bit of a combination is the combination of the lowest bits. -/
theorem xor_and_one (left right : UInt32) :
    (left ^^^ right) &&& 1 = (left &&& 1) ^^^ (right &&& 1) := by
  apply UInt32.toNat_inj.mp
  simp only [UInt32.toNat_and, UInt32.toNat_xor, Nat.and_xor_distrib_right]

/-- A division step of a combination combines the division steps. -/
theorem shift_xor (left right : UInt32) : shift (left ^^^ right) = shift left ^^^ shift right := by
  unfold shift
  rw [xor_and_one, UInt32.shiftRight_xor]
  -- the polynomial comes in for each of the two that is odd, and twice is not at all
  rcases and_one_cases left with even | odd <;> rcases and_one_cases right with even' | odd'
  · simp [even, even']
  · simp [even, odd', UInt32.xor_assoc]
  · simp [odd, even', UInt32.xor_assoc, UInt32.xor_comm polynomial]
  · have twice : left >>> 1 ^^^ polynomial ^^^ (right >>> 1 ^^^ polynomial) =
        left >>> 1 ^^^ right >>> 1 := by
      rw [UInt32.xor_comm (right >>> 1), UInt32.xor_assoc, ← UInt32.xor_assoc polynomial,
        UInt32.xor_self, UInt32.zero_xor]
    simp [odd, odd', twice]

/-- A combination that takes in a byte combines a register that does with one that
takes in a zero. -/
theorem absorbByte_xor (left right : UInt32) (byte : UInt8) :
    absorbByte (left ^^^ right) byte = absorbByte left 0 ^^^ absorbByte right byte := by
  have zero : left ^^^ (0 : UInt8).toUInt32 = left := UInt32.xor_zero
  unfold absorbByte
  rw [zero, UInt32.xor_assoc]
  simp only [shift_xor]

/-- **A combination that takes in bytes** combines a register that does with one that
takes in as many zeroes. -/
theorem absorb_xor (left right : UInt32) (bytes : Bytes) :
    absorb (left ^^^ right) bytes =
      absorb left (Bytes.zeroes bytes.length) ^^^ absorb right bytes := by
  induction bytes generalizing left right with
  | nil => rfl
  | cons byte rest ih =>
      have zeroes : Bytes.zeroes (byte :: rest).length = 0 :: Bytes.zeroes rest.length := rfl
      rw [zeroes]
      change absorb (absorbByte (left ^^^ right) byte) rest =
        absorb (absorbByte left 0) (Bytes.zeroes rest.length) ^^^
          absorb (absorbByte right byte) rest
      rw [absorbByte_xor, ih]

/-- Bytes do the same to a register as zeroes exactly if they leave an empty one empty. -/
theorem absorb_zeroes_eq_iff {register : UInt32} {bytes : Bytes} :
    absorb register (Bytes.zeroes bytes.length) = absorb register bytes ↔ absorb 0 bytes = 0 := by
  have split := absorb_xor register 0 bytes
  rw [UInt32.xor_zero] at split
  rw [split, eq_comm]
  constructor
  · intro same
    exact (UInt32.xor_right_inj _).mp (same.trans UInt32.xor_zero.symm)
  · intro empty
    rw [empty, UInt32.xor_zero]

end Checksum

/-- Other bytes in the place of the zeroes at the end of a text keep its checksum
exactly if they leave an empty register empty. -/
theorem crc32_append_eq_iff {front back : Bytes} :
    crc32 (front ++ Bytes.zeroes back.length) = crc32 (front ++ back) ↔
      Checksum.absorb 0 back = 0 := by
  unfold crc32 Checksum.finish
  rw [UInt32.xor_left_inj, Checksum.absorb_append, Checksum.absorb_append,
    Checksum.absorb_zeroes_eq_iff]

end TrustBoundary
