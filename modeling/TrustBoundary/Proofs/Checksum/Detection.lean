import TrustBoundary.Proofs.Bytes.Difference
import TrustBoundary.Proofs.Checksum.Linear

/-!
# The checksum detects one wrong byte

A division step loses nothing.  The polynomial has its highest bit set and the shift clears
this bit, so the step leaves no register but the empty one empty (`shift_eq_zero_iff`), and
being linear it is injective (`shift_injective`).  Taking in a byte is a combination and eight
such steps, so it is injective in the register and in the byte.

Two texts that differ in one byte bring the register into different states at this byte, and
what follows keeps them apart.  Their checksums differ, wherever the byte stands and however
long the texts are (`crc32_ne_of_differAt`).
-/

set_option autoImplicit false

namespace TrustBoundary

namespace Checksum

/-- A division step empties no register that was not empty. -/
theorem shift_eq_zero_iff {register : UInt32} : shift register = 0 ↔ register = 0 := by
  refine ⟨fun emptied => ?_, fun empty => by rw [empty]; rfl⟩
  have halved : (register >>> 1).toNat = register.toNat / 2 := by
    rw [UInt32.toNat_shiftRight]
    exact Nat.shiftRight_eq_div_pow _ 1
  have below := register.toNat_lt
  unfold shift at emptied
  rcases and_one_cases register with even | odd
  · rw [if_neg (by rw [even]; decide)] at emptied
    have lowest : (register &&& 1).toNat = register.toNat % 2 := by
      rw [UInt32.toNat_and]
      exact Nat.and_one_is_mod _
    rw [emptied] at halved
    rw [even] at lowest
    apply UInt32.toNat_inj.mp
    change 0 = _ at halved
    change 0 = _ at lowest
    change register.toNat = 0
    omega
  · rw [if_pos odd] at emptied
    -- the highest bit of the polynomial is in no register that was shifted
    have same : register >>> 1 = polynomial := UInt32.xor_eq_zero_iff.mp emptied
    rw [same] at halved
    change 0xEDB88320 = _ at halved
    omega

/-- A division step loses nothing. -/
theorem shift_injective {left right : UInt32} (same : shift left = shift right) : left = right := by
  apply UInt32.xor_eq_zero_iff.mp
  rw [← shift_eq_zero_iff, shift_xor, same, UInt32.xor_self]

/-- Registers that take in bytes and end up the same were combined with these to the same. -/
theorem absorbByte_injective {left right : UInt32} {one other : UInt8}
    (same : absorbByte left one = absorbByte right other) :
    left ^^^ one.toUInt32 = right ^^^ other.toUInt32 := by
  unfold absorbByte at same
  exact shift_injective (shift_injective (shift_injective (shift_injective (shift_injective
    (shift_injective (shift_injective (shift_injective same)))))))

/-- Different registers stay different whatever they take in. -/
theorem absorb_injective {left right : UInt32} {bytes : Bytes}
    (same : absorb left bytes = absorb right bytes) : left = right := by
  induction bytes generalizing left right with
  | nil => exact same
  | cons byte rest ih => exact (UInt32.xor_left_inj _).mp (absorbByte_injective (ih same))

end Checksum

/-- One byte in the place of another one keeps the checksum exactly if it is the same. -/
theorem crc32_cons_eq_iff {front back : Bytes} {one other : UInt8} :
    crc32 (front ++ one :: back) = crc32 (front ++ other :: back) ↔ one = other := by
  refine ⟨fun same => ?_, fun same => by rw [same]⟩
  unfold crc32 Checksum.finish at same
  rw [UInt32.xor_left_inj, Checksum.absorb_append, Checksum.absorb_append] at same
  have taken :=
    (UInt32.xor_right_inj _).mp (Checksum.absorbByte_injective (Checksum.absorb_injective same))
  exact UInt8.toNat_inj.mp (congrArg UInt32.toNat taken)

/-- **A text with one wrong byte has another checksum.** -/
theorem crc32_ne_of_differAt {first second : Bytes} {index : Nat}
    (differ : first.DifferAt second index) : crc32 first ≠ crc32 second := by
  obtain ⟨front, one, other, back, rfl, rfl, different⟩ := differ.exists_parts
  exact fun same => different (crc32_cons_eq_iff.mp same)

end TrustBoundary
