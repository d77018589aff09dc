import TrustBoundary.Word

/-!
# Logical sector sizes

A disk is addressed in sectors of 512 or of 4096 bytes.  The same bytes may be
seen under either size, and a disk that moved from one to the other is what the
rest of this library is about.
-/

set_option autoImplicit false

namespace TrustBoundary

/-- The logical sector sizes that are supported. -/
inductive SectorSize where
  /-- Sectors of 512 bytes. -/
  | small
  /-- Sectors of 4096 bytes. -/
  | large
deriving DecidableEq, Repr

namespace SectorSize

/-- The number of bytes in a sector. -/
def bytes : SectorSize → Nat
  | small => 512
  | large => 4096

/-- The sector size with this number of bytes, if it is supported. -/
def ofBytes? (count : Nat) : Option SectorSize :=
  if count = 512 then some small else if count = 4096 then some large else none

/-- The sector size that a disk may have had before. -/
def other : SectorSize → SectorSize
  | small => large
  | large => small

/-- The bytes of the sectors that `count` bytes fill or begin to fill, if `count`
leaves room for rounding it up. -/
def roundUp (sectorSize : SectorSize) (count : Nat) : Option Nat :=
  (Word.add count (sectorSize.bytes - 1)).map fun sum => sum - sum % sectorSize.bytes

/-- The bytes of the sectors that `count` bytes fill or begin to fill. -/
def wholeBytes (sectorSize : SectorSize) (count : Nat) : Nat :=
  count + (sectorSize.bytes - 1) - (count + (sectorSize.bytes - 1)) % sectorSize.bytes

/-- Rounding up gives whole sectors whenever there is room for it. -/
theorem roundUp_eq_some_iff {sectorSize : SectorSize} {count result : Nat} :
    sectorSize.roundUp count = some result ↔
      count + (sectorSize.bytes - 1) < Word.limit ∧ sectorSize.wholeBytes count = result := by
  simp only [roundUp, Option.map_eq_some_iff, Word.add_eq_some_iff, wholeBytes]
  constructor
  · rintro ⟨_, ⟨small, rfl⟩, same⟩
    exact ⟨small, same⟩
  · rintro ⟨small, same⟩
    exact ⟨_, ⟨small, rfl⟩, same⟩

@[simp] theorem other_other (sectorSize : SectorSize) : sectorSize.other.other = sectorSize := by
  cases sectorSize <;> rfl

theorem bytes_cases (sectorSize : SectorSize) :
    sectorSize.bytes = 512 ∨ sectorSize.bytes = 4096 := by
  cases sectorSize
  · exact .inl rfl
  · exact .inr rfl

theorem bytes_pos (sectorSize : SectorSize) : 0 < sectorSize.bytes := by
  cases sectorSize <;> decide

theorem le_wholeBytes (sectorSize : SectorSize) (count : Nat) :
    count ≤ sectorSize.wholeBytes count := by
  unfold wholeBytes
  rcases sectorSize.bytes_cases with same | same <;> rw [same] <;> omega

theorem wholeBytes_lt (sectorSize : SectorSize) (count : Nat) :
    sectorSize.wholeBytes count < count + sectorSize.bytes := by
  unfold wholeBytes
  rcases sectorSize.bytes_cases with same | same <;> rw [same] <;> omega

theorem wholeBytes_mod (sectorSize : SectorSize) (count : Nat) :
    sectorSize.wholeBytes count % sectorSize.bytes = 0 := by
  unfold wholeBytes
  rcases sectorSize.bytes_cases with same | same <;> rw [same] <;> omega

/-- Whole sectors are the least that hold the bytes. -/
theorem wholeBytes_le {sectorSize : SectorSize} {count bound : Nat} (enough : count ≤ bound)
    (whole : bound % sectorSize.bytes = 0) : sectorSize.wholeBytes count ≤ bound := by
  unfold wholeBytes
  rcases sectorSize.bytes_cases with same | same <;> rw [same] at whole ⊢ <;> omega

/-- Anything at all takes at least one sector. -/
theorem bytes_le_wholeBytes {sectorSize : SectorSize} {count : Nat} (some : 0 < count) :
    sectorSize.bytes ≤ sectorSize.wholeBytes count := by
  have holds := sectorSize.le_wholeBytes count
  have whole := sectorSize.wholeBytes_mod count
  rcases sectorSize.bytes_cases with same | same <;> rw [same] at whole ⊢ <;> omega

instance : ToString SectorSize := ⟨fun sectorSize => toString sectorSize.bytes⟩

end SectorSize

end TrustBoundary
