import TrustBoundary.Proofs.Migration.Accepted

/-!
# Where a rebuilt copy lies

The header and the entry array of a rebuilt copy have fixed places: at the front
the header comes first and the array right behind it, and at the end the array
comes right in front of the header.  Both keep to the side of the partitions
that is left to this copy (`Rebuilt.owns_header`, `Rebuilt.owns_table`).

A disk that holds the two there holds the rebuilt copy (`Rebuilt.storedAt`).
-/

set_option autoImplicit false

namespace TrustBoundary.Migration

open Gpt (Location)

/-- Where the header of a copy begins. -/
def Geometry.headerStart (geometry : Geometry) (location : Location) : Nat :=
  match location with
  | .primary => geometry.sectorSize.bytes
  | .backup => geometry.size - geometry.sectorSize.bytes

/-- Where an entry array that takes `room` bytes begins. -/
def Geometry.tableStart (geometry : Geometry) (location : Location) (room : Nat) : Nat :=
  match location with
  | .primary => 2 * geometry.sectorSize.bytes
  | .backup => geometry.size - (room + geometry.sectorSize.bytes)

variable {gpt new : Gpt} {location : Location} {geometry : Geometry} {first last : Nat}

/-- A header begins where its sector does. -/
theorem Geometry.lba_mul_bytes {lba : Nat} (here : location.lba geometry.sectors = some lba) :
    lba * geometry.sectorSize.bytes = geometry.headerStart location := by
  obtain ⟨rfl, rfl⟩ | ⟨atEnd, rfl⟩ := Location.lba_eq_some here
  · rw [Nat.one_mul, Geometry.headerStart]
  · rw [Geometry.headerStart, Geometry.size, ← atEnd, Nat.mul_succ, Nat.add_sub_cancel,
      Nat.mul_comm]

namespace Rebuilt

theorem headerStart_eq (rebuilt : Rebuilt new gpt location geometry first last) :
    new.header.myLba.toNat * geometry.sectorSize.bytes = geometry.headerStart location :=
  Geometry.lba_mul_bytes rebuilt.announces.myLba

theorem tableStart_eq (rebuilt : Rebuilt new gpt location geometry first last) :
    new.tableStart = geometry.tableStart location new.tableRoom := by
  have behind := rebuilt.lastUsable_lt
  rw [Gpt.tableStart, rebuilt.announces.tableLba, rebuilt.sectorSize]
  cases location with
  | primary => rfl
  | backup =>
      change (geometry.sectors - (1 + new.tableRoom / geometry.sectorSize.bytes)) *
        geometry.sectorSize.bytes = geometry.size - (new.tableRoom + geometry.sectorSize.bytes)
      rw [Nat.sub_mul, Nat.add_mul, ← rebuilt.tableRoom_eq, Nat.one_mul,
        Nat.add_comm new.tableRoom, Geometry.size, Nat.mul_comm geometry.sectors]

/-- The partitions lie between the two sides. -/
theorem first_lt_last (rebuilt : Rebuilt new gpt location geometry first last)
    {disk : Disk} {offset sectors : Nat} (stored : gpt.StoredAt disk offset sectors) :
    first < last :=
  (stored.partitions_usable rebuilt.isFirst rebuilt.isLast).2.1

theorem owns_header (rebuilt : Rebuilt new gpt location geometry first last) :
    location.Owns first last (geometry.headerStart location) geometry.sectorSize.bytes := by
  have inFront := rebuilt.inFront
  have behind := rebuilt.behind
  cases location with
  | primary =>
      change geometry.sectorSize.bytes + geometry.sectorSize.bytes ≤ first
      omega
  | backup =>
      change last ≤ geometry.size - geometry.sectorSize.bytes
      omega

theorem owns_table (rebuilt : Rebuilt new gpt location geometry first last) :
    location.Owns first last (geometry.tableStart location new.tableRoom) new.tableRoom := by
  have inFront := rebuilt.inFront
  have behind := rebuilt.behind
  cases location with
  | primary =>
      change 2 * geometry.sectorSize.bytes + new.tableRoom ≤ first
      omega
  | backup =>
      change last ≤ geometry.size - (new.tableRoom + geometry.sectorSize.bytes)
      omega

/-- The entry array ends on the disk. -/
theorem table_inside (rebuilt : Rebuilt new gpt location geometry first last)
    (ordered : first < last) :
    geometry.tableStart location new.tableRoom + new.tableRoom ≤ geometry.size := by
  have inFront := rebuilt.inFront
  have behind := rebuilt.behind
  cases location with
  | primary =>
      change 2 * geometry.sectorSize.bytes + new.tableRoom ≤ geometry.size
      omega
  | backup =>
      change geometry.size - (new.tableRoom + geometry.sectorSize.bytes) + new.tableRoom ≤
        geometry.size
      omega

/-- The header ends on the disk. -/
theorem header_inside (rebuilt : Rebuilt new gpt location geometry first last)
    (ordered : first < last) :
    geometry.headerStart location + geometry.sectorSize.bytes ≤ geometry.size := by
  have inFront := rebuilt.inFront
  have behind := rebuilt.behind
  cases location with
  | primary =>
      change geometry.sectorSize.bytes + geometry.sectorSize.bytes ≤ geometry.size
      omega
  | backup =>
      change geometry.size - geometry.sectorSize.bytes + geometry.sectorSize.bytes ≤ geometry.size
      omega

/-- Writing the header leaves the entry array alone. -/
theorem header_apart (rebuilt : Rebuilt new gpt location geometry first last) :
    Write.Apart ⟨geometry.headerStart location, new.headerSector⟩
      (geometry.tableStart location new.tableRoom) new.tableRoom := by
  have behind := rebuilt.behind
  have width : new.headerSector.length = geometry.sectorSize.bytes := by
    rw [Gpt.length_headerSector, rebuilt.sectorSize]
  cases location with
  | primary =>
      refine .inl ?_
      change geometry.sectorSize.bytes + new.headerSector.length ≤ 2 * geometry.sectorSize.bytes
      omega
  | backup =>
      refine .inr ?_
      change geometry.size - (new.tableRoom + geometry.sectorSize.bytes) + new.tableRoom ≤
        geometry.size - geometry.sectorSize.bytes
      omega

/-- **A disk with the header and the entry array of a rebuilt copy in their
places holds that copy.** -/
theorem storedAt (rebuilt : Rebuilt new gpt location geometry first last) {disk other : Disk}
    {offset sectors : Nat} (stored : gpt.StoredAt disk offset sectors)
    (size : other.size = geometry.size)
    (header : other.bytesAt (geometry.headerStart location) geometry.sectorSize.bytes =
      new.headerSector)
    (table : other.bytesAt (geometry.tableStart location new.tableRoom) new.tableRoom = new.table) :
    new.StoredAt other new.header.myLba.toNat geometry.sectors := by
  have ordered := rebuilt.first_lt_last stored
  have headerInside := rebuilt.header_inside ordered
  have tableInside := rebuilt.table_inside ordered
  have small := rebuilt.size_lt
  have positive := geometry.sectorSize.bytes_pos
  rw [← rebuilt.headerStart_eq, ← rebuilt.sectorSize] at header
  rw [← rebuilt.headerStart_eq] at headerInside
  rw [← rebuilt.tableStart_eq] at tableInside table
  exact {
    possible := by
      have minimum := rebuilt.minimumSectors_le
      have least : Disk.minimumSectors = 6 := rfl
      obtain ⟨atOne, _⟩ | ⟨atEnd, _⟩ := Location.lba_eq_some rebuilt.announces.myLba <;> omega
    start_lt := by rw [rebuilt.sectorSize]; omega
    header_inside := by rw [rebuilt.sectorSize, size]; exact headerInside
    header_eq := by rw [header, Gpt.decode_headerSector]
    accepted := by rw [header]; exact rebuilt.accepted stored
    tableStart_lt := by omega
    table_inside := size ▸ tableInside
    table_eq := table
    tableCrc := rebuilt.tableCrc
    entries := rebuilt.entriesUsable stored
    usedEntries := rebuilt.usedEntries_last stored }

end Rebuilt

end TrustBoundary.Migration
