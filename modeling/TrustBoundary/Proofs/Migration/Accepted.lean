import TrustBoundary.Proofs.Migration.Recounted

/-!
# A rebuilt copy is accepted

Rounding the bounds of the usable sectors moves them inward, and still leaves
every partition between them, since partitions begin and end at sectors of the
new size.  In front of the usable sectors and behind them there is room for the
new entry array and the headers.  Hence the new header passes validation at its
own place (`Rebuilt.accepted`), and every partition lies inside its usable
sectors (`Rebuilt.entriesUsable`).
-/

set_option autoImplicit false

namespace TrustBoundary.Migration

open Gpt (Entry Location)

variable {gpt new : Gpt} {location : Location} {geometry : Geometry} {first last : Nat}
  {disk : Disk} {offset sectors : Nat}

namespace Rebuilt

/-! ## The usable sectors of the new copy -/

theorem first_mod (rebuilt : Rebuilt new gpt location geometry first last) :
    first % geometry.sectorSize.bytes = 0 := by
  obtain ⟨item, member, rfl⟩ := (Gpt.firstStart?_eq_some_iff.mp rebuilt.isFirst).1
  exact (rebuilt.expressible item member).start_mod

theorem last_mod (rebuilt : Rebuilt new gpt location geometry first last) :
    last % geometry.sectorSize.bytes = 0 := by
  obtain ⟨item, member, rfl⟩ := (Gpt.lastStop?_eq_some_iff.mp rebuilt.isLast).1
  exact (rebuilt.expressible item member).stop_mod

theorem usableStart_eq (rebuilt : Rebuilt new gpt location geometry first last) :
    new.usableStart = geometry.sectorSize.wholeBytes
      (max gpt.usableStart (new.tableRoom + 2 * geometry.sectorSize.bytes)) := by
  rw [Gpt.usableStart, rebuilt.announces.firstUsable, rebuilt.sectorSize]
  exact Nat.div_mul_cancel (Nat.dvd_of_mod_eq_zero (geometry.sectorSize.wholeBytes_mod _))

theorem usableStop_eq (rebuilt : Rebuilt new gpt location geometry first last) :
    new.usableStop =
      min gpt.usableStop (geometry.size - (new.tableRoom + geometry.sectorSize.bytes)) /
        geometry.sectorSize.bytes * geometry.sectorSize.bytes := by
  rw [Gpt.usableStop, rebuilt.announces.lastUsable, rebuilt.sectorSize]

/-- The table and the headers in front of it leave the usable sectors alone. -/
theorem tableRoom_le_usableStart (rebuilt : Rebuilt new gpt location geometry first last) :
    new.tableRoom + 2 * geometry.sectorSize.bytes ≤ new.usableStart := by
  rw [rebuilt.usableStart_eq]
  exact Nat.le_trans (Nat.le_max_right _ _) (geometry.sectorSize.le_wholeBytes _)

/-- Behind the usable sectors there is room for the table and a header. -/
theorem usableStop_le (rebuilt : Rebuilt new gpt location geometry first last) :
    new.usableStop + (new.tableRoom + geometry.sectorSize.bytes) ≤ geometry.size := by
  have behind := rebuilt.behind
  rw [rebuilt.usableStop_eq]
  have below := Nat.div_mul_le_self
    (min gpt.usableStop (geometry.size - (new.tableRoom + geometry.sectorSize.bytes)))
    geometry.sectorSize.bytes
  omega

theorem usableStart_le_first (rebuilt : Rebuilt new gpt location geometry first last)
    (stored : gpt.StoredAt disk offset sectors) : new.usableStart ≤ first := by
  obtain ⟨above, _, _⟩ := stored.partitions_usable rebuilt.isFirst rebuilt.isLast
  rw [rebuilt.usableStart_eq]
  exact SectorSize.wholeBytes_le (Nat.max_le.mpr ⟨above, rebuilt.inFront⟩) rebuilt.first_mod

theorem last_le_usableStop (rebuilt : Rebuilt new gpt location geometry first last)
    (stored : gpt.StoredAt disk offset sectors) : last ≤ new.usableStop := by
  obtain ⟨_, _, below⟩ := stored.partitions_usable rebuilt.isFirst rebuilt.isLast
  have behind := rebuilt.behind
  rw [rebuilt.usableStop_eq, ← Nat.div_mul_cancel (Nat.dvd_of_mod_eq_zero rebuilt.last_mod)]
  exact Nat.mul_le_mul_right _ (Nat.div_le_div_right (Nat.le_min.mpr ⟨below, by omega⟩))

/-! ## The parts of the new copy in sectors -/

theorem tableRoom_eq (rebuilt : Rebuilt new gpt location geometry first last) :
    new.tableRoom = new.tableRoom / geometry.sectorSize.bytes * geometry.sectorSize.bytes := by
  have whole : new.tableRoom % new.sectorSize.bytes = 0 := new.sectorSize.wholeBytes_mod _
  rw [rebuilt.sectorSize] at whole
  exact (Nat.div_mul_cancel (Nat.dvd_of_mod_eq_zero whole)).symm

theorem entryCount_pos (rebuilt : Rebuilt new gpt location geometry first last)
    (stored : gpt.StoredAt disk offset sectors) : 0 < new.header.entryCount.toNat := by
  obtain ⟨last, _, counted⟩ := stored.usedEntries
  have enough := rebuilt.used_le
  omega

theorem tableSectors_pos (rebuilt : Rebuilt new gpt location geometry first last)
    (stored : gpt.StoredAt disk offset sectors) :
    0 < new.tableRoom / geometry.sectorSize.bytes := by
  refine Nat.div_pos ?_ geometry.sectorSize.bytes_pos
  rw [← rebuilt.sectorSize]
  refine SectorSize.bytes_le_wholeBytes (Nat.mul_pos (rebuilt.entryCount_pos stored) ?_)
  rw [rebuilt.entrySize stored]
  decide

theorem firstUsable_ge (rebuilt : Rebuilt new gpt location geometry first last) :
    new.tableRoom / geometry.sectorSize.bytes + 2 ≤ new.header.firstUsableLba.toNat := by
  have inFront := rebuilt.tableRoom_le_usableStart
  rw [rebuilt.tableRoom_eq, ← Nat.add_mul, Gpt.usableStart, rebuilt.sectorSize] at inFront
  exact Nat.le_of_mul_le_mul_right inFront geometry.sectorSize.bytes_pos

theorem firstUsable_le (rebuilt : Rebuilt new gpt location geometry first last)
    (stored : gpt.StoredAt disk offset sectors) :
    new.header.firstUsableLba.toNat ≤ new.header.lastUsableLba.toNat := by
  obtain ⟨_, ordered, _⟩ := stored.partitions_usable rebuilt.isFirst rebuilt.isLast
  have below : new.usableStart < new.usableStop := Nat.lt_of_le_of_lt
    (rebuilt.usableStart_le_first stored)
    (Nat.lt_of_lt_of_le ordered (rebuilt.last_le_usableStop stored))
  exact Nat.le_of_lt_succ (Nat.lt_of_mul_lt_mul_right below)

theorem lastUsable_lt (rebuilt : Rebuilt new gpt location geometry first last) :
    new.header.lastUsableLba.toNat + 1 + (new.tableRoom / geometry.sectorSize.bytes + 1) ≤
      geometry.sectors := by
  have behind := rebuilt.usableStop_le
  rw [rebuilt.tableRoom_eq, ← Nat.succ_mul, Gpt.usableStop, rebuilt.sectorSize, ← Nat.add_mul,
    Geometry.size, Nat.mul_comm geometry.sectorSize.bytes] at behind
  exact Nat.le_of_mul_le_mul_right behind geometry.sectorSize.bytes_pos

/-- The parts of the new copy lie in the order that its kind calls for. -/
theorem placed (rebuilt : Rebuilt new gpt location geometry first last)
    (stored : gpt.StoredAt disk offset sectors) :
    new.header.Placed new.header.myLba.toNat geometry.sectors := by
  have minimum := rebuilt.minimumSectors_le
  have least : Disk.minimumSectors = 6 := rfl
  have someTable := rebuilt.tableSectors_pos stored
  have behind := rebuilt.lastUsable_lt
  have tableLba := rebuilt.announces.tableLba
  have alternate := Location.lba_eq_some rebuilt.announces.alternateLba
  unfold Gpt.Header.Placed
  obtain ⟨atOne, rfl⟩ | ⟨atEnd, rfl⟩ := Location.lba_eq_some rebuilt.announces.myLba
  · rw [if_pos atOne]
    obtain ⟨_, impossible⟩ | ⟨alternateAtEnd, _⟩ := alternate
    · exact nomatch impossible
    · exact ⟨tableLba, by omega, by omega⟩
  · rw [if_neg (by omega)]
    rw [Geometry.tableLba] at tableLba
    obtain ⟨alternateAtOne, _⟩ | ⟨_, impossible⟩ := alternate
    · exact ⟨UInt64.toNat_inj.mp alternateAtOne, by omega, by omega⟩
    · exact nomatch impossible

/-- The new copy has as much room for its table as that takes. -/
theorem tableSectors_le_room (rebuilt : Rebuilt new gpt location geometry first last) :
    new.tableRoom / geometry.sectorSize.bytes ≤ new.header.room new.header.myLba.toNat := by
  have minimum := rebuilt.minimumSectors_le
  have least : Disk.minimumSectors = 6 := rfl
  have inFront := rebuilt.firstUsable_ge
  have behind := rebuilt.lastUsable_lt
  have tableLba := rebuilt.announces.tableLba
  unfold Gpt.Header.room
  obtain ⟨atOne, rfl⟩ | ⟨atEnd, rfl⟩ := Location.lba_eq_some rebuilt.announces.myLba <;>
    rw [Geometry.tableLba] at tableLba
  · rw [if_pos atOne]
    omega
  · rw [if_neg (by omega)]
    omega

theorem tableBytes_le (rebuilt : Rebuilt new gpt location geometry first last) :
    new.header.tableBytes ≤ gpt.header.tableBytes := by
  rw [Gpt.Header.tableBytes, Gpt.Header.tableBytes, rebuilt.announces.entrySize]
  exact Nat.mul_le_mul_right _ rebuilt.count_le

/-- **A rebuilt copy passes validation** at its own place. -/
theorem accepted (rebuilt : Rebuilt new gpt location geometry first last)
    (stored : gpt.StoredAt disk offset sectors) :
    new.header.Accepted new.headerSector new.header.myLba.toNat new.sectorSize
      geometry.sectors where
  minimumSectors_le := rebuilt.minimumSectors_le
  offset_lt := by
    have minimum := rebuilt.minimumSectors_le
    have least : Disk.minimumSectors = 6 := rfl
    obtain ⟨atOne, _⟩ | ⟨atEnd, _⟩ := Location.lba_eq_some rebuilt.announces.myLba <;> omega
  signature := rebuilt.announces.signature
  revision := rebuilt.announces.revision.trans stored.accepted.revision
  width_le := rebuilt.announces.headerSize ▸ stored.accepted.width_le
  headerSize_le := rebuilt.sectorSize ▸ rebuilt.headerSize_le
  headerSize_le_length := by
    rw [Gpt.length_headerSector, rebuilt.sectorSize]
    exact rebuilt.headerSize_le
  checksum := rebuilt.headerCrc
  entrySize := rebuilt.entrySize stored
  firstUsable_ge := by
    have inFront := rebuilt.firstUsable_ge
    have someTable := rebuilt.tableSectors_pos stored
    omega
  firstUsable_le := rebuilt.firstUsable_le stored
  placed := rebuilt.placed stored
  entryCount_ne := by
    intro none
    have some := rebuilt.entryCount_pos stored
    rw [none] at some
    exact absurd some (by decide)
  tableBytes_le_room := by
    have holds : new.header.tableBytes ≤ new.tableRoom := new.sectorSize.le_wholeBytes _
    refine Nat.le_trans holds ?_
    rw [rebuilt.tableRoom_eq, rebuilt.sectorSize]
    exact Nat.mul_le_mul_right _ rebuilt.tableSectors_le_room
  tableBytes_le := Nat.le_trans rebuilt.tableBytes_le stored.accepted.tableBytes_le

/-- Validating the new header sector gives the length of the new entry array. -/
theorem validated (rebuilt : Rebuilt new gpt location geometry first last)
    (stored : gpt.StoredAt disk offset sectors) :
    (Gpt.checkHeader new.headerSector new.header.myLba.toNat geometry.sectorSize
      geometry.sectors).outcome = .ok new.header.tableBytes := by
  have accepted := rebuilt.accepted stored
  have enough : Gpt.Header.width ≤ new.headerSector.length := by
    rw [Gpt.length_headerSector]
    exact Nat.le_trans accepted.width_le accepted.headerSize_le
  have found := Gpt.Header.ofSector?_eq_some_iff.mpr ⟨enough, Gpt.decode_headerSector new⟩
  rw [rebuilt.sectorSize] at accepted
  exact Gpt.checkHeader_eq_ok_iff.mpr ⟨new.header, found, accepted, rfl⟩

/-! ## The partitions of the new copy -/

/-- Every partition lies inside the usable sectors of the new copy. -/
theorem entriesUsable (rebuilt : Rebuilt new gpt location geometry first last)
    (stored : gpt.StoredAt disk offset sectors) :
    Gpt.EntriesUsable new.header (Gpt.usedFrom 0 new.allSlots) := by
  rw [rebuilt.usedFrom_allSlots stored]
  intro item member
  obtain ⟨⟨index, entry⟩, isUsed, rfl⟩ := List.mem_map.mp member
  have expressible : Extent.Expressible entry gpt.sectorSize geometry.sectorSize.bytes :=
    rebuilt.expressible _ isUsed
  have usable : Gpt.EntriesUsable gpt.header gpt.used := stored.used_eq ▸ stored.entries
  have above : new.usableStart ≤ entry.startByte gpt.sectorSize :=
    Nat.le_trans (rebuilt.usableStart_le_first stored)
      ((Gpt.firstStart?_eq_some_iff.mp rebuilt.isFirst).2 _ isUsed)
  have ordered : entry.startByte gpt.sectorSize < entry.stopByte gpt.sectorSize :=
    Nat.mul_lt_mul_of_pos_right (Nat.lt_succ_of_le (usable _ isUsed).2.1) gpt.sectorSize.bytes_pos
  have below : entry.stopByte gpt.sectorSize ≤ new.usableStop :=
    Nat.le_trans ((Gpt.lastStop?_eq_some_iff.mp rebuilt.isLast).2 _ isUsed)
      (rebuilt.last_le_usableStop stored)
  -- in sectors of the new size these are the bounds that are asked for
  rw [← startByte_recount expressible, Gpt.usableStart, rebuilt.sectorSize] at above
  rw [← startByte_recount expressible, ← stopByte_recount expressible] at ordered
  rw [← stopByte_recount expressible, Gpt.usableStop, rebuilt.sectorSize] at below
  exact ⟨Nat.le_of_mul_le_mul_right above geometry.sectorSize.bytes_pos,
    Nat.le_of_lt_succ (Nat.lt_of_mul_lt_mul_right ordered),
    Nat.le_of_succ_le_succ (Nat.le_of_mul_le_mul_right below geometry.sectorSize.bytes_pos)⟩

end Rebuilt

end TrustBoundary.Migration
