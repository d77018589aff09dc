import Mathlib.Order.Bounds.Defs
import TrustBoundary.Proofs.Migration.Kept
import TrustBoundary.Proofs.Migration.Placement

/-!
# A rebuild gives up no more than it must

When the sectors of a disk are counted anew, the headers and the entry array may take more
bytes than before, and the partitions stay where they are.  So a rebuild may have to leave
out slots and to shrink the usable range.  It does neither further than needed: no more of
the old slots fit around the partitions (`Affordable`), and neither end of the usable range
could be one sector further out (`GivesUpLeast`).

The number of slots is computed from bytes, by a division that rounds down, while an entry
array takes whole sectors.  Nothing is lost by that: partitions begin and end at sectors,
so what is free on either side is a whole number of them (`isGreatest_entryCount`).  The
bytes of the disk behind its last whole sector do not help either (`le_size_of_mod`).
-/

set_option autoImplicit false

namespace TrustBoundary.Migration

open Gpt (Entry Location)

/-- So many of the slots of a table fit around its partitions, which take the bytes from
`first` up to `last` of a disk of `size` bytes. -/
structure Affordable (gpt : Gpt) (sectorSize : SectorSize)
    (size first last count : Nat) : Prop where
  count_le : count ≤ gpt.header.entryCount.toNat
  inFront : sectorSize.wholeBytes (Entry.width * count) + 2 * sectorSize.bytes ≤ first
  behind : sectorSize.wholeBytes (Entry.width * count) + sectorSize.bytes ≤ size - last

/-- A table for another geometry, on a disk of `size` bytes, is the best that there is for
partitions that take the bytes from `first` up to `last`. -/
structure GivesUpLeast (gpt new : Gpt) (geometry : Geometry) (size first last : Nat) : Prop where
  entryCount : IsGreatest {count | Affordable gpt geometry.sectorSize size first last count}
    new.header.entryCount.toNat
  firstUsable : IsLeast
    {lba | gpt.usableStart ≤ lba * geometry.sectorSize.bytes ∧
      geometry.tableStart .primary new.tableRoom + new.tableRoom ≤ lba * geometry.sectorSize.bytes}
    new.header.firstUsableLba.toNat
  lastUsable : IsGreatest
    {lba | lba * geometry.sectorSize.bytes ≤ gpt.usableStop ∧
      lba * geometry.sectorSize.bytes ≤ geometry.tableStart .backup new.tableRoom}
    (new.header.lastUsableLba.toNat + 1)
  usable : Gpt.EntriesUsable new.header new.used

/-- The whole sectors of a disk. -/
def geometryFor (sectorSize : SectorSize) (disk : Disk) : Geometry :=
  ⟨sectorSize, disk.size / sectorSize.bytes⟩

variable {gpt new : Gpt} {location : Location} {geometry : Geometry} {first last : Nat}
  {disk : Disk} {offset sectors : Nat} {sectorSize : SectorSize}

theorem size_geometryFor_le (sectorSize : SectorSize) (disk : Disk) :
    (geometryFor sectorSize disk).size ≤ disk.size := Nat.mul_div_le _ _

/-- What ends at a sector ends in front of the bytes behind the last whole one. -/
theorem le_size_of_mod {position : Nat} (inside : position ≤ disk.size)
    (whole : position % sectorSize.bytes = 0) : position ≤ (geometryFor sectorSize disk).size := by
  rw [← Nat.div_mul_cancel (Nat.dvd_of_mod_eq_zero whole), Nat.mul_comm]
  exact Nat.mul_le_mul_left _ (Nat.div_le_div_right inside)

namespace Rebuilt

/-- The room for an entry array is that of its slots. -/
theorem tableRoom_eq_slots (rebuilt : Rebuilt new gpt location geometry first last)
    (stored : gpt.StoredAt disk offset sectors) : new.tableRoom =
      geometry.sectorSize.wholeBytes (Entry.width * new.header.entryCount.toNat) := by
  rw [Gpt.tableRoom, rebuilt.sectorSize, Gpt.Header.tableBytes, rebuilt.entrySize stored,
    Nat.mul_comm]

/-- The first usable sector is the first one that is usable in the old table and lies behind
the new entry array. -/
theorem isLeast_firstUsable (rebuilt : Rebuilt new gpt location geometry first last) : IsLeast
    {lba | gpt.usableStart ≤ lba * geometry.sectorSize.bytes ∧
      geometry.tableStart .primary new.tableRoom + new.tableRoom ≤ lba * geometry.sectorSize.bytes}
    new.header.firstUsableLba.toNat := by
  have bytes := rebuilt.usableStart_eq
  rw [Gpt.usableStart, rebuilt.sectorSize] at bytes
  constructor
  · have reached := geometry.sectorSize.le_wholeBytes
      (max gpt.usableStart (new.tableRoom + 2 * geometry.sectorSize.bytes))
    rw [← bytes] at reached
    refine ⟨Nat.le_trans (Nat.le_max_left _ _) reached, ?_⟩
    rw [Geometry.tableStart, Nat.add_comm]
    exact Nat.le_trans (Nat.le_max_right _ _) reached
  · rintro lba ⟨afterOld, afterTable⟩
    rw [Geometry.tableStart, Nat.add_comm] at afterTable
    refine Nat.le_of_mul_le_mul_right ?_ geometry.sectorSize.bytes_pos
    rw [bytes]
    exact SectorSize.wholeBytes_le (Nat.max_le.mpr ⟨afterOld, afterTable⟩) (Nat.mul_mod_left _ _)

/-- The usable sectors end with the last one that is usable in the old table and lies in front
of the new entry array at the end. -/
theorem isGreatest_lastUsable (rebuilt : Rebuilt new gpt location geometry first last) : IsGreatest
    {lba | lba * geometry.sectorSize.bytes ≤ gpt.usableStop ∧
      lba * geometry.sectorSize.bytes ≤ geometry.tableStart .backup new.tableRoom}
    (new.header.lastUsableLba.toNat + 1) := by
  have positive := geometry.sectorSize.bytes_pos
  rw [rebuilt.announces.lastUsable]
  constructor
  · exact Nat.le_min.mp ((Nat.le_div_iff_mul_le positive).mp (Nat.le_refl _))
  · rintro lba ⟨beforeOld, beforeTable⟩
    exact (Nat.le_div_iff_mul_le positive).mpr (Nat.le_min.mpr ⟨beforeOld, beforeTable⟩)

end Rebuilt

/-- **No more slots could be kept.** -/
theorem isGreatest_entryCount (stored : gpt.StoredAt disk offset sectors)
    (rebuilt : (rebuild gpt location (geometryFor sectorSize disk)).outcome = .ok new)
    (isFirst : gpt.firstStart? = some first) (isLast : gpt.lastStop? = some last) :
    IsGreatest {count | Affordable gpt sectorSize disk.size first last count}
      new.header.entryCount.toNat := by
  obtain ⟨bounds, header, made⟩ := exists_made rebuilt
  obtain ⟨firstBound, lastBound, _⟩ := measureBounds_eq_ok made.measured
  obtain rfl := Option.some_inj.mp (isFirst.symm.trans firstBound)
  obtain rfl := Option.some_inj.mp (isLast.symm.trans lastBound)
  have known := rebuild_eq_ok_around stored isFirst isLast rebuilt
  have room := known.tableRoom_eq_slots stored
  constructor
  · have inFront := known.inFront
    have behind := known.behind
    have inside := size_geometryFor_le sectorSize disk
    rw [room] at inFront behind
    exact ⟨known.count_le, inFront, Nat.le_sub_of_add_le' (Nat.le_trans behind inside)⟩
  · rintro count ⟨counted, inFront, behind⟩
    -- what is free behind the partitions is free in whole sectors
    have ends :
        bounds.last.stop + (sectorSize.wholeBytes (Entry.width * count) + sectorSize.bytes) ≤
        (geometryFor sectorSize disk).size := by
      have positive := sectorSize.bytes_pos
      have wholeStop : bounds.last.stop % sectorSize.bytes = 0 := known.last_mod
      have wholeTable := sectorSize.wholeBytes_mod (Entry.width * count)
      refine le_size_of_mod (by omega) ?_
      rw [Nat.add_mod, wholeStop, Nat.add_mod_right, wholeTable, Nat.zero_mod]
    rw [made.newEntryCount_eq]
    exact le_newEntryCount counted (Nat.le_sub_of_add_le' ends) inFront

/-- **A rebuild gives up no more than it must.**  It keeps as many of the slots as fit, and as
much of the usable range as lies at sectors and outside the two entry arrays.  Every partition
lies in what is left of that range. -/
theorem rebuild_gives_up_least {formerSize : SectorSize}
    (found : (Gpt.read disk offset formerSize sectors).outcome = .ok gpt)
    (rebuilt : (rebuild gpt location (geometryFor sectorSize disk)).outcome = .ok new) :
    ∃ first last, gpt.firstStart? = some first ∧ gpt.lastStop? = some last ∧
      GivesUpLeast gpt new (geometryFor sectorSize disk) disk.size first last := by
  obtain ⟨_, stored⟩ := Gpt.read_eq_ok_iff.mp found
  obtain ⟨first, last, known⟩ := rebuild_eq_ok stored rebuilt
  refine ⟨first, last, known.isFirst, known.isLast, ?_⟩
  exact {
    entryCount := isGreatest_entryCount stored rebuilt known.isFirst known.isLast
    firstUsable := known.isLeast_firstUsable
    lastUsable := known.isGreatest_lastUsable
    usable := by
      rw [known.used_eq stored]
      exact known.usedFrom_allSlots stored ▸ known.entriesUsable stored }

/-- A crowded disk leaves no room for all slots or for the whole usable range, and nothing else
is given up. -/
theorem crowdedGpt_gives_up_least : ∃ new first last,
    (Gpt.read crowdedDisk 1 .small 56).outcome = .ok crowdedGpt ∧
      (rebuild crowdedGpt .backup (geometryFor .large crowdedDisk)).outcome = .ok new ∧
      (crowdedGpt.header.entryCount = 40 ∧ new.header.entryCount = 32) ∧
      (crowdedGpt.usableStart = 6144 ∧ new.usableStart = 12288) ∧
      (crowdedGpt.usableStop = 23040 ∧ new.usableStop = 20480) ∧
      GivesUpLeast crowdedGpt new (geometryFor .large crowdedDisk) crowdedDisk.size first last := by
  have found := Gpt.read_eq_ok_iff.mpr ⟨crowdedGpt_sectorSize, crowdedGpt_storedAt⟩
  have same : (⟨.large, 7⟩ : Geometry) = geometryFor .large crowdedDisk := by
    rw [geometryFor, crowdedDisk_size]
    rfl
  obtain ⟨new, rebuilt, count, start, stop⟩ := rebuild_crowdedGpt .backup
  rw [same] at rebuilt
  obtain ⟨first, last, _, _, least⟩ := rebuild_gives_up_least found rebuilt
  exact ⟨new, first, last, found, rebuilt, ⟨crowdedGpt_slots.1, count⟩,
    ⟨crowdedGpt_usable.1, start⟩, ⟨crowdedGpt_usable.2, stop⟩, least⟩

end TrustBoundary.Migration
