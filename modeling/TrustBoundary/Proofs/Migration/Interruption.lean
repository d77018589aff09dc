import TrustBoundary.Proofs.Migration.Installation
import TrustBoundary.Proofs.Migration.Steps

/-!
# Migrations that are interrupted

The copy that a table was read from is written last.  Until the other copy is
complete, every write stays on the other copy's side of the partitions, so the
old table stays where it was found.  From then on every write stays on the side
of the copy that was read, so the new table stays where it was written.  Hence
there is a valid table on the disk at every moment, and it can be said where
(`table_survives_interruption`).

`sampleDisk` is a disk that these statements apply to.
-/

set_option autoImplicit false

namespace TrustBoundary.Migration

open Gpt (Location)

variable {found : Inspection} {disk : Disk} {lba oldSectors first last : Nat}

theorem other_ne (location : Location) : location.other ≠ location := by
  intro same
  cases location <;> cases same

/-- The old table stays while writes keep to the other copy's side. -/
theorem old_survives (migratable : found.Migratable disk lba oldSectors)
    (isFirst : found.gpt.firstStart? = some first) (isLast : found.gpt.lastStop? = some last)
    {landed : List Write}
    (others : ∀ write ∈ landed,
      found.location.other.Owns first last write.offset write.data.length) :
    found.gpt.StoredAt (disk.storeAll landed) lba oldSectors := by
  obtain ⟨above, ordered, below⟩ := migratable.stored.partitions_usable isFirst isLast
  have header :=
    (migratable.stored.owns_header migratable.here migratable.oldSize_eq).mono above below
  have table := (migratable.stored.owns_table migratable.here).mono above below
  refine migratable.stored.of_same_bytes (Disk.size_storeAll _ _) ?_ ?_
  · apply Disk.bytesAt_storeAll_of_apart
    intro write member
    exact (others write member).apart (other_ne _) header (Nat.le_of_lt ordered)
  · apply Disk.bytesAt_storeAll_of_apart
    intro write member
    exact (others write member).apart (other_ne _) table (Nat.le_of_lt ordered)

/-- What a migration asks of a device on which no write fails. -/
theorem run_of_rebuilt (migratable : found.Migratable disk lba oldSectors) {nonActive active : Gpt}
    (nonActiveRebuilt : (rebuild found.gpt found.location.other (geometryOf disk)).outcome =
      .ok nonActive)
    (activeRebuilt : (rebuild found.gpt found.location (geometryOf disk)).outcome = .ok active)
    {device : Device} (untouched : device.disk = disk) (unlimited : device.faults.writesLeft = none)
    (untorn : device.fates = []) :
    ∃ final, (ofInspection found).run.Succeeds device () final ∧
      Work.Wrote device
        (installation disk found.location.other found.mbr nonActive ++
          installation disk found.location found.mbr active) final := by
  subst untouched
  obtain ⟨_, _, rebuilt⟩ := rebuild_eq_ok migratable.stored nonActiveRebuilt
  obtain ⟨_, _, rebuiltActive⟩ := rebuild_eq_ok migratable.stored activeRebuilt
  obtain ⟨middle, written, unlimited⟩ := Work.succeeds_writeAll device unlimited untorn
    fun write member => (migratable.owns_installation rebuilt write member).2
  have wrote := written.wrote untorn
  have size : middle.disk.size = device.disk.size := by rw [wrote.disk, Disk.size_storeAll]
  have sectorSize : middle.disk.sectorSize = device.disk.sectorSize := by
    rw [wrote.disk, Disk.sectorSize_storeAll]
  have untornMiddle := wrote.fates.trans untorn
  have inside : ∀ write ∈ installation device.disk found.location found.mbr active,
      write.offset + write.data.length ≤ middle.disk.size := by
    intro write member
    rw [size]
    exact (migratable.owns_installation rebuiltActive write member).2
  obtain ⟨final, writtenActive, _⟩ := Work.succeeds_writeAll middle unlimited untornMiddle inside
  refine ⟨final, succeeds_run.mpr ⟨nonActive, active, _, _, middle, nonActiveRebuilt, activeRebuilt,
    migratable.copyWrites_eq rebuilt, written, ?_, writtenActive⟩,
    wrote.trans (writtenActive.wrote untornMiddle)⟩
  rw [copyWrites_congr size sectorSize]
  exact migratable.copyWrites_eq rebuiltActive

/-- **A migration may be interrupted at any moment.**  Its writes are those of the
copy that the table was not read from, followed by those of the other copy.  Let
any number of them be carried out and the next one be torn.  Then the old table
is still read from where it was found, or, once the first copy is complete, that
copy is read from its own place. -/
theorem table_survives_interruption {skipParameterBlock : Bool} {nonActive active : Gpt}
    (inspected : (Inspection.ofDisk disk skipParameterBlock).outcome = .ok found)
    (needed : found.needsMigration)
    (nonActiveRebuilt : (rebuild found.gpt found.location.other (geometryOf disk)).outcome =
      .ok nonActive)
    (activeRebuilt : (rebuild found.gpt found.location (geometryOf disk)).outcome = .ok active) :
    ∃ first second final oldLba newLba,
      (copyWrites disk nonActive disk.sectorSize.other found.mbr).outcome = .ok first ∧
      (copyWrites disk active disk.sectorSize.other found.mbr).outcome = .ok second ∧
      (ofInspection found).run.Succeeds (Device.ofDisk disk) () final ∧
      final.requests.reverse = (first ++ second).map (fun write => .write write true) ∧
      found.location.lba (disk.size / disk.sectorSize.other.bytes) = some oldLba ∧
      found.location.other.lba disk.sectors = some newLba ∧
      ∀ (count : Nat) (garbage : Bytes),
        (count < first.length →
          (Gpt.read (disk.interrupted (first ++ second) count garbage) oldLba
            disk.sectorSize.other (disk.size / disk.sectorSize.other.bytes)).outcome =
              .ok found.gpt) ∧
        (first.length ≤ count →
          (Gpt.read (disk.interrupted (first ++ second) count garbage) newLba
            disk.sectorSize disk.sectors).outcome = .ok nonActive) := by
  obtain ⟨oldLba, migratable⟩ := (Inspection.ofDisk_eq_ok inspected).migratable needed
  obtain ⟨first, last, rebuilt⟩ := rebuild_eq_ok migratable.stored nonActiveRebuilt
  have rebuiltActive :=
    rebuild_eq_ok_around migratable.stored rebuilt.isFirst rebuilt.isLast activeRebuilt
  obtain ⟨final, succeeded, wrote⟩ := run_of_rebuilt migratable nonActiveRebuilt activeRebuilt
    (rfl : (Device.ofDisk disk).disk = disk) rfl rfl
  have writes := migratable.copyWrites_eq rebuilt
  have writesActive := migratable.copyWrites_eq rebuiltActive
  rw [migratable.differs] at writes writesActive
  refine ⟨_, _, final, oldLba, _, writes, writesActive, succeeded, ?_, migratable.here,
    rebuilt.announces.myLba, ?_⟩
  · rw [wrote.requests, List.reverse_append, List.reverse_reverse]
    rfl
  intro count garbage
  constructor
  · intro early
    obtain ⟨landed, same, parts⟩ := Disk.interrupted_eq disk
      (installation disk found.location.other found.mbr nonActive) count garbage
    rw [Disk.interrupted_append_of_lt early, same]
    refine Gpt.read_eq_ok_iff.mpr ⟨migratable.differs, ?_⟩
    apply old_survives migratable rebuilt.isFirst rebuilt.isLast
    intro part member
    obtain ⟨whole, issued, within⟩ := parts part member
    exact (migratable.owns_installation rebuilt whole issued).1.within within
  · intro late
    obtain ⟨landed, same, parts⟩ := Disk.interrupted_eq
      (disk.storeAll (installation disk found.location.other found.mbr nonActive))
      (installation disk found.location found.mbr active) _ garbage
    rw [Disk.interrupted_append_of_le late, same, ← Disk.storeAll_append]
    refine Gpt.read_eq_ok_iff.mpr ⟨rebuilt.sectorSize, ?_⟩
    apply migratable.storedAt_installation rebuilt rfl (other_ne _).symm
    intro part member
    obtain ⟨whole, issued, within⟩ := parts part member
    exact (migratable.owns_installation rebuiltActive whole issued).1.within within

/-! ## A disk to migrate -/

/-- A partition of one large sector. -/
def samplePartition : Gpt.Entry where
  typeGuid := Vector.replicate 16 0x11
  uniqueGuid := Vector.replicate 16 0xEE
  startingLba := 3
  endingLba := 3
  attributes := 0
  name := Vector.replicate 72 0

/-- A table with that partition for a disk of six large sectors, without its checksums. -/
def sampleTable : Gpt where
  header :=
    { signature := Gpt.Header.magic
      revision := Gpt.Header.supportedRevision
      headerSize := 92
      headerCrc := 0
      reserved := 0
      myLba := 1
      alternateLba := 5
      firstUsableLba := 3
      lastUsableLba := 3
      diskGuid := Vector.replicate 16 0x5A
      tableLba := 2
      entryCount := 1
      entrySize := 128
      tableCrc := 0 }
  table := samplePartition.encode ++ Bytes.zeroes (4096 - 128)
  sectorSize := .large
  usedEntries := 1

/-- The same table with its checksums. -/
def sampleGpt : Gpt := sampleTable.seal?.getD sampleTable

/-- A disk of small sectors with a fresh boot record and that table. -/
def sampleDisk : Disk :=
  (Disk.blank .small 24576).storeAll
    [⟨0, ((ProtectiveMbr.fresh .small 48).getD ⟨[]⟩).sector⟩, ⟨4096, sampleGpt.headerSector⟩,
      ⟨8192, sampleTable.table⟩]

theorem seal?_sampleTable : sampleTable.seal? = some sampleGpt := by
  obtain ⟨sealed, made⟩ := sampleTable.exists_seal? (by decide) (by decide)
  rw [sampleGpt, made]
  rfl

theorem sampleGpt_sectorSize : sampleGpt.sectorSize = .large := by
  obtain ⟨_, parts, _⟩ := Gpt.seal?_eq_some seal?_sampleTable
  rw [parts]
  rfl

theorem sampleTable_inOrder : sampleTable.InOrder 1 6 := by
  have used : Gpt.usedFrom 0 sampleTable.allSlots = [(0, samplePartition)] := by decide +kernel
  refine ⟨.inl rfl, ?_, ?_, (0, samplePartition), by rw [used]; rfl, rfl⟩
  · exact ⟨by decide, by decide, rfl, rfl, by decide, by decide, by decide, by decide, by decide,
      (⟨rfl, by decide, by decide⟩ : Gpt.Header.PlacedAsPrimary _ _),
      by decide, by decide, by decide⟩
  · rw [used]
    intro item member
    rw [List.mem_singleton.mp member]
    decide

theorem sampleDisk_size : sampleDisk.size = 24576 := Disk.size_storeAll _ _

theorem sampleDisk_sectorSize : sampleDisk.sectorSize = .small := Disk.sectorSize_storeAll _ _

theorem sampleDisk_sectors : sampleDisk.sectors = 48 := Disk.sectors_storeAll _ _

/-- What was written to that disk is read back, and other sectors are blank. -/
theorem sampleDisk_bytesAt : ∃ mbr, ProtectiveMbr.fresh .small 48 = some mbr ∧
    sampleDisk.bytesAt 0 512 = mbr.sector ∧
    sampleDisk.bytesAt 4096 4096 = sampleGpt.headerSector ∧
    sampleDisk.bytesAt 8192 4096 = sampleTable.table ∧
    sampleDisk.bytesAt 512 512 = (Disk.blank .small 24576).bytesAt 512 512 ∧
    sampleDisk.bytesAt 24064 512 = (Disk.blank .small 24576).bytesAt 24064 512 := by
  obtain ⟨mbr, fresh⟩ : ∃ mbr, ProtectiveMbr.fresh .small 48 = some mbr := ⟨_, rfl⟩
  have bootLength : mbr.sector.length = 512 := (ProtectiveMbr.fills_fresh fresh).length
  have headerLength : sampleGpt.headerSector.length = 4096 := by
    rw [Gpt.length_headerSector, sampleGpt_sectorSize]
    rfl
  have tableLength : sampleTable.table.length = 4096 := by
    change (samplePartition.encode ++ Bytes.zeroes (4096 - 128)).length = 4096
    rw [List.length_append, Bytes.length_zeroes, Gpt.Entry.length_encode]
    rfl
  have disk : sampleDisk = (Disk.blank .small 24576).storeAll
      [⟨0, mbr.sector⟩, ⟨4096, sampleGpt.headerSector⟩, ⟨8192, sampleTable.table⟩] := by
    rw [sampleDisk, fresh]
    rfl
  have pairwise :
      [⟨0, mbr.sector⟩, ⟨4096, sampleGpt.headerSector⟩, ⟨8192, sampleTable.table⟩].Pairwise
      fun earlier later : Write => later.Apart earlier.offset earlier.data.length := by
    simp [Write.Apart, bootLength, headerLength]
  have apart : ∀ offset, offset = 512 ∨ offset = 24064 →
      ∀ write ∈ [⟨0, mbr.sector⟩, ⟨4096, sampleGpt.headerSector⟩, ⟨8192, sampleTable.table⟩],
        Write.Apart write offset 512 := by
    simp [Write.Apart, bootLength, headerLength, tableLength]
  have written := Disk.bytesAt_storeAll_of_pairwise (Disk.blank .small 24576) pairwise
  simp only [← disk, List.forall_mem_cons, bootLength, headerLength, tableLength] at written
  obtain ⟨boot, header, table, _⟩ := written
  refine ⟨mbr, fresh, boot, header, table, ?_, ?_⟩ <;> rw [disk]
  · exact Disk.bytesAt_storeAll_of_apart (apart 512 (.inl rfl))
  · exact Disk.bytesAt_storeAll_of_apart (apart 24064 (.inr rfl))

/-- No table is found at the disk's own sector size. -/
theorem findCopy_sampleDisk : (Inspection.findCopy sampleDisk .small 48).outcome = .ok none := by
  obtain ⟨_, _, _, _, _, second, last⟩ := sampleDisk_bytesAt
  have unsigned : ∀ offset, offset = 512 ∨ offset = 24064 →
      (Gpt.Header.decode ((Disk.blank .small 24576).bytesAt offset 512)).signature ≠
        Gpt.Header.magic := by
    rintro _ (rfl | rfl) <;> decide +kernel
  have whole : 48 * SectorSize.small.bytes ≤ sampleDisk.size ∧ sampleDisk.size < Word.limit := by
    rw [sampleDisk_size]
    decide
  apply Inspection.findCopy_of_neither
  · apply Inspection.tryCopy_of_unsigned (rfl : Location.primary.lba 48 = some 1) (by decide)
      whole.1 whole.2
    rw [show sampleDisk.bytesAt (1 * SectorSize.small.bytes) SectorSize.small.bytes = _ from second]
    exact unsigned 512 (.inl rfl)
  · apply Inspection.tryCopy_of_unsigned (rfl : Location.backup.lba 48 = some 47) (by decide)
      whole.1 whole.2
    rw [show sampleDisk.bytesAt (47 * SectorSize.small.bytes) SectorSize.small.bytes = _ from last]
    exact unsigned 24064 (.inr rfl)

theorem sampleGpt_storedAt : sampleGpt.StoredAt sampleDisk 1 6 := by
  obtain ⟨_, _, _, header, table, _⟩ := sampleDisk_bytesAt
  refine Gpt.storedAt_of_seal? seal?_sampleTable sampleTable_inOrder ?_ ?_ ?_ header table
  all_goals
    rw [sampleDisk_size]
    decide

/-- Both copies of that table can be rebuilt. -/
theorem rebuild_sampleGpt (location : Location) :
    ∃ new, (rebuild sampleGpt location (geometryOf sampleDisk)).outcome = .ok new := by
  have succeeds : (rebuild sampleGpt location (geometryOf sampleDisk)).outcome.isOk = true := by
    cases location <;> decide +kernel
  cases outcome : (rebuild sampleGpt location (geometryOf sampleDisk)).outcome with
  | ok new => exact ⟨new, rfl⟩
  | error halt =>
      rw [outcome] at succeeds
      exact nomatch succeeds

/-- That table is found on that disk and has to be migrated, and both copies can be rebuilt. -/
theorem sampleDisk_migrates : ∃ found nonActive active,
    (Inspection.ofDisk sampleDisk false).outcome = .ok found ∧ found.needsMigration ∧
      found.gpt = sampleGpt ∧
      (rebuild found.gpt found.location.other (geometryOf sampleDisk)).outcome = .ok nonActive ∧
      (rebuild found.gpt found.location (geometryOf sampleDisk)).outcome = .ok active := by
  obtain ⟨mbr, fresh, boot, _⟩ := sampleDisk_bytesAt
  have other :
      (Inspection.findCopy sampleDisk .large 6).outcome = .ok (some (sampleGpt, .primary)) :=
    Inspection.findCopy_of_primary sampleGpt_sectorSize sampleGpt_storedAt
  have checked : (Inspection.checkMbr sampleDisk sampleDisk.sectors false).outcome = .ok mbr := by
    refine Inspection.checkMbr_of_fresh false fresh ?_ boot
    rw [sampleDisk_size]
    decide
  have counted : (Inspection.otherSectors sampleDisk).outcome = .ok 6 := by
    refine Inspection.otherSectors_eq_ok_iff.mpr ⟨?_, by decide, ?_⟩ <;>
      rw [sampleDisk_size] <;> rfl
  have inspected : (Inspection.ofDisk sampleDisk false).outcome = .ok
      ⟨mbr, sampleDisk.sectors, sampleGpt, .primary, true⟩ := by
    refine Inspection.ofDisk_of_other ?_ ?_ ?_ checked findCopy_sampleDisk counted other
    · rw [sampleDisk_size]
      decide
    · rw [sampleDisk_sectors]
      decide
    · rw [sampleDisk_size, sampleDisk_sectors]
      rfl
  obtain ⟨nonActive, nonActiveRebuilt⟩ := rebuild_sampleGpt Location.primary.other
  obtain ⟨active, activeRebuilt⟩ := rebuild_sampleGpt .primary
  refine ⟨_, nonActive, active, inspected, rfl, ?_, ?_, ?_⟩
  · dsimp only
  · simpa only using nonActiveRebuilt
  · simpa only using activeRebuilt

theorem sampleDisk_survives_interruption :
    ∃ found nonActive active first second oldLba newLba,
      (Inspection.ofDisk sampleDisk false).outcome = .ok found ∧ found.needsMigration ∧
      (rebuild found.gpt found.location.other (geometryOf sampleDisk)).outcome = .ok nonActive ∧
      (rebuild found.gpt found.location (geometryOf sampleDisk)).outcome = .ok active ∧
      (copyWrites sampleDisk nonActive sampleDisk.sectorSize.other found.mbr).outcome = .ok first ∧
      (copyWrites sampleDisk active sampleDisk.sectorSize.other found.mbr).outcome = .ok second ∧
      ∀ (count : Nat) (garbage : Bytes),
        (count < first.length →
          (Gpt.read (sampleDisk.interrupted (first ++ second) count garbage) oldLba
            sampleDisk.sectorSize.other
            (sampleDisk.size / sampleDisk.sectorSize.other.bytes)).outcome = .ok found.gpt) ∧
        (first.length ≤ count →
          (Gpt.read (sampleDisk.interrupted (first ++ second) count garbage) newLba
            sampleDisk.sectorSize sampleDisk.sectors).outcome = .ok nonActive) := by
  obtain ⟨found, nonActive, active, inspected, needed, _, nonActiveRebuilt, activeRebuilt⟩ :=
    sampleDisk_migrates
  obtain ⟨first, second, _, oldLba, newLba, writes, writesActive, _, _, _, _, survives⟩ :=
    table_survives_interruption inspected needed nonActiveRebuilt activeRebuilt
  exact ⟨found, nonActive, active, first, second, oldLba, newLba, inspected, needed,
    nonActiveRebuilt, activeRebuilt, writes, writesActive, survives⟩

end TrustBoundary.Migration
