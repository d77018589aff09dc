import TrustBoundary.Proofs.Gpt.Damage
import TrustBoundary.Proofs.Migration.Completion

/-!
# Inspecting a disk with one wrong byte

A primary copy with a wrong byte that its checksums guard is rejected, and the search goes on.
The boot record does not hold such a byte, and if the backup copy does not either, both are
found as before.  So an inspection comes to the backup copy and reports it, without any need
for a migration (`damage_is_survived`).

The repaired `Migration.sampleDisk` is such a disk, and `withOtherGuid` is a damage to it.
-/

set_option autoImplicit false

namespace TrustBoundary.Inspection

/-- **One wrong byte in the primary copy is detected and survived.**  A disk has a boot record
that passes its checks and both copies of a table.  If one byte is replaced that a checksum of
the primary copy guards, and that does not belong to the backup copy, then the primary copy is
rejected, and an inspection finds the backup copy as it was. -/
theorem damage_is_survived {disk damaged : Disk} {skipParameterBlock : Bool}
    {sectors position : Nat} {mbr : ProtectiveMbr} {primary backup : Gpt}
    (sized : disk.checkedSectors = .ok sectors)
    (checked : (checkMbr disk sectors skipParameterBlock).outcome = .ok mbr)
    (primaryRead : (Gpt.read disk 1 disk.sectorSize sectors).outcome = .ok primary)
    (backupRead : (Gpt.read disk (sectors - 1) disk.sectorSize sectors).outcome = .ok backup)
    (differ : disk.DifferAt damaged position) (guarded : primary.Guarded 1 position)
    (outsideHeader : position < (sectors - 1) * disk.sectorSize.bytes ∨
      (sectors - 1) * disk.sectorSize.bytes + disk.sectorSize.bytes ≤ position)
    (outsideTable : position < backup.tableStart ∨
      backup.tableStart + backup.tableRoom ≤ position) :
    (∃ defect, (Gpt.read damaged 1 disk.sectorSize sectors).outcome =
      .error (.refused (.rejected defect))) ∧
    (ofDisk damaged skipParameterBlock).outcome = .ok
      { mbr, sectors, gpt := backup, location := .backup, needsMigration := false } := by
  obtain ⟨size_lt, whole, minimum, rfl⟩ := Disk.checkedSectors_eq_ok_iff.mp sized
  obtain ⟨primarySize, primaryStored⟩ := Gpt.read_eq_ok_iff.mp primaryRead
  obtain ⟨backupSize, backupStored⟩ := Gpt.read_eq_ok_iff.mp backupRead
  have size_eq : disk.size = disk.sectors * disk.sectorSize.bytes :=
    (Nat.div_mul_cancel (Nat.dvd_of_mod_eq_zero whole)).symm
  have small : disk.size < Word.limit := Nat.lt_trans size_lt (by decide)
  have sameSectors : damaged.sectors = disk.sectors := by
    rw [Disk.sectors, differ.size, differ.sectorSize, Disk.sectors]
  -- the primary copy is rejected
  obtain ⟨defect, rejected⟩ := primaryStored.read_rejects_damage
    (by rw [primarySize]; exact Nat.le_of_eq size_eq.symm) small differ guarded
  rw [primarySize] at rejected
  refine ⟨⟨defect, rejected⟩, ?_⟩
  -- the boot record and the backup copy are as they were
  have behind := primaryStored.bytes_le_of_guarded guarded
  rw [primarySize] at behind
  have sameBoot : damaged.bytesAt 0 disk.sectorSize.bytes = disk.bytesAt 0 disk.sectorSize.bytes :=
    differ.bytesAt_eq (.inr (by omega))
  have checkedAgain := checkMbr_of_same_bytes checked differ.size differ.sectorSize sameBoot
  have backupAgain : backup.StoredAt damaged (disk.sectors - 1) disk.sectors := by
    refine backupStored.of_same_bytes differ.size (differ.bytesAt_eq ?_)
      (differ.bytesAt_eq outsideTable)
    rw [backupSize]
    exact outsideHeader
  have found :
      (findCopy damaged disk.sectorSize disk.sectors).outcome = .ok (some (backup, .backup)) :=
    findCopy_of_backup (tryCopy_of_rejected rfl rejected) backupSize
      (Nat.le_trans (by decide) minimum) backupAgain
  rw [← sameSectors] at checkedAgain found ⊢
  rw [← differ.sectorSize] at found
  refine ofDisk_of_own ?_ ?_ ?_ checkedAgain found
  · rw [differ.size]
    exact size_lt
  · rw [sameSectors]
    exact minimum
  · rw [sameSectors, differ.size, differ.sectorSize]
    exact size_eq

/-- A disk with another byte at the offset 56 of the primary header, in the identifier of the disk,
if its sectors are small. -/
def withOtherGuid (disk : Disk) : Disk := disk.store ⟨568, [disk.byteAt 568 + 1]⟩

/-- The repair of `Migration.sampleDisk` leaves a boot record and both copies. -/
theorem exists_mirrored : ∃ final mbr primary backup,
    (repairDisk false).Succeeds (Device.ofDisk Migration.sampleDisk) () final ∧
    final.disk.sectorSize = .small ∧ final.disk.checkedSectors = .ok 48 ∧
    (checkMbr final.disk 48 false).outcome = .ok mbr ∧
    (Gpt.read final.disk 1 .small 48).outcome = .ok primary ∧
    (Gpt.read final.disk 47 .small 48).outcome = .ok backup := by
  obtain ⟨found, _, _, inspected, needed, _, nonActiveMade, activeMade⟩ :=
    Migration.sampleDisk_migrates
  obtain ⟨final, repaired⟩ := exists_repair inspected needed nonActiveMade activeMade
  obtain ⟨_, _, _, _, migratable, installed⟩ := installed_of_repair inspected needed repaired
  obtain ⟨primary, backup, completed⟩ := Migration.completed_of_installed migratable installed
  have size := completed.size.trans Migration.sampleDisk_size
  have small := completed.sectorSize.trans Migration.sampleDisk_sectorSize
  have checked := checkMbr_stable (ofDisk_eq_ok inspected).mbr completed.size completed.sectorSize
    completed.bootRecord
  have primaryStored := completed.primaryStored
  have backupStored := completed.backupStored
  rw [Migration.sampleDisk_sectors] at checked primaryStored backupStored
  refine ⟨final, found.mbr, primary, backup, repaired, small, ?_, checked, ?_, ?_⟩
  · rw [Disk.checkedSectors_eq_ok_iff, Disk.sectors, size, small]
    decide
  · exact Gpt.read_eq_ok_iff.mpr
      ⟨completed.primarySize.trans Migration.sampleDisk_sectorSize, primaryStored⟩
  · exact Gpt.read_eq_ok_iff.mpr
      ⟨completed.backupSize.trans Migration.sampleDisk_sectorSize, backupStored⟩

/-- Another byte in the primary header of that disk is detected and survived. -/
theorem otherGuid_is_survived : ∃ final mbr primary backup,
    (repairDisk false).Succeeds (Device.ofDisk Migration.sampleDisk) () final ∧
    final.disk.checkedSectors = .ok 48 ∧
    (checkMbr final.disk 48 false).outcome = .ok mbr ∧
    (Gpt.read final.disk 1 final.disk.sectorSize 48).outcome = .ok primary ∧
    (Gpt.read final.disk 47 final.disk.sectorSize 48).outcome = .ok backup ∧
    final.disk.DifferAt (withOtherGuid final.disk) 568 ∧ primary.Guarded 1 568 ∧
    (∃ defect, (Gpt.read (withOtherGuid final.disk) 1 final.disk.sectorSize 48).outcome =
      .error (.refused (.rejected defect))) ∧
    (ofDisk (withOtherGuid final.disk) false).outcome = .ok
      { mbr, sectors := 48, gpt := backup, location := .backup, needsMigration := false } := by
  obtain ⟨final, mbr, primary, backup, repaired, small, sized, checked, primaryRead, backupRead⟩ :=
    exists_mirrored
  obtain ⟨primarySize, primaryStored⟩ := Gpt.read_eq_ok_iff.mp primaryRead
  obtain ⟨backupSize, backupStored⟩ := Gpt.read_eq_ok_iff.mp backupRead
  have differ : final.disk.DifferAt (withOtherGuid final.disk) 568 := .store (by simp)
  have guarded : primary.Guarded 1 568 := by
    have covered : 56 < primary.header.headerSize.toNat :=
      Nat.lt_of_lt_of_le (by decide) primaryStored.accepted.width_le
    have guarded : primary.Guarded 1 (1 * primary.sectorSize.bytes + 56) :=
      .header covered (.inr (by decide))
    rwa [primarySize] at guarded
  -- the table of the backup copy lies behind the usable sectors
  have outsideTable : 568 < backup.tableStart := by
    have placed := backupStored.accepted.placed
    rw [Gpt.Header.Placed, if_neg (by decide)] at placed
    have above := placed.tableLba_gt
    have usable := backupStored.accepted.firstUsable_le
    have least := backupStored.accepted.firstUsable_ge
    rw [Gpt.tableStart, backupSize, show SectorSize.small.bytes = 512 from rfl]
    omega
  rw [← small] at primaryRead backupRead
  have outsideHeader : 568 < (48 - 1) * final.disk.sectorSize.bytes := by
    rw [small]
    decide
  exact ⟨final, mbr, primary, backup, repaired, sized, checked, primaryRead, backupRead, differ,
    guarded,
    damage_is_survived sized checked primaryRead backupRead differ guarded (.inl outsideHeader)
      (.inl outsideTable)⟩

end TrustBoundary.Inspection
