import TrustBoundary.Proofs.Migration.Partitions

/-!
# Migrations that are completed

A repair that succeeds has written both copies as they were rebuilt, and the
boot record with the size that was corrected.  Looking again, an inspection finds
the primary copy at the disk's own sector size and the same boot record, so a
check succeeds and a further repair does nothing
(`completed_migration_is_stable`).
-/

set_option autoImplicit false

namespace TrustBoundary

open Work Migration
open Gpt (Location)

namespace Migration

variable {found : Inspection} {disk : Disk} {lba oldSectors first last : Nat} {new : Gpt}

/-- The first write of a primary copy is the boot record, and the others lie behind its sector. -/
theorem installation_primary (migratable : found.Migratable disk lba oldSectors) (new : Gpt) :
    ∃ rest, installation disk .primary found.mbr new = ⟨0, found.mbr.sector⟩ :: rest ∧
      ∀ write ∈ rest, disk.sectorSize.bytes ≤ write.offset := by
  have filled := migratable.mbr.length
  have copy : ∀ write ∈ [tableWrite disk .primary new, headerWrite disk .primary new],
      disk.sectorSize.bytes ≤ write.offset := by
    intro write member
    simp only [List.mem_cons, List.not_mem_nil, or_false] at member
    obtain rfl | rfl := member
    · change disk.sectorSize.bytes ≤ 2 * disk.sectorSize.bytes
      omega
    · exact Nat.le_refl _
  obtain ⟨small, _⟩ | ⟨large, _⟩ := migratable.bytes_cases
  · refine ⟨⟨SectorSize.small.bytes, Bytes.zeroes SectorSize.small.bytes⟩ ::
      ⟨staleHeaderBytes, Bytes.zeroes staleHeaderBytes⟩ ::
      [tableWrite disk .primary new, headerWrite disk .primary new], ?_, ?_⟩
    · rw [small] at filled
      simp only [installation, blanking, small, List.take_of_length_le (Nat.le_of_eq filled),
        List.cons_append, List.nil_append]
    · rw [small] at copy ⊢
      exact List.forall_mem_cons.mpr ⟨Nat.le_refl _, List.forall_mem_cons.mpr ⟨by decide, copy⟩⟩
  · refine ⟨[tableWrite disk .primary new, headerWrite disk .primary new], ?_, copy⟩
    simp only [installation, blanking, large, List.cons_append, List.nil_append]

/-- **The boot record is in its sector** after the writes of a primary copy and others
on the other side. -/
theorem bootRecord_installation (base : Disk) (migratable : found.Migratable disk lba oldSectors)
    (rebuilt : Rebuilt new found.gpt .primary (geometryOf disk) first last) {later : List Write}
    (others : ∀ write ∈ later, Location.backup.Owns first last write.offset write.data.length) :
    (base.storeAll (installation disk .primary found.mbr new ++ later)).bytesAt 0
      disk.sectorSize.bytes = found.mbr.sector := by
  have filled := migratable.mbr.length
  have ordered := rebuilt.first_lt_last migratable.stored
  have inFront := rebuilt.inFront
  have geometry : (geometryOf disk).sectorSize.bytes = disk.sectorSize.bytes := rfl
  obtain ⟨rest, split, behind⟩ := installation_primary migratable new
  have apart : ∀ write ∈ rest ++ later, write.Apart 0 found.mbr.sector.length := by
    intro write member
    refine .inr ?_
    rcases List.mem_append.mp member with own | other
    · have := behind write own
      omega
    · have theirs : last ≤ write.offset := others write other
      omega
  have kept := Disk.bytesAt_storeAll_of_mem base [] ⟨0, found.mbr.sector⟩ apart
  rw [List.nil_append, ← List.cons_append, ← split] at kept
  rw [← filled]
  exact kept

/-! ## The two copies -/

theorem eq_or_eq_other (location place : Location) : place = location ∨ place = location.other := by
  cases location <;> cases place
  · exact .inl rfl
  · exact .inr rfl
  · exact .inr rfl
  · exact .inl rfl

/-- A disk on which the writes of a new copy were made, and after them only others on the
other side of the partitions. -/
structure Installed (found : Inspection) (disk final : Disk) (place : Location) (new : Gpt)
    (first last : Nat) : Prop where
  made : (rebuild found.gpt place (geometryOf disk)).outcome = .ok new
  rebuilt : Rebuilt new found.gpt place (geometryOf disk) first last
  written : ∃ (base : Disk) (later : List Write),
    base.size = disk.size ∧ base.sectorSize = disk.sectorSize ∧
    final = base.storeAll (installation disk place found.mbr new ++ later) ∧
    ∀ write ∈ later, place.other.Owns first last write.offset write.data.length

namespace Installed

variable {final : Disk} {place : Location}

theorem size (installed : Installed found disk final place new first last) :
    final.size = disk.size := by
  obtain ⟨base, later, size, _, rfl, _⟩ := installed.written
  rw [Disk.size_storeAll, size]

theorem sectorSize (installed : Installed found disk final place new first last) :
    final.sectorSize = disk.sectorSize := by
  obtain ⟨base, later, _, sectorSize, rfl, _⟩ := installed.written
  rw [Disk.sectorSize_storeAll, sectorSize]

theorem storedAt (installed : Installed found disk final place new first last)
    (migratable : found.Migratable disk lba oldSectors) :
    new.StoredAt final new.header.myLba.toNat disk.sectors := by
  obtain ⟨base, later, size, _, rfl, others⟩ := installed.written
  exact migratable.storedAt_installation installed.rebuilt size (other_ne place) others

theorem primaryStored (installed : Installed found disk final .primary new first last)
    (migratable : found.Migratable disk lba oldSectors) : new.StoredAt final 1 disk.sectors := by
  have atOne : new.header.myLba.toNat = 1 :=
    (Option.some_inj.mp installed.rebuilt.announces.myLba).symm
  exact atOne ▸ installed.storedAt migratable

theorem bootRecord (installed : Installed found disk final .primary new first last)
    (migratable : found.Migratable disk lba oldSectors) :
    final.bytesAt 0 disk.sectorSize.bytes = found.mbr.sector := by
  obtain ⟨base, later, _, _, rfl, others⟩ := installed.written
  exact bootRecord_installation base migratable installed.rebuilt others

end Installed

/-- **A migration that succeeds has made the writes of both copies,** those of the copy
that the table was read from last, and both leave the same room to the partitions. -/
theorem wrote_of_run (migratable : found.Migratable disk lba oldSectors) {device final : Device}
    (untouched : device.disk = disk) (untorn : device.fates = [])
    (succeeded : (ofInspection found).run.Succeeds device () final) :
    ∃ nonActive active first last,
      (rebuild found.gpt found.location.other (geometryOf disk)).outcome = .ok nonActive ∧
      (rebuild found.gpt found.location (geometryOf disk)).outcome = .ok active ∧
      Rebuilt nonActive found.gpt found.location.other (geometryOf disk) first last ∧
      Rebuilt active found.gpt found.location (geometryOf disk) first last ∧
      Wrote device (installation disk found.location.other found.mbr nonActive ++
        installation disk found.location found.mbr active) final := by
  obtain ⟨nonActive, active, writes, writesActive, middle, nonActiveMade, activeMade, computed,
    written, computedActive, writtenActive⟩ := succeeds_run.mp succeeded
  rw [untouched] at nonActiveMade activeMade computed
  obtain ⟨first, last, rebuilt⟩ := rebuild_eq_ok migratable.stored nonActiveMade
  have rebuiltActive :=
    rebuild_eq_ok_around migratable.stored rebuilt.isFirst rebuilt.isLast activeMade
  have wrote := written.wrote untorn
  rw [wrote.disk, untouched, copyWrites_congr (Disk.size_storeAll disk writes)
    (Disk.sectorSize_storeAll disk writes),
    migratable.copyWrites_eq rebuiltActive] at computedActive
  rw [migratable.copyWrites_eq rebuilt] at computed
  cases computed
  cases computedActive
  exact ⟨nonActive, active, first, last, nonActiveMade, activeMade, rebuilt, rebuiltActive,
    wrote.trans (writtenActive.wrote (wrote.fates.trans untorn))⟩

/-- A migration that succeeds has installed both copies around the same partitions. -/
theorem installed_of_run (migratable : found.Migratable disk lba oldSectors) {device final : Device}
    (untouched : device.disk = disk) (untorn : device.fates = [])
    (succeeded : (ofInspection found).run.Succeeds device () final) :
    ∃ first last, ∀ place, ∃ new, Installed found disk final.disk place new first last := by
  obtain ⟨nonActive, active, first, last, nonActiveMade, activeMade, rebuilt, rebuiltActive,
    wrote⟩ := wrote_of_run migratable untouched untorn succeeded
  have finalDisk := wrote.disk
  rw [untouched] at finalDisk
  refine ⟨first, last, fun place => ?_⟩
  rcases eq_or_eq_other found.location place with rfl | rfl
  · rw [Disk.storeAll_append] at finalDisk
    refine ⟨active, activeMade, rebuiltActive, disk.storeAll _, [], Disk.size_storeAll _ _,
      Disk.sectorSize_storeAll _ _, by rw [List.append_nil]; exact finalDisk, ?_⟩
    intro _ impossible
    exact absurd impossible List.not_mem_nil
  · refine ⟨nonActive, nonActiveMade, rebuilt, disk, _, rfl, rfl, finalDisk, ?_⟩
    intro write member
    rw [show found.location.other.other = found.location by cases found.location <;> rfl]
    exact (migratable.owns_installation rebuiltActive write member).1

/-- What a completed migration leaves on the disk. -/
structure Completed (found : Inspection) (disk final : Disk) (primary backup : Gpt) : Prop where
  size : final.size = disk.size
  sectorSize : final.sectorSize = disk.sectorSize
  bootRecord : final.bytesAt 0 disk.sectorSize.bytes = found.mbr.sector
  primaryRebuilt : (rebuild found.gpt .primary (geometryOf disk)).outcome = .ok primary
  backupRebuilt : (rebuild found.gpt .backup (geometryOf disk)).outcome = .ok backup
  primarySize : primary.sectorSize = disk.sectorSize
  backupSize : backup.sectorSize = disk.sectorSize
  primaryStored : primary.StoredAt final 1 disk.sectors
  backupStored : backup.StoredAt final (disk.sectors - 1) disk.sectors

/-- Where both copies were installed, they are stored, and so is the boot record. -/
theorem completed_of_installed (migratable : found.Migratable disk lba oldSectors) {final : Disk}
    {first last : Nat} (installed : ∀ place, ∃ new,
      Installed found disk final place new first last) :
    ∃ primary backup, Completed found disk final primary backup := by
  obtain ⟨primary, front⟩ := installed .primary
  obtain ⟨backup, behind⟩ := installed .backup
  have atEnd := Location.lba_backup behind.rebuilt.announces.myLba
  exact ⟨primary, backup, front.size, front.sectorSize, front.bootRecord migratable, front.made,
    behind.made, front.rebuilt.sectorSize, behind.rebuilt.sectorSize,
    front.primaryStored migratable, atEnd ▸ behind.storedAt migratable⟩

theorem run_completes (migratable : found.Migratable disk lba oldSectors) {device final : Device}
    (untouched : device.disk = disk) (untorn : device.fates = [])
    (succeeded : (ofInspection found).run.Succeeds device () final) :
    ∃ primary backup, Completed found disk final.disk primary backup := by
  obtain ⟨_, _, installed⟩ := installed_of_run migratable untouched untorn succeeded
  exact completed_of_installed migratable installed

end Migration

/-! ## Repairs that succeed -/

variable {device final : Device} {found : Inspection} {skipParameterBlock : Bool}

/-- A migration of what was found makes ready, runs and asks for the new table to be picked up. -/
theorem succeeds_migrateFound :
    (migrateFound found).Succeeds device () final ↔ device.faults.prepareFails = false ∧
      ∃ reached,
        (ofInspection found).run.Succeeds { device with requests := .prepare :: device.requests } ()
          reached ∧
        reached.faults.reloadFails = false ∧
        { reached with requests := .reload :: reached.requests } = final := by
  unfold migrateFound
  constructor
  · intro migrated
    obtain ⟨_, _, prepared, migrated⟩ := succeeds_bind.mp migrated
    obtain ⟨ready, rfl⟩ := succeeds_prepare.mp prepared
    obtain ⟨_, _, said, migrated⟩ := succeeds_bind.mp migrated
    cases succeeds_say.mp said
    obtain ⟨_, reached, ran, reloaded⟩ := succeeds_bind.mp migrated
    exact ⟨ready, reached, ran, succeeds_reload.mp reloaded⟩
  · rintro ⟨ready, reached, ran, reloaded⟩
    refine succeeds_bind.mpr ⟨(), _, succeeds_prepare.mpr ⟨ready, rfl⟩, ?_⟩
    refine succeeds_bind.mpr ⟨(), _, succeeds_say.mpr rfl, ?_⟩
    exact succeeds_bind.mpr ⟨(), reached, ran, succeeds_reload.mpr reloaded⟩

/-- A repair migrates what the inspection found, or leaves it alone if nothing is needed. -/
theorem succeeds_repairDisk
    (inspected : (Inspection.ofDisk device.disk skipParameterBlock).outcome = .ok found) :
    (repairDisk skipParameterBlock).Succeeds device () final ↔
      (found.needsMigration ∧ (migrateFound found).Succeeds device () final) ∨
        (¬found.needsMigration ∧ device = final) := by
  unfold repairDisk
  constructor
  · intro repaired
    obtain ⟨_, _, asked, repaired⟩ := succeeds_bind.mp repaired
    obtain ⟨rfl, rfl⟩ := succeeds_disk.mp asked
    obtain ⟨_, _, searched, repaired⟩ := succeeds_bind.mp repaired
    obtain ⟨again, rfl⟩ := succeeds_lift.mp searched
    cases inspected.symm.trans again
    split at repaired
    next needed => exact .inl ⟨needed, repaired⟩
    next stable => exact .inr ⟨stable, succeeds_say.mp repaired⟩
  · intro repaired
    refine succeeds_bind.mpr ⟨device.disk, device, succeeds_disk.mpr ⟨rfl, rfl⟩, ?_⟩
    refine succeeds_bind.mpr ⟨found, device, succeeds_lift.mpr ⟨inspected, rfl⟩, ?_⟩
    rcases repaired with ⟨needed, migrated⟩ | ⟨stable, same⟩
    · rw [if_pos needed]
      exact migrated
    · rw [if_neg stable]
      exact succeeds_say.mpr same

/-- On a device without faults a repair succeeds if both copies can be rebuilt. -/
theorem exists_repair {disk : Disk} {nonActive active : Gpt}
    (inspected : (Inspection.ofDisk disk skipParameterBlock).outcome = .ok found)
    (needed : found.needsMigration)
    (nonActiveRebuilt : (rebuild found.gpt found.location.other (geometryOf disk)).outcome =
      .ok nonActive)
    (activeRebuilt : (rebuild found.gpt found.location (geometryOf disk)).outcome = .ok active) :
    ∃ final, (repairDisk skipParameterBlock).Succeeds (Device.ofDisk disk) () final := by
  obtain ⟨_, migratable⟩ := (Inspection.ofDisk_eq_ok inspected).migratable needed
  let ready : Device := { Device.ofDisk disk with requests := [.prepare] }
  obtain ⟨reached, ran, wrote⟩ := run_of_rebuilt migratable nonActiveRebuilt activeRebuilt
    (rfl : ready.disk = disk) rfl rfl
  have migrated : (migrateFound found).Succeeds (Device.ofDisk disk) ()
      { reached with requests := .reload :: reached.requests } :=
    succeeds_migrateFound.mpr ⟨rfl, reached, ran, wrote.reloadFails, rfl⟩
  exact ⟨_, (succeeds_repairDisk inspected).mpr (.inl ⟨needed, migrated⟩)⟩

/-- A repair that was needed and succeeded has installed both copies. -/
theorem installed_of_repair {disk : Disk} {faults : FaultPlan}
    (inspected : (Inspection.ofDisk disk skipParameterBlock).outcome = .ok found)
    (needed : found.needsMigration)
    (repaired :
      (repairDisk skipParameterBlock).Succeeds (Device.withFaults disk faults []) () final) :
    ∃ lba oldSectors first last, found.Migratable disk lba oldSectors ∧
      ∀ place, ∃ new, Installed found disk final.disk place new first last := by
  obtain ⟨lba, migratable⟩ := (Inspection.ofDisk_eq_ok inspected).migratable needed
  obtain ⟨_, migrated⟩ | ⟨stable, _⟩ := (succeeds_repairDisk inspected).mp repaired
  case inr => exact absurd needed stable
  obtain ⟨_, reached, ran, _, rfl⟩ := succeeds_migrateFound.mp migrated
  obtain ⟨first, last, installed⟩ := installed_of_run migratable rfl rfl ran
  exact ⟨lba, _, first, last, migratable, installed⟩

/-! ## Looking again -/

/-- **A completed migration is complete and stable.**  Both copies are read back as
they were rebuilt.  A further inspection finds the primary copy, which needs no
migration, and the same boot record.  A check succeeds, and a further repair asks
nothing of the device, whatever would fail on it. -/
theorem completed_migration_is_stable {disk : Disk} {skipParameterBlock : Bool} {found : Inspection}
    {faults : FaultPlan} {final : Device}
    (inspected : (Inspection.ofDisk disk skipParameterBlock).outcome = .ok found)
    (needed : found.needsMigration)
    (repaired :
      (repairDisk skipParameterBlock).Succeeds (Device.withFaults disk faults []) () final) :
    ∃ primary backup,
      (rebuild found.gpt .primary (geometryOf disk)).outcome = .ok primary ∧
      (rebuild found.gpt .backup (geometryOf disk)).outcome = .ok backup ∧
      (Gpt.read final.disk 1 disk.sectorSize disk.sectors).outcome = .ok primary ∧
      (Gpt.read final.disk (disk.sectors - 1) disk.sectorSize disk.sectors).outcome = .ok backup ∧
      (Inspection.ofDisk final.disk skipParameterBlock).outcome = .ok
        { mbr := found.mbr, sectors := found.sectors, gpt := primary, location := .primary,
          needsMigration := false } ∧
      final.disk.bytesAt 0 disk.sectorSize.bytes = found.mbr.sector ∧
      (checkDisk final.disk skipParameterBlock).outcome = .ok () ∧
      ∀ (laterFaults : FaultPlan) (fates : List Fate),
        (repairDisk skipParameterBlock).Succeeds (Device.withFaults final.disk laterFaults fates) ()
          (Device.withFaults final.disk laterFaults fates) := by
  have sound := Inspection.ofDisk_eq_ok inspected
  obtain ⟨_, migratable⟩ := sound.migratable needed
  obtain ⟨_, migrated⟩ | ⟨stable, _⟩ := (succeeds_repairDisk inspected).mp repaired
  case inr => exact absurd needed stable
  obtain ⟨_, reached, ran, _, rfl⟩ := succeeds_migrateFound.mp migrated
  obtain ⟨primary, backup, completed⟩ := run_completes migratable rfl rfl ran
  have sectors : reached.disk.sectors = disk.sectors := by
    unfold Disk.sectors
    rw [completed.size, completed.sectorSize]
  have checked : (Inspection.checkMbr reached.disk disk.sectors skipParameterBlock).outcome =
      .ok found.mbr :=
    Inspection.checkMbr_stable sound.mbr completed.size completed.sectorSize completed.bootRecord
  have inspectedAgain : (Inspection.ofDisk reached.disk skipParameterBlock).outcome = .ok
      { mbr := found.mbr, sectors := found.sectors, gpt := primary, location := .primary,
        needsMigration := false } := by
    rw [sound.sectors, ← sectors]
    refine Inspection.ofDisk_of_primary ?_ ?_ ?_ ?_ ?_ ?_
    · rw [completed.size]
      exact sound.size_lt
    · rw [sectors]
      exact sound.minimumSectors_le
    · rw [sectors, completed.size, completed.sectorSize]
      exact sound.size_eq
    · rw [sectors]
      exact checked
    · rw [completed.sectorSize]
      exact completed.primarySize
    · rw [sectors]
      exact completed.primaryStored
  refine ⟨primary, backup, completed.primaryRebuilt, completed.backupRebuilt,
    Gpt.read_eq_ok_iff.mpr ⟨completed.primarySize, completed.primaryStored⟩,
    Gpt.read_eq_ok_iff.mpr ⟨completed.backupSize, completed.backupStored⟩, inspectedAgain,
    completed.bootRecord, ?_, ?_⟩
  · exact Logged.outcome_bind_eq_ok.mpr ⟨_, inspectedAgain, rfl⟩
  · intro laterFaults fates
    have again : (Inspection.ofDisk (Device.withFaults reached.disk laterFaults fates).disk
      skipParameterBlock).outcome = _ := inspectedAgain
    exact (succeeds_repairDisk again).mpr (.inr ⟨Bool.false_ne_true, rfl⟩)

theorem sampleDisk_is_stable : ∃ found final primary,
    (Inspection.ofDisk sampleDisk false).outcome = .ok found ∧ found.needsMigration ∧
    (repairDisk false).Succeeds (Device.ofDisk sampleDisk) () final ∧
    (Inspection.ofDisk final.disk false).outcome = .ok
      { mbr := found.mbr, sectors := found.sectors, gpt := primary, location := .primary,
        needsMigration := false } ∧
    (checkDisk final.disk false).outcome = .ok () := by
  obtain ⟨found, nonActive, active, inspected, needed, _, nonActiveRebuilt, activeRebuilt⟩ :=
    sampleDisk_migrates
  obtain ⟨final, repaired⟩ := exists_repair inspected needed nonActiveRebuilt activeRebuilt
  obtain ⟨primary, _, _, _, _, _, again, _, checked, _⟩ :=
    completed_migration_is_stable inspected needed repaired
  exact ⟨found, final, primary, inspected, needed, repaired, again, checked⟩

end TrustBoundary
