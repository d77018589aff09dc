import TrustBoundary.Proofs.Migration.Leftovers
import TrustBoundary.Proofs.Migration.Reversal

/-!
# There and back again

A disk that was repaired for large sectors may come back with small ones.  A repair then
succeeds too, and gives the table that was there at first: the same slots up to the last
used one, the same disk identifier, and no more slots than there were (`round_trip`).

Whatever the sizes are, a repaired disk that has its former sector size again is migrated
once more if the new table fits that size and keeps clear of the places where the headers
of the first one were (`exists_repair_presented`).  Nothing is looked at any further there
(`Installed.tryCopy_former`), so the new table is what is found, at the other sector size.
The boot record was checked when it was written, and can be checked for any number of
sectors (`Inspection.exists_checkMbr_of_front`).

`repairedSample` is a disk that goes there and back.
-/

set_option autoImplicit false

namespace TrustBoundary

open Work Migration
open Gpt (Location)

/-- The same bytes with sectors of another size. -/
def Disk.presented (disk : Disk) (sectorSize : SectorSize) : Disk := { disk with sectorSize }

/-- A stored copy stays stored, whatever sectors the disk has. -/
theorem Gpt.StoredAt.presented {gpt : Gpt} {disk : Disk} {offset sectors : Nat}
    (stored : gpt.StoredAt disk offset sectors) (sectorSize : SectorSize) :
    gpt.StoredAt (disk.presented sectorSize) offset sectors :=
  stored.of_same_bytes rfl rfl rfl

/-- A boot record that was checked can be checked again wherever its first bytes are found. -/
theorem Inspection.exists_checkMbr_of_front {disk other : Disk} {sectors count : Nat}
    {skipParameterBlock : Bool} {mbr : ProtectiveMbr}
    (checked : (checkMbr disk sectors skipParameterBlock).outcome = .ok mbr)
    (inside : other.sectorSize.bytes ≤ other.size)
    (front : other.bytesAt 0 ProtectiveMbr.width = mbr.sector.take ProtectiveMbr.width)
    (least : 1 ≤ count) :
    ∃ result, (checkMbr other count skipParameterBlock).outcome = .ok result := by
  have fills := fills_of_checkMbr checked
  obtain ⟨_, _, checked⟩ := checkMbr_eq_ok_iff.mp checked
  obtain ⟨genuine, _⟩ := ProtectiveMbr.check_eq_ok_iff.mp (ProtectiveMbr.check_stable checked)
  have long : ProtectiveMbr.width ≤ mbr.sector.length := fills.length ▸ fills.width_le
  have wide : ProtectiveMbr.width ≤ other.sectorSize.bytes := by
    rcases other.sectorSize.bytes_cases with bytes | bytes <;> rw [bytes] <;> decide
  have sector : ProtectiveMbr.width ≤ (other.bytesAt 0 other.sectorSize.bytes).length := by
    rw [Disk.length_bytesAt]
    exact wide
  obtain ⟨again, found, longAgain, same⟩ := ProtectiveMbr.exists_ofSector? sector
  rw [Disk.take_bytesAt _ _ wide, front] at same
  obtain ⟨result, checked⟩ := (genuine.congr same long).exists_check longAgain least
  exact ⟨result, checkMbr_eq_ok_iff.mpr
    ⟨again, ProtectiveMbr.read_eq_ok_iff.mpr ⟨inside, found⟩, checked⟩⟩

/-! ## Looking for the first table -/

variable {disk final : Disk} {found : Inspection} {lba oldSectors first last : Nat} {new : Gpt}
  {place : Location}

namespace Migration

/-- With its former sector size the disk has its former geometry. -/
theorem geometryOf_presented (size : final.size = disk.size) :
    geometryOf (final.presented disk.sectorSize.other) = formerGeometry disk := by
  change (⟨disk.sectorSize.other, final.size / disk.sectorSize.other.bytes⟩ : Geometry) = _
  rw [size]
  rfl

/-- The sectors that it has then under the other sector size are those that it has now. -/
theorem otherSectors_presented (migratable : found.Migratable disk lba oldSectors)
    (size : final.size = disk.size) :
    (Inspection.otherSectors (final.presented disk.sectorSize.other)).outcome =
      .ok disk.sectors := by
  have presented : (final.presented disk.sectorSize.other).size = disk.size := size
  have back : (final.presented disk.sectorSize.other).sectorSize.other = disk.sectorSize :=
    disk.sectorSize.other_other
  refine Inspection.otherSectors_eq_ok_iff.mpr ⟨?_, migratable.minimumSectors_le, ?_⟩
  · rw [presented]
    -- one of the two sector sizes is the large one
    obtain ⟨_, old⟩ | ⟨new, _⟩ := migratable.bytes_cases
    · rw [migratable.oldSize_eq, old, Nat.mul_mod_left]
    · rw [migratable.size_eq, new, Nat.mul_mod_left]
  · rw [presented, back]
    rfl

/-- Nothing is looked at any further where an old header was. -/
theorem Installed.tryCopy_former
    (installed : Installed found disk final place new first last)
    (migratable : found.Migratable disk lba oldSectors) (size_lt : disk.size < Word.limit)
    (clear : disk.sectorSize = .small → new.tableRoom ≤ clearTableBytes) :
    (Inspection.tryCopy (final.presented disk.sectorSize.other) place disk.sectorSize.other
      (formerGeometry disk).sectors).outcome = .ok none := by
  have minimum := minimumSectors_le_former migratable
  obtain ⟨former, here⟩ := place.exists_lba (Nat.le_trans (by decide) minimum)
  have start : former * disk.sectorSize.other.bytes = (formerGeometry disk).headerStart place :=
    Geometry.lba_mul_bytes here
  have presented : (final.presented disk.sectorSize.other).size = disk.size := installed.size
  have enough : Gpt.Entry.width ≤ disk.sectorSize.other.bytes := by
    rcases disk.sectorSize.other.bytes_cases with bytes | bytes <;> rw [bytes] <;> decide
  refine Inspection.tryCopy_of_unsigned here minimum ?_ (presented ▸ size_lt) ?_
  · rw [presented, ← formerGeometry_size migratable, Geometry.size, Nat.mul_comm]
    exact Nat.le_refl _
  · refine Gpt.signature_ne_of_slotIsUnused ?_ ?_
    · rw [Disk.length_bytesAt]
      exact Nat.le_trans (by decide) enough
    · -- the sector begins like an unused slot
      have blank := installed.blank_former migratable clear
      rw [← start, ← Disk.take_bytesAt _ _ enough] at blank
      rw [← Gpt.Entry.slotIsUnused_take]
      exact blank.symm ▸ rfl

variable {primary backup : Gpt} {skipParameterBlock : Bool}

/-- **The new table is what has to be migrated** when the disk has its former sector size again. -/
theorem inspect_presented (sound : found.Sound disk skipParameterBlock)
    (migratable : found.Migratable disk lba oldSectors)
    (front : Installed found disk final .primary primary first last)
    (behind : Installed found disk final .backup backup first last)
    (frontClear : disk.sectorSize = .small → primary.tableRoom ≤ clearTableBytes)
    (behindClear : disk.sectorSize = .small → backup.tableRoom ≤ clearTableBytes) :
    let presented := final.presented disk.sectorSize.other
    ∃ mbr, (Inspection.ofDisk presented skipParameterBlock).outcome = .ok
      { mbr, sectors := presented.sectors, gpt := primary, location := .primary,
        needsMigration := true } := by
  intro presented
  have size : presented.size = disk.size := front.size
  have sectors : presented.sectors = (formerGeometry disk).sectors :=
    congrArg Geometry.sectors (geometryOf_presented front.size)
  have small : disk.size < Word.limit := Nat.lt_trans sound.size_lt Word.signedLimit_lt_limit
  have minimum : Disk.minimumSectors ≤ presented.sectors :=
    sectors ▸ minimumSectors_le_former migratable
  have least : 1 ≤ presented.sectors := Nat.le_trans (by decide) minimum
  have whole : presented.size = presented.sectors * presented.sectorSize.bytes := by
    rw [size, sectors, ← formerGeometry_size migratable, Geometry.size, Nat.mul_comm]
    rfl
  have wide : ProtectiveMbr.width ≤ disk.sectorSize.bytes := migratable.mbr.width_le
  have bootRecord : presented.bytesAt 0 ProtectiveMbr.width =
      found.mbr.sector.take ProtectiveMbr.width := by
    rw [← front.bootRecord migratable, Disk.take_bytesAt _ _ wide]
    rfl
  obtain ⟨mbr, checked⟩ := Inspection.exists_checkMbr_of_front sound.mbr
    (whole ▸ Nat.le_mul_of_pos_left _ least) bootRecord least
  have own : (Inspection.findCopy presented presented.sectorSize presented.sectors).outcome =
    .ok none := by
    rw [sectors]
    exact Inspection.findCopy_of_neither (front.tryCopy_former migratable small frontClear)
      (behind.tryCopy_former migratable small behindClear)
  have stored : primary.StoredAt presented 1 disk.sectors :=
    (front.primaryStored migratable).presented _
  have counted : (Inspection.otherSectors presented).outcome = .ok disk.sectors :=
    otherSectors_presented migratable front.size
  refine ⟨mbr,
    Inspection.ofDisk_of_other (size ▸ sound.size_lt) minimum whole checked own counted ?_⟩
  exact Inspection.findCopy_of_primary
    (front.rebuilt.sectorSize.trans disk.sectorSize.other_other.symm) stored

/-- The new table is offered to the disk with its former sector size. -/
theorem offered_presented (sound : found.Sound disk skipParameterBlock)
    (migratable : found.Migratable disk lba oldSectors)
    (front : Installed found disk final .primary primary first last) :
    Offered primary (final.presented disk.sectorSize.other) 1 disk.sectors
      (formerGeometry disk) where
  stored := (front.primaryStored migratable).presented _
  whole := by
    rw [front.rebuilt.sectorSize]
    exact front.size.trans sound.size_eq
  size_eq := (formerGeometry_size migratable).trans front.size.symm
  size_lt := Nat.lt_of_le_of_lt (Nat.le_of_eq front.size) sound.size_lt
  minimumSectors_le := minimumSectors_le_former migratable

/-- If the new table fits the former geometry, a second repair succeeds, and migrates it. -/
theorem exists_repair_presented (sound : found.Sound disk skipParameterBlock)
    (migratable : found.Migratable disk lba oldSectors)
    (front : Installed found disk final .primary primary first last)
    (behind : Installed found disk final .backup backup first last)
    (frontClear : disk.sectorSize = .small → primary.tableRoom ≤ clearTableBytes)
    (behindClear : disk.sectorSize = .small → backup.tableRoom ≤ clearTableBytes)
    (fits : Fits primary (formerGeometry disk) first last) :
    let presented := final.presented disk.sectorSize.other
    ∃ refound last, (Inspection.ofDisk presented skipParameterBlock).outcome = .ok refound ∧
      refound.needsMigration ∧ refound.gpt = primary ∧
      (repairDisk skipParameterBlock).Succeeds (Device.ofDisk presented) () last := by
  intro presented
  have offered := offered_presented sound migratable front
  have isFirst := front.rebuilt.firstStart?_eq migratable.stored
  have isLast := front.rebuilt.lastStop?_eq migratable.stored
  have made :
      ∀ location, ∃ new, (rebuild primary location (geometryOf presented)).outcome = .ok new := by
    intro location
    rw [geometryOf_presented front.size]
    exact (exists_rebuild_iff offered isFirst isLast location).mpr fits
  obtain ⟨mbr, inspected⟩ :=
    inspect_presented sound migratable front behind frontClear behindClear
  obtain ⟨_, nonActiveMade⟩ := made .backup
  obtain ⟨_, activeMade⟩ := made .primary
  obtain ⟨last, repaired⟩ := exists_repair inspected rfl nonActiveMade activeMade
  exact ⟨_, last, inspected, rfl, rfl, repaired⟩

end Migration

/-- **A disk may go from small to large sectors and back.**  A repair for large sectors
that succeeds can be followed by one for small sectors, which finds the migrated table and
succeeds too.  The primary copy that is then read has the slots that the first table had up
to the last used one, its disk identifier, and no more slots in all. -/
theorem round_trip {disk : Disk} {skipParameterBlock : Bool} {found : Inspection}
    {faults : FaultPlan} {final : Device} (large : disk.sectorSize = .large)
    (inspected : (Inspection.ofDisk disk skipParameterBlock).outcome = .ok found)
    (needed : found.needsMigration)
    (repaired :
      (repairDisk skipParameterBlock).Succeeds (Device.withFaults disk faults []) () final) :
    ∃ refound last gpt,
      (Inspection.ofDisk (final.disk.presented .small) skipParameterBlock).outcome = .ok refound ∧
      refound.needsMigration ∧
      (repairDisk skipParameterBlock).Succeeds (Device.ofDisk (final.disk.presented .small))
      () last ∧
      (Gpt.read last.disk 1 .small (disk.size / SectorSize.small.bytes)).outcome = .ok gpt ∧
      gpt.usedEntries = found.gpt.usedEntries ∧
      Gpt.slots found.gpt.usedEntries gpt.table =
        Gpt.slots found.gpt.usedEntries found.gpt.table ∧
      gpt.header.diskGuid = found.gpt.header.diskGuid ∧
      gpt.header.entryCount.toNat ≤ found.gpt.header.entryCount.toNat := by
  have sound := Inspection.ofDisk_eq_ok inspected
  obtain ⟨_, _, first, last, migratable, installed⟩ := installed_of_repair inspected needed repaired
  obtain ⟨primary, front⟩ := installed .primary
  obtain ⟨backup, behind⟩ := installed .backup
  have wasSmall : disk.sectorSize.other = .small := by rw [large]; rfl
  have clear : ∀ gpt : Gpt, disk.sectorSize = .small → gpt.tableRoom ≤ clearTableBytes := by
    intro _ small
    exact nomatch large.symm.trans small
  have fits : Fits primary (formerGeometry disk) first last :=
    front.rebuilt.fits_small migratable.stored (migratable.differs.trans wasSmall) large wasSmall
      ((formerGeometry_size migratable).trans migratable.geometry_size.symm)
  -- the second repair
  obtain ⟨refound, again, inspectedAgain, neededAgain, same, repairedAgain⟩ :=
    exists_repair_presented sound migratable front behind (clear primary) (clear backup) fits
  obtain ⟨_, _, _, _, migratableAgain, installedAgain⟩ :=
    installed_of_repair inspectedAgain neededAgain repairedAgain
  obtain ⟨gpt, restored⟩ := installedAgain .primary
  have stored : gpt.StoredAt again.disk 1 (disk.size / disk.sectorSize.other.bytes) := by
    rw [← front.size]
    exact restored.primaryStored migratableAgain
  have rebuilt := restored.rebuilt
  rw [same] at rebuilt
  rw [← wasSmall]
  refine ⟨refound, again, gpt, inspectedAgain, neededAgain, repairedAgain,
    Gpt.read_eq_ok_iff.mpr ⟨rebuilt.sectorSize, stored⟩, ?_, ?_, ?_, ?_⟩
  · exact rebuilt.usedEntries.trans front.rebuilt.usedEntries
  · exact front.rebuilt.slots_back migratable.stored rebuilt (front.primaryStored migratable)
      migratable.differs.symm
  · exact rebuilt.announces.diskGuid.trans front.rebuilt.announces.diskGuid
  · exact Nat.le_trans rebuilt.count_le front.rebuilt.count_le

/-! ## A disk that goes there and back -/

namespace Migration

theorem sampleGpt_bounds : sampleGpt.firstStart? = some 12288 ∧
    sampleGpt.lastStop? = some 16384 := by
  obtain ⟨_, parts, _⟩ := Gpt.seal?_eq_some seal?_sampleTable
  have table : sampleTable.firstStart? = some 12288 ∧ sampleTable.lastStop? = some 16384 := by
    decide +kernel
  rw [parts]
  exact table

theorem sampleGpt_room :
    sampleGpt.header.tableBytes = 128 ∧ usedRoom sampleGpt sampleGpt.sectorSize = 4096 := by
  obtain ⟨_, parts, _⟩ := Gpt.seal?_eq_some seal?_sampleTable
  have table : sampleTable.header.tableBytes = 128 ∧
    usedRoom sampleTable sampleTable.sectorSize = 4096 := by
    decide
  rw [parts]
  exact table

/-- `sampleDisk` after its repair, with large sectors again. -/
def repairedSample : Disk :=
  ((repairDisk false).run (Device.ofDisk sampleDisk)).2.disk.presented .large

/-- The table on that disk has to be migrated, and can be. -/
theorem repairedSample_migrates : ∃ found final,
    (Inspection.ofDisk repairedSample false).outcome = .ok found ∧ found.needsMigration ∧
    (repairDisk false).Succeeds (Device.ofDisk repairedSample) () final := by
  obtain ⟨found, _, _, inspected, needed, isSample, nonActiveMade, activeMade⟩ :=
    sampleDisk_migrates
  obtain ⟨_, repaired⟩ := exists_repair inspected needed nonActiveMade activeMade
  obtain ⟨_, _, first, last, migratable, installed⟩ := installed_of_repair inspected needed repaired
  obtain ⟨primary, front⟩ := installed .primary
  obtain ⟨backup, behind⟩ := installed .backup
  obtain ⟨tableBytes, usedRoom⟩ := sampleGpt_room
  have clear : ∀ {place new}, Rebuilt new found.gpt place (geometryOf sampleDisk) first last →
      sampleDisk.sectorSize = .small → new.tableRoom ≤ clearTableBytes := by
    intro _ new rebuilt small
    have few := rebuilt.tableBytes_le
    rw [isSample, tableBytes] at few
    rw [Gpt.tableRoom, rebuilt.sectorSize, geometryOf, small]
    exact SectorSize.wholeBytes_le (Nat.le_trans few (by decide)) (by decide)
  have fits : Fits primary (formerGeometry sampleDisk) first last := by
    have isFirst := front.rebuilt.isFirst
    have isLast := front.rebuilt.isLast
    have large : SectorSize.large.bytes = 4096 := rfl
    rw [isSample, sampleGpt_bounds.1, Option.some_inj] at isFirst
    rw [isSample, sampleGpt_bounds.2, Option.some_inj] at isLast
    refine front.rebuilt.fits_back migratable.stored migratable.differs.symm ?_ ?_
    · rw [isSample, usedRoom, sampleGpt_sectorSize, large]
      omega
    · rw [isSample, usedRoom, sampleGpt_sectorSize, large, formerGeometry_size migratable,
        sampleDisk_size]
      omega
  obtain ⟨refound, again, inspectedAgain, neededAgain, _, repairedAgain⟩ :=
    exists_repair_presented (Inspection.ofDisk_eq_ok inspected) migratable front behind
      (clear front.rebuilt) (clear behind.rebuilt) fits
  have same : repairedSample = _ :=
    congrArg (Disk.presented · .large) (congrArg Device.disk repaired.2)
  rw [same]
  exact ⟨refound, again, inspectedAgain, neededAgain, repairedAgain⟩

end Migration

theorem repairedSample_round_trip : repairedSample.sectorSize = .large ∧ ∃ found final,
    (Inspection.ofDisk repairedSample false).outcome = .ok found ∧ found.needsMigration ∧
    (repairDisk false).Succeeds (Device.ofDisk repairedSample) () final ∧
    ∃ refound last gpt,
      (Inspection.ofDisk (final.disk.presented .small) false).outcome = .ok refound ∧
      refound.needsMigration ∧
      (repairDisk false).Succeeds (Device.ofDisk (final.disk.presented .small)) () last ∧
      (Gpt.read last.disk 1 .small (repairedSample.size / SectorSize.small.bytes)).outcome =
        .ok gpt ∧
      gpt.usedEntries = found.gpt.usedEntries ∧
      Gpt.slots found.gpt.usedEntries gpt.table =
        Gpt.slots found.gpt.usedEntries found.gpt.table ∧
      gpt.header.diskGuid = found.gpt.header.diskGuid ∧
      gpt.header.entryCount.toNat ≤ found.gpt.header.entryCount.toNat := by
  have large : repairedSample.sectorSize = .large := rfl
  obtain ⟨found, final, inspected, needed, repaired⟩ := repairedSample_migrates
  exact ⟨large, found, final, inspected, needed, repaired,
    round_trip large inspected needed repaired⟩

end TrustBoundary
