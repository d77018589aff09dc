import TrustBoundary.Proofs.Migration.Interruption
import TrustBoundary.Migration.Steps

/-!
# Partitions are never touched

Whatever fails during a repair and whichever writes are torn, every write that
is asked for lies on the side of one of the two copies, and so no byte of a
partition ever changes (`repair_keeps_partitions`).
-/

set_option autoImplicit false

namespace TrustBoundary

open Work Migration
open Gpt (Location)

namespace Migration

variable {found : Inspection} {disk : Disk} {lba oldSectors first last : Nat} {location : Location}

/-- Writing a rebuilt copy keeps the partitions. -/
theorem maintains_writeCopy (migratable : found.Migratable disk lba oldSectors) {new : Gpt}
    (rebuilt : Rebuilt new found.gpt location (geometryOf disk) first last) {migration : Migration}
    (old : migration.old = found.gpt) (mbr : migration.mbr = found.mbr) :
    (migration.writeCopy location new).Maintains (Device.Keeps · disk first (last - first)) := by
  have ordered := Nat.le_of_lt (rebuilt.first_lt_last migratable.stored)
  refine (maintains_say _ _).bind ?_
  intro _ _ _ _
  refine maintains_disk.bind ?_
  intro device value before read
  cases read
  refine (maintains_lift _).bind ?_
  intro _ writes _ computed
  have computed : (copyWrites device.disk new migration.old.sectorSize migration.mbr).outcome =
    .ok writes := computed
  rw [copyWrites_congr before.size before.sectorSize, old, mbr, migratable.copyWrites_eq rebuilt]
    at computed
  cases computed
  exact maintains_writeAll fun write member =>
    Device.maintains_write
      ((migratable.owns_installation rebuilt write member).1.apart_partitions ordered)

/-- A migration keeps the partitions. -/
theorem maintains_run (migratable : found.Migratable disk lba oldSectors)
    (isFirst : found.gpt.firstStart? = some first) (isLast : found.gpt.lastStop? = some last) :
    (ofInspection found).run.Maintains (Device.Keeps · disk first (last - first)) := by
  have planning : (ofInspection found).step.Maintains (Device.Keeps · disk first (last - first)) :=
    maintains_disk.bind fun _ _ _ _ => (maintains_lift _).bind fun _ _ _ _ => maintains_pure _
  refine planning.bind ?_
  intro device planned before outcome
  obtain ⟨nonActive, active, nonActiveRebuilt, activeRebuilt, rfl, _⟩ :=
    (succeeds_step_planning rfl).mp ⟨outcome, rfl⟩
  have geometry : geometryOf device.disk = geometryOf disk := by
    unfold geometryOf Disk.sectors
    rw [before.size, before.sectorSize]
  rw [geometry] at nonActiveRebuilt activeRebuilt
  have rebuilt := rebuild_eq_ok_around migratable.stored isFirst isLast nonActiveRebuilt
  have rebuiltActive := rebuild_eq_ok_around migratable.stored isFirst isLast activeRebuilt
  have writing : (step { ofInspection found with
      stage := .writingNonActive nonActive active }).Maintains
        (Device.Keeps · disk first (last - first)) :=
    (maintains_writeCopy migratable rebuilt rfl rfl).bind fun _ _ _ _ => maintains_pure _
  refine writing.bind ?_
  intro device halfway _ outcome
  obtain ⟨_, _, _, rfl⟩ := (succeeds_step_writingNonActive rfl).mp ⟨outcome, rfl⟩
  have finishing : (step { ofInspection found with
      stage := .writingActive nonActive active }).Maintains
        (Device.Keeps · disk first (last - first)) :=
    (maintains_writeCopy migratable rebuiltActive rfl rfl).bind fun _ _ _ _ => maintains_pure _
  exact finishing.bind fun _ _ _ _ => maintains_pure _

end Migration

/-! ## The whole repair -/

/-- A repair works on what the inspection found. -/
theorem run_repairDisk (device : Device) {found : Inspection} {skipParameterBlock : Bool}
    (inspected : (Inspection.ofDisk device.disk skipParameterBlock).outcome = .ok found) :
    ((repairDisk skipParameterBlock).run device).2 =
      ((if found.needsMigration then migrateFound found else
        Work.say .info "GPT matches the current sector size, nothing to do").run device).2 := by
  have asked : Work.disk.Succeeds device device.disk device := succeeds_disk.mpr ⟨rfl, rfl⟩
  have searched :
      (liftM (Inspection.ofDisk device.disk skipParameterBlock) : Work Inspection).Succeeds
      device found device := succeeds_lift.mpr ⟨inspected, rfl⟩
  unfold repairDisk
  rw [asked.run_bind, searched.run_bind]

/-- **No repair touches a partition.**  Let any writes fail and any be torn.  From
the first byte of the partitions up to the last one every byte keeps its value at
every moment, and no write that is asked for reaches into that range. -/
theorem repair_keeps_partitions {disk : Disk} {skipParameterBlock : Bool} {found : Inspection}
    {first last : Nat}
    (inspected : (Inspection.ofDisk disk skipParameterBlock).outcome = .ok found)
    (isFirst : found.gpt.firstStart? = some first) (isLast : found.gpt.lastStop? = some last)
    (faults : FaultPlan) (fates : List Fate) :
    let final := ((repairDisk skipParameterBlock).run (Device.withFaults disk faults fates)).2
    (∀ moment ∈ final.moments, ∀ position, first ≤ position → position < last →
        moment.byteAt position = disk.byteAt position) ∧
      ∀ write stored, .write write stored ∈ final.requests →
        write.offset + write.data.length ≤ first ∨ last ≤ write.offset := by
  have sound := Inspection.ofDisk_eq_ok inspected
  obtain ⟨_, _, stored⟩ := sound.stored
  obtain ⟨_, ordered, _⟩ := stored.partitions_usable isFirst isLast
  have unused : (Device.withFaults disk faults fates).Keeps disk first (last - first) :=
    Device.keeps_withFaults faults fates
  have kept : ((repairDisk skipParameterBlock).run (Device.withFaults disk faults fates)).2.Keeps
      disk first (last - first) := by
    rw [run_repairDisk (Device.withFaults disk faults fates) inspected]
    by_cases needed : found.needsMigration
    · obtain ⟨_, migratable⟩ := sound.migratable needed
      rw [if_pos needed]
      refine Device.maintains_prepare.bind ?_ _ unused
      intro _ _ _ _
      refine (maintains_say _ _).bind ?_
      intro _ _ _ _
      exact (maintains_run migratable isFirst isLast).bind fun _ _ _ _ => Device.maintains_reload
    · rw [if_neg needed]
      have kept : (Work.say .info "GPT matches the current sector size, nothing to do").Maintains
        (Device.Keeps · disk first (last - first)) := maintains_say _ _
      exact kept _ unused
  constructor
  · intro moment member position reached inside
    exact kept.moments moment member position reached (by omega)
  · intro write carried asked
    have apart := kept.requests write carried asked
    unfold Write.Apart at apart
    omega

theorem repair_sampleDisk_keeps_partition : ∃ found,
    (Inspection.ofDisk sampleDisk false).outcome = .ok found ∧
    found.gpt.firstStart? = some 12288 ∧ found.gpt.lastStop? = some 16384 ∧
    ∀ (faults : FaultPlan) (fates : List Fate),
      ∀ moment ∈ ((repairDisk false).run (Device.withFaults sampleDisk faults fates)).2.moments,
        ∀ position, 12288 ≤ position → position < 16384 →
          moment.byteAt position = sampleDisk.byteAt position := by
  obtain ⟨found, _, _, inspected, _, same, _, _⟩ := sampleDisk_migrates
  have isFirst : found.gpt.firstStart? = some 12288 := by
    rw [same]
    decide +kernel
  have isLast : found.gpt.lastStop? = some 16384 := by
    rw [same]
    decide +kernel
  exact ⟨found, inspected, isFirst, isLast,
    fun faults fates => (repair_keeps_partitions inspected isFirst isLast faults fates).1⟩

end TrustBoundary
