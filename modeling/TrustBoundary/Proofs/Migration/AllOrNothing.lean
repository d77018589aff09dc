import TrustBoundary.CommandLine.Tool
import TrustBoundary.Proofs.Migration.Completion

/-!
# All or nothing

On a device on which nothing fails a repair changes the disk only if it succeeds
(`failing_repair_changes_nothing`).  Both copies are rebuilt before the first write, and a
copy that was rebuilt can be written, since it is valid at its place and its writes lie on
the disk.  So a repair that stops has stopped before its first write
(`stops_repairDisk`), and one that succeeds has made either all the writes of both
copies or none.

A check has no way to write at all (`run_check`).
-/

set_option autoImplicit false

namespace TrustBoundary

open Work Migration

variable {disk : Disk} {device final : Device} {found : Inspection} {lba oldSectors : Nat}
  {skipParameterBlock : Bool}

namespace Migration

/-! ## Migrations that stop -/

/-- Rebuilding both copies does not touch the device. -/
theorem stops_step_planning {migration : Migration} (stage : migration.stage = .planning)
    (stopped : migration.step.Stops device final) : final = device := by
  simp only [step, stage] at stopped
  rw [(succeeds_disk.mpr ⟨rfl, rfl⟩).stops_bind] at stopped
  rcases stops_bind.mp stopped with unplanned | ⟨⟨nonActive, active⟩, _, _, impossible⟩
  · exact unplanned.eq_of_lift
  · exact absurd impossible ((succeeds_pure.mpr ⟨rfl, rfl⟩).not_stops _)

/-- Where no write fails, a migration stops before its first write or not at all. -/
theorem stops_run (migratable : found.Migratable disk lba oldSectors)
    (untouched : device.disk = disk)
    (unlimited : device.faults.writesLeft = none) (untorn : device.fates = [])
    (stopped : (ofInspection found).run.Stops device final) : final = device := by
  have stoppedRun := stopped
  unfold run at stopped
  rcases stops_bind.mp stopped with unplanned | ⟨planned, _, succeeded, _⟩
  · exact stops_step_planning rfl unplanned
  · -- what was planned can be written
    obtain ⟨nonActive, active, nonActiveMade, activeMade, _⟩ :=
      (succeeds_step_planning rfl).mp succeeded
    rw [untouched] at nonActiveMade activeMade
    obtain ⟨_, completed, _⟩ :=
      run_of_rebuilt migratable nonActiveMade activeMade untouched unlimited untorn
    exact absurd stoppedRun (completed.not_stops _)

end Migration

/-! ## Repairs that stop -/

/-- Where nothing fails, a migration of what was found stops before its first write. -/
theorem stops_migrateFound (migratable : found.Migratable disk lba oldSectors)
    (stopped : (migrateFound found).Stops (Device.ofDisk disk) final) :
    final = { Device.ofDisk disk with requests := [.prepare] } := by
  let ready : Device := { Device.ofDisk disk with requests := [.prepare] }
  have prepared : Work.prepare.Succeeds (Device.ofDisk disk) () ready :=
    succeeds_prepare.mpr ⟨rfl, rfl⟩
  have said :
      (Work.say .warn "Found GPT with different sector size, altering").Succeeds ready () ready :=
    succeeds_say.mpr rfl
  unfold migrateFound at stopped
  rw [prepared.stops_bind, said.stops_bind] at stopped
  rcases stops_bind.mp stopped with unfinished | ⟨_, reached, ran, unloaded⟩
  · exact stops_run migratable rfl rfl rfl unfinished
  · obtain ⟨_, _, _, _, _, _, _, _, wrote⟩ := wrote_of_run migratable rfl rfl ran
    have reloaded : Work.reload.Succeeds reached () _ :=
      succeeds_reload.mpr ⟨wrote.reloadFails, rfl⟩
    exact absurd unloaded (reloaded.not_stops _)

/-- Where nothing fails, a repair that stops has at most made ready for writing. -/
theorem stops_repairDisk
    (stopped : (repairDisk skipParameterBlock).Stops (Device.ofDisk disk) final) :
    final = Device.ofDisk disk ∨ final = { Device.ofDisk disk with requests := [.prepare] } := by
  have asked : Work.disk.Succeeds (Device.ofDisk disk) disk (Device.ofDisk disk) :=
    succeeds_disk.mpr ⟨rfl, rfl⟩
  unfold repairDisk at stopped
  rw [asked.stops_bind] at stopped
  rcases stops_bind.mp stopped with unsearched | ⟨found, _, searched, stopped⟩
  · exact .inl unsearched.eq_of_lift
  · obtain ⟨inspected, rfl⟩ := succeeds_lift.mp searched
    split at stopped
    next needed =>
      obtain ⟨_, migratable⟩ := (Inspection.ofDisk_eq_ok inspected).migratable needed
      exact .inr (stops_migrateFound migratable stopped)
    next =>
      have said : (Work.say .info "GPT matches the current sector size, nothing to do").Succeeds
        (Device.ofDisk disk) () (Device.ofDisk disk) := succeeds_say.mpr rfl
      exact absurd stopped (said.not_stops _)

/-! ## Repairs that succeed -/

/-- The requests of a device on which some writes were carried out between making ready and
asking for the new table to be picked up. -/
def completeRequests (writes : List Write) : List Request :=
  .reload :: ((writes.map fun write => .write write true).reverse ++ [.prepare])

/-- What a repair that succeeds has done on a device on which nothing fails. -/
inductive Repaired (disk : Disk) (found : Inspection) (final : Device) : Prop where
  /-- There was nothing to do. -/
  | stable (needless : found.needsMigration = false) (same : final = Device.ofDisk disk)
  /-- Both copies were rebuilt, and all their writes were carried out. -/
  | migrated {nonActive active : Gpt} (needed : found.needsMigration = true)
      (nonActiveMade :
        (rebuild found.gpt found.location.other (geometryOf disk)).outcome = .ok nonActive)
      (activeMade : (rebuild found.gpt found.location (geometryOf disk)).outcome = .ok active)
      (disk_eq : final.disk = disk.storeAll
        (installation disk found.location.other found.mbr nonActive ++
          installation disk found.location found.mbr active))
      (requests_eq : final.requests = completeRequests
        (installation disk found.location.other found.mbr nonActive ++
          installation disk found.location found.mbr active))
      (inside : ∀ write ∈ installation disk found.location.other found.mbr nonActive ++
          installation disk found.location found.mbr active,
        write.offset + write.data.length ≤ disk.size)

/-- A repair that succeeds has inspected the disk. -/
theorem exists_inspection {result : Unit}
    (succeeded : (repairDisk skipParameterBlock).Succeeds device result final) :
    ∃ found, (Inspection.ofDisk device.disk skipParameterBlock).outcome = .ok found := by
  unfold repairDisk at succeeded
  obtain ⟨_, _, asked, succeeded⟩ := succeeds_bind.mp succeeded
  obtain ⟨rfl, rfl⟩ := succeeds_disk.mp asked
  obtain ⟨found, _, searched, _⟩ := succeeds_bind.mp succeeded
  exact ⟨found, (succeeds_lift.mp searched).1⟩

theorem repaired_of_succeeds
    (inspected : (Inspection.ofDisk disk skipParameterBlock).outcome = .ok found)
    (succeeded : (repairDisk skipParameterBlock).Succeeds (Device.ofDisk disk) () final) :
    Repaired disk found final := by
  rcases (succeeds_repairDisk inspected).mp succeeded with ⟨needed, migrated⟩ | ⟨stable, rfl⟩
  · obtain ⟨_, migratable⟩ := (Inspection.ofDisk_eq_ok inspected).migratable needed
    obtain ⟨_, reached, ran, _, rfl⟩ := succeeds_migrateFound.mp migrated
    obtain ⟨_, _, _, _, nonActiveMade, activeMade, rebuilt, rebuiltActive, wrote⟩ :=
      wrote_of_run migratable rfl rfl ran
    refine .migrated needed nonActiveMade activeMade wrote.disk (congrArg _ wrote.requests) ?_
    intro write member
    rcases List.mem_append.mp member with first | second
    · exact (migratable.owns_installation rebuilt write first).2
    · exact (migratable.owns_installation rebuiltActive write second).2
  · exact .stable (Bool.eq_false_iff.mpr stable) rfl

/-! ## Changes and outcomes -/

/-- A check cannot write. -/
theorem run_check {invocation : CommandLine.Invocation} (mode : invocation.mode = .check)
    (device : Device) : ((CommandLine.work invocation).run device).2 = device := by
  have asked : Work.disk.Succeeds device device.disk device := succeeds_disk.mpr ⟨rfl, rfl⟩
  simp only [CommandLine.work, mode]
  rw [asked.run_bind]
  rfl

/-- The writes among the requests of a complete migration were all carried out. -/
theorem mem_completeRequests {writes : List Write} {write : Write} {stored : Bool}
    (asked : .write write stored ∈ completeRequests writes) : stored = true ∧ write ∈ writes := by
  simp only [completeRequests, List.mem_cons, List.mem_append, List.mem_reverse, List.mem_map,
    List.not_mem_nil, reduceCtorEq, or_false, false_or] at asked
  obtain ⟨_, member, same⟩ := asked
  cases same
  exact ⟨rfl, member⟩

/-- **A failing repair changes nothing.**  On a device on which nothing fails, a repair that
does not succeed, for whatever reason, has asked for no write, and the disk never held
anything else.  A repair that succeeds has left the device alone if no migration was needed
and otherwise carried out all the writes of both copies.  Every write that was asked for lies on
the disk and was carried out.  A check never asks for anything. -/
theorem failing_repair_changes_nothing (disk : Disk) (skipParameterBlock : Bool) :
    let report := ((repairDisk skipParameterBlock).run (Device.ofDisk disk)).1
    let final := ((repairDisk skipParameterBlock).run (Device.ofDisk disk)).2
    (report.outcome ≠ .ok () →
        final.moments = [disk] ∧ ∀ write stored, .write write stored ∉ final.requests) ∧
      (report.outcome = .ok () → ∃ found,
        (Inspection.ofDisk disk skipParameterBlock).outcome = .ok found ∧
        Repaired disk found final) ∧
      (∀ write stored, .write write stored ∈ final.requests →
        stored = true ∧ write.offset + write.data.length ≤ disk.size) ∧
      ∀ (invocation : CommandLine.Invocation) (device : Device), invocation.mode = .check →
        ((CommandLine.work invocation).run device).2 = device := by
  intro report final
  have failed : report.outcome ≠ .ok () →
      final.moments = [disk] ∧ ∀ write stored, .write write stored ∉ final.requests := by
    intro unsuccessful
    rcases succeeds_or_stops (repairDisk skipParameterBlock) (Device.ofDisk disk) with
      ⟨_, succeeded⟩ | stopped
    · exact absurd succeeded.1 unsuccessful
    · have silent : ∀ write stored, Request.write write stored ∉ [Request.prepare] := by
        intro _ _ impossible
        exact nomatch List.mem_singleton.mp impossible
      rcases stops_repairDisk stopped with same | same
      · rw [show final = _ from same]
        exact ⟨rfl, fun _ _ => List.not_mem_nil⟩
      · rw [show final = _ from same]
        exact ⟨rfl, silent⟩
  have succeeded : report.outcome = .ok () → ∃ found,
      (Inspection.ofDisk disk skipParameterBlock).outcome = .ok found ∧
      Repaired disk found final := by
    intro successful
    have run : (repairDisk skipParameterBlock).Succeeds (Device.ofDisk disk) () final :=
      ⟨successful, rfl⟩
    obtain ⟨found, inspected⟩ := exists_inspection run
    exact ⟨found, inspected, repaired_of_succeeds inspected run⟩
  refine ⟨failed, succeeded, ?_, fun _ device mode => run_check mode device⟩
  intro write stored asked
  by_cases successful : report.outcome = .ok ()
  · obtain ⟨found, _, repaired⟩ := succeeded successful
    cases repaired with
    | stable _ same =>
        rw [same] at asked
        exact absurd asked List.not_mem_nil
    | migrated _ _ _ _ requests inside =>
        rw [requests] at asked
        obtain ⟨carried, member⟩ := mem_completeRequests asked
        exact ⟨carried, inside write member⟩
  · exact absurd asked ((failed successful).2 write stored)

/-- One disk that is migrated and one that is refused. -/
theorem sampleDisk_is_repaired :
    (∃ found, (Inspection.ofDisk sampleDisk false).outcome = .ok found ∧ found.needsMigration ∧
      Repaired sampleDisk found ((repairDisk false).run (Device.ofDisk sampleDisk)).2) ∧
    ((repairDisk false).run (Device.ofDisk (.blank .small 0))).1.outcome ≠ .ok () ∧
    ((repairDisk false).run (Device.ofDisk (.blank .small 0))).2.moments = [.blank .small 0] := by
  obtain ⟨found, nonActive, active, inspected, needed, _, nonActiveMade, activeMade⟩ :=
    sampleDisk_migrates
  obtain ⟨_, outcome, _⟩ := exists_repair inspected needed nonActiveMade activeMade
  obtain ⟨again, inspectedAgain, repaired⟩ :=
    (failing_repair_changes_nothing sampleDisk false).2.1 outcome
  cases inspected.symm.trans inspectedAgain
  have refused : ((repairDisk false).run (Device.ofDisk (.blank .small 0))).1.outcome ≠ .ok () := by
    intro impossible
    exact nomatch impossible
  exact ⟨⟨found, inspected, needed, repaired⟩, refused,
    ((failing_repair_changes_nothing (.blank .small 0) false).1 refused).1⟩

end TrustBoundary
