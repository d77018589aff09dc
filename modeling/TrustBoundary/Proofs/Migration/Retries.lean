import TrustBoundary.Proofs.Migration.InPlace
import TrustBoundary.Proofs.Migration.Interruption

/-!
# Migrations that are retried

A caller has a migration take one step after the other and goes on with what the last one left,
whether it succeeded or not (`attempts`).  A step in place that fails leaves the migration as it
was, so what the attempts leave is the same as if each of them started from a value that is
replaced by the next one when a step succeeds (`Migration.tryStep`, `Migration.retry`,
`standsAt_attempts`).

The writes of both copies are settled before the first of them is made, since they depend on the
shape of the disk alone (`Agenda`).  So an attempt at a stage can only spoil what the next attempt
writes again: while a copy is being written, the disk agrees with what the stages before have left
outside the writes of that copy (`Agenda.Underway`).  A step keeps to that
(`Agenda.Underway.stepped`), and so does any number of attempts (`Agenda.onCourse_retry`).

Where the writes are never used up, every attempt that fails has cost one of the fates to come, and
every other one leads to the next stage, so the last stage is reached.
-/

set_option autoImplicit false

namespace TrustBoundary

open Work

namespace Migration

/-! ## Trying again -/

/-- How many steps lead from a stage to the last one. -/
def Stage.stepsLeft : Stage → Nat
  | planning => 3
  | writingNonActive _ _ => 2
  | writingActive _ _ => 1
  | finished => 0

theorem Stage.eq_finished {stage : Stage} (done : stage.stepsLeft = 0) : stage = .finished := by
  cases stage with
  | finished => rfl
  | planning | writingNonActive | writingActive => nomatch done

theorem Stage.phase_eq_finished_iff {stage : Stage} :
    stage.phase = .finished ↔ stage = .finished := by
  cases stage <;> simp [phase]

/-- What a step in place has left, whatever came of it. -/
def attempt (bench : Bench) : Bench :=
  match stepInPlace.run bench with
  | .ok _ left => left
  | .error _ left => left

/-- What so many attempts have left, one after the other. -/
def attempts (bench : Bench) : Nat → Bench
  | 0 => bench
  | count + 1 => attempt (attempts bench count)

/-- The same by value: the next migration, or the same one if the step fails. -/
def tryStep (migration : Migration) (device : Device) : Migration × Device :=
  let (report, reached) := migration.step.run device
  match report.outcome with
  | .ok next => (next, reached)
  | .error _ => (migration, reached)

/-- So many attempts by value, each at the step that is next by then. -/
def retry (migration : Migration) (device : Device) : Nat → Migration × Device
  | 0 => (migration, device)
  | count + 1 =>
    let (now, reached) := migration.retry device count
    now.tryStep reached

variable {migration : Migration} {device final : Device}

theorem tryStep_of_succeeds {next : Migration}
    (succeeded : migration.step.Succeeds device next final) :
    migration.tryStep device = (next, final) := by
  obtain ⟨outcome, rfl⟩ := succeeded
  simp only [tryStep, outcome]

theorem tryStep_of_error {halt : Halt DiskError}
    (stopped : (migration.step.run device).1.outcome = .error halt) :
    migration.tryStep device = (migration, (migration.step.run device).2) := by
  simp only [tryStep, stopped]

/-- An attempt in place leads where an attempt by value leads. -/
theorem standsAt_attempt {bench : Bench} (stands : bench.ongoing.StandsAt migration) :
    (attempt bench).ongoing.StandsAt (migration.tryStep bench.device).1 ∧
      (attempt bench).device = (migration.tryStep bench.device).2 := by
  rw [attempt, run_stepInPlace stands, settle]
  cases outcome : (migration.step.run bench.device).1.outcome with
  | ok next =>
      have succeeded : migration.step.Succeeds bench.device next _ := ⟨outcome, rfl⟩
      rw [tryStep_of_succeeds succeeded]
      exact ⟨stands.follow succeeded, rfl⟩
  | error halt =>
      rw [tryStep_of_error outcome]
      exact ⟨stands, rfl⟩

theorem standsAt_attempts {bench : Bench} (stands : bench.ongoing.StandsAt migration)
    (count : Nat) :
    (attempts bench count).ongoing.StandsAt (migration.retry bench.device count).1 ∧
      (attempts bench count).device = (migration.retry bench.device count).2 := by
  induction count with
  | zero => exact ⟨stands, rfl⟩
  | succ count ih =>
      obtain ⟨now, device⟩ := ih
      have next := standsAt_attempt now
      rwa [device] at next

/-- Writing a copy ends as its writes do. -/
theorem ends_writeCopy {location : Gpt.Location} {gpt : Gpt} {writes : List Write}
    {outcome : Except (Halt DiskError) Unit}
    (issued : (copyWrites device.disk gpt migration.old.sectorSize migration.mbr).outcome =
      .ok writes) :
    (migration.writeCopy location gpt).Ends device outcome final ↔
      (writeAll writes).Ends device outcome final := by
  unfold writeCopy installCopy
  rw [Succeeds.ends_bind (succeeds_say.mpr rfl : (Work.say _ _).Succeeds device () device),
    (succeeds_disk.mpr ⟨rfl, rfl⟩).ends_bind, (succeeds_lift.mpr ⟨issued, rfl⟩).ends_bind]

/-- A step adds nothing to what is still to come. -/
theorem maintains_step_spent (migration : Migration) (start : Device) :
    migration.step.Maintains start.Spent := by
  have copying : ∀ location gpt, (migration.writeCopy location gpt).Maintains start.Spent := by
    intro location gpt
    refine (maintains_say _ _).bind ?_
    intro _ _ _ _
    refine maintains_disk.bind ?_
    intro _ _ _ _
    refine (maintains_lift _).bind ?_
    intro _ _ _ _
    exact maintains_writeAll fun write _ => Device.maintains_write_spent write
  unfold step
  cases migration.stage with
  | planning =>
      exact maintains_disk.bind fun _ _ _ _ => (maintains_lift _).bind fun _ _ _ _ =>
        maintains_pure _
  | writingNonActive nonActive active =>
      exact (copying _ _).bind fun _ _ _ _ => maintains_pure _
  | writingActive nonActive active =>
      exact (copying _ _).bind fun _ _ _ _ => maintains_pure _
  | finished => exact maintains_pure _

/-! ## The agenda -/

/-- The copies that a migration of what was found rebuilds, and the writes it makes for them. -/
structure Agenda (found : Inspection) (disk : Disk) where
  nonActive : Gpt
  active : Gpt
  first : List Write
  second : List Write
  nonActiveMade : (rebuild found.gpt found.location.other (geometryOf disk)).outcome = .ok nonActive
  activeMade : (rebuild found.gpt found.location (geometryOf disk)).outcome = .ok active
  firstIssued : (copyWrites disk nonActive found.gpt.sectorSize found.mbr).outcome = .ok first
  secondIssued : (copyWrites disk active found.gpt.sectorSize found.mbr).outcome = .ok second
  firstInside : ∀ write ∈ first, write.offset + write.data.length ≤ disk.size
  secondInside : ∀ write ∈ second, write.offset + write.data.length ≤ disk.size

variable {found : Inspection} {disk : Disk}

namespace Agenda

/-- How far a migration has come, with what it may have left on the disk on the way. -/
inductive Underway (agenda : Agenda found disk) : Migration → Disk → Prop
  | planning {now : Disk} (agrees : now.AgreesOutside disk []) :
      agenda.Underway (ofInspection found) now
  | writingNonActive {now : Disk} (agrees : now.AgreesOutside disk agenda.first) :
      agenda.Underway
        { ofInspection found with stage := .writingNonActive agenda.nonActive agenda.active } now
  | writingActive {now : Disk}
      (agrees : now.AgreesOutside (disk.storeAll agenda.first) agenda.second) :
      agenda.Underway
        { ofInspection found with stage := .writingActive agenda.nonActive agenda.active } now
  | finished {now : Disk}
      (agrees : now.AgreesOutside ((disk.storeAll agenda.first).storeAll agenda.second) []) :
      agenda.Underway { ofInspection found with stage := .finished } now

/-- What a step of a migration comes to. -/
inductive Stepped (agenda : Agenda found disk) (migration : Migration) (device final : Device) :
    Except (Halt DiskError) Migration → Prop
  /-- It leads to the next stage, if there is one. -/
  | advanced {next : Migration} (underway : agenda.Underway next final.disk)
      (closer : next.stage.stepsLeft ≤ migration.stage.stepsLeft - 1) :
      agenda.Stepped migration device final (.ok next)
  /-- A write is refused, which costs a fate unless the writes are used up. -/
  | refused {offset length : Nat} (underway : agenda.Underway migration final.disk)
      (cost : device.faults.writesLeft = none → final.fates.length < device.fates.length) :
      agenda.Stepped migration device final (.error (.refused (.shortWrite offset length 0)))

variable {agenda : Agenda found disk}

/-- An attempt at a copy leads to the next stage, or it can be repeated. -/
theorem stepped_of_writeCopy {location : Gpt.Location} {gpt : Gpt} {base : Disk}
    {writes : List Write}
    {next : Migration} {outcome : Except (Halt DiskError) Migration} (honest : device.Honest)
    (agrees : device.disk.AgreesOutside base writes)
    (issued : (copyWrites base gpt migration.old.sectorSize migration.mbr).outcome = .ok writes)
    (inside : ∀ write ∈ writes, write.offset + write.data.length ≤ base.size)
    (ended : (migration.writeCopy location gpt >>= fun _ => pure next).Ends device outcome final)
    (again : ∀ {now : Disk}, now.AgreesOutside base writes → agenda.Underway migration now)
    (onward : ∀ {now : Disk}, now.AgreesOutside (base.storeAll writes) [] →
      agenda.Underway next now)
    (closer : next.stage.stepsLeft ≤ migration.stage.stepsLeft - 1) :
    agenda.Stepped migration device final outcome := by
  obtain ⟨written, copied, rfl⟩ := ends_bind_pure.mp ended
  rw [← copyWrites_congr agrees.size agrees.sectorSize] at issued
  rw [← agrees.size] at inside
  cases attempted_writeAll honest inside ((ends_writeCopy issued).mp copied) with
  | made stored => exact .advanced (onward (stored ▸ agrees.storeAll)) closer
  | broken _ stored parts cost =>
      exact .refused (again (stored ▸ agrees.storeAll_parts parts)) cost

/-- **A step keeps a migration under way,** whatever becomes of its writes. -/
theorem Underway.stepped {outcome : Except (Halt DiskError) Migration}
    (underway : agenda.Underway migration device.disk) (honest : device.Honest)
    (ended : migration.step.Ends device outcome final) :
    agenda.Stepped migration device final outcome := by
  generalize present : device.disk = now at underway
  cases underway with
  | planning agrees =>
      -- the geometry is all that planning takes from the disk
      have geometry : geometryOf device.disk = geometryOf disk := by
        unfold geometryOf Disk.sectors
        rw [present, agrees.size, agrees.sectorSize]
      have planned : (ofInspection found).step.Succeeds device
          { ofInspection found with stage := .writingNonActive agenda.nonActive agenda.active }
          device := by
        refine (succeeds_step_planning rfl).mpr ⟨agenda.nonActive, agenda.active, ?_, ?_, rfl, rfl⟩
        · rw [geometry]
          exact agenda.nonActiveMade
        · rw [geometry]
          exact agenda.activeMade
      obtain ⟨rfl, rfl⟩ := ended
      rw [planned.1, planned.2]
      exact .advanced (.writingNonActive (present ▸ agrees.outside _)) (Nat.le_refl _)
  | writingNonActive agrees =>
      exact stepped_of_writeCopy honest (present ▸ agrees) agenda.firstIssued
        agenda.firstInside ended
        .writingNonActive (fun everywhere => .writingActive (everywhere.outside _)) (Nat.le_refl _)
  | writingActive agrees =>
      -- the writes are still those that were issued for the disk as it was found
      have issued := agenda.secondIssued
      rw [← copyWrites_congr (Disk.size_storeAll disk agenda.first)
        (Disk.sectorSize_storeAll disk agenda.first)] at issued
      have inside := agenda.secondInside
      rw [← Disk.size_storeAll disk agenda.first] at inside
      exact stepped_of_writeCopy honest (present ▸ agrees) issued inside ended
        .writingActive .finished (Nat.le_refl _)
  | finished agrees =>
      obtain ⟨rfl, rfl⟩ := ended
      exact .advanced (.finished (present ▸ agrees)) (Nat.le_refl _)

/-! ## Any number of attempts -/

/-- Where a migration stands after some attempts that began on a device. -/
structure OnCourse (agenda : Agenda found disk) (start : Device) (count : Nat)
    (migration : Migration) (device : Device) : Prop where
  underway : agenda.Underway migration device.disk
  spent : start.Spent device
  nearer : start.faults.writesLeft = none → migration.stage.stepsLeft = 0 ∨
    migration.stage.stepsLeft + device.fates.length + count ≤ start.fates.length + 3

/-- A further attempt stays on course.  It takes a step or costs a fate. -/
theorem OnCourse.tryStep {start : Device} {count : Nat} (honest : start.Honest)
    (course : agenda.OnCourse start count migration device) :
    agenda.OnCourse start (count + 1) (migration.tryStep device).1
      (migration.tryStep device).2 := by
  have stepped := course.underway.stepped (course.spent.honest honest) ⟨rfl, rfl⟩
  have spent := maintains_step_spent migration start device course.spent
  have fewer := (maintains_step_spent migration device device (.refl device)).fates.length_le
  cases outcome : (migration.step.run device).1.outcome with
  | ok next =>
      rw [outcome] at stepped
      rw [tryStep_of_succeeds ⟨outcome, rfl⟩]
      cases stepped with
      | advanced underway closer =>
          refine ⟨underway, spent, ?_⟩
          intro unlimited
          have nearer := course.nearer unlimited
          dsimp only
          omega
  | error halt =>
      rw [outcome] at stepped
      rw [tryStep_of_error outcome]
      cases stepped with
      | refused underway cost =>
          refine ⟨underway, spent, ?_⟩
          intro unlimited
          have nearer := course.nearer unlimited
          have cost := cost (course.spent.unlimited unlimited)
          dsimp only
          omega

/-- **Attempts stay on course,** as many as there may be. -/
theorem onCourse_retry (agenda : Agenda found disk) {start : Device} (honest : start.Honest)
    (untouched : start.disk = disk) (count : Nat) :
    agenda.OnCourse start count ((ofInspection found).retry start count).1
      ((ofInspection found).retry start count).2 := by
  induction count with
  | zero =>
      have beginning : start.disk.AgreesOutside disk [] := untouched ▸ .refl start.disk []
      refine ⟨.planning beginning, .refl start, fun _ => .inr ?_⟩
      change 3 + start.fates.length + 0 ≤ start.fates.length + 3
      omega
  | succ count ih => exact ih.tryStep honest

/-- A migration that is finished has left what the writes of both copies leave. -/
theorem Underway.agrees_of_finished {now : Disk} (underway : agenda.Underway migration now)
    (finished : migration.stage = .finished) :
    now.AgreesOutside ((disk.storeAll agenda.first).storeAll agenda.second) [] := by
  cases underway with
  | finished agrees => exact agrees
  | planning | writingNonActive | writingActive => nomatch finished

end Agenda

/-- What was found at the other sector size has an agenda if both copies can be rebuilt, and a
migration without failures keeps to it. -/
theorem exists_agenda {lba oldSectors : Nat} {nonActive active : Gpt}
    (migratable : found.Migratable disk lba oldSectors)
    (nonActiveMade : (rebuild found.gpt found.location.other (geometryOf disk)).outcome =
      .ok nonActive)
    (activeMade : (rebuild found.gpt found.location (geometryOf disk)).outcome = .ok active) :
    ∃ (agenda : Agenda found disk) (whole : Device),
      (ofInspection found).run.Succeeds (Device.ofDisk disk) () whole ∧
        whole.disk = (disk.storeAll agenda.first).storeAll agenda.second := by
  obtain ⟨_, _, rebuilt⟩ := rebuild_eq_ok migratable.stored nonActiveMade
  obtain ⟨_, _, rebuiltActive⟩ := rebuild_eq_ok migratable.stored activeMade
  obtain ⟨whole, succeeded, wrote⟩ := run_of_rebuilt migratable nonActiveMade activeMade
    (rfl : (Device.ofDisk disk).disk = disk) rfl rfl
  refine ⟨⟨nonActive, active, _, _, nonActiveMade, activeMade, migratable.copyWrites_eq rebuilt,
    migratable.copyWrites_eq rebuiltActive, ?_, ?_⟩, whole, succeeded, ?_⟩
  · intro write member
    exact (migratable.owns_installation rebuilt write member).2
  · intro write member
    exact (migratable.owns_installation rebuiltActive write member).2
  · rw [wrote.disk, Disk.storeAll_append]
    rfl

/-- **A migration whose steps fail can be retried.**  Let the planning of a migration succeed on a
disk, and let any writes fail when it is then tried step by step, each with any bytes left in its
range.  A step that fails does so with a refusal and leaves the migration as it was, and a step
that succeeds leaves it in the phase that it answers.  Whenever the last phase is reached, the
whole disk is what a migration without failures would have left.  It is reached within three
attempts more than there are fates to come, if the writes are not used up. -/
theorem retry_completes {skipParameterBlock : Bool} {phase : Phase} {planned : Bench}
    (inspected : (Inspection.ofDisk disk skipParameterBlock).outcome = .ok found)
    (needed : found.needsMigration)
    (planning : stepInPlace.run (Bench.start found (Device.ofDisk disk)) = .ok phase planned) :
    ∃ whole, (ofInspection found).run.Succeeds (Device.ofDisk disk) () whole ∧
      ∀ (faults : FaultPlan) (fates : List Fate), (∀ fate ∈ fates, fate.isHonest = true) →
        ∀ count,
          let bench := attempts (Bench.start found (Device.withFaults disk faults fates)) count
          (∀ halt left, stepInPlace.run bench = .error halt left → left.ongoing = bench.ongoing ∧
            ∃ offset length, halt = .refused (.shortWrite offset length 0)) ∧
          (∀ next left, stepInPlace.run bench = .ok next left → left.ongoing.phase = next) ∧
          (bench.ongoing.phase = .finished → bench.device.disk.size = whole.disk.size ∧
            bench.device.disk.sectorSize = whole.disk.sectorSize ∧
            ∀ position, bench.device.disk.byteAt position = whole.disk.byteAt position) ∧
          (faults.writesLeft = none → fates.length + 3 ≤ count →
            bench.ongoing.phase = .finished) := by
  obtain ⟨_, migratable⟩ := (Inspection.ofDisk_eq_ok inspected).migratable needed
  obtain ⟨⟨_, succeeded, _⟩, _⟩ :=
    phase_of_run_stepInPlace (Ongoing.standsAt_start found) planning
  obtain ⟨_, _, nonActiveMade, activeMade, _⟩ := (succeeds_step_planning rfl).mp succeeded
  obtain ⟨agenda, whole, succeeded, left⟩ := exists_agenda migratable nonActiveMade activeMade
  refine ⟨whole, succeeded, fun faults fates honest count => ?_⟩
  have honest : (Device.withFaults disk faults fates).Honest := honest
  intro bench
  -- the attempts by value have come as far as those in place
  let byValue := (ofInspection found).retry (Device.withFaults disk faults fates) count
  obtain ⟨stands, device⟩ : bench.ongoing.StandsAt byValue.1 ∧ bench.device = byValue.2 :=
    standsAt_attempts (Ongoing.standsAt_start found) count
  have course : agenda.OnCourse (Device.withFaults disk faults fates) count byValue.1 byValue.2 :=
    agenda.onCourse_retry honest rfl count
  rw [← device] at course
  refine ⟨?_, ?_, ?_, ?_⟩
  · intro halt left stopped
    obtain ⟨ended, same⟩ := ongoing_of_run_stepInPlace stands stopped
    have stepped := course.underway.stepped (course.spent.honest honest) ended
    refine ⟨same, ?_⟩
    cases stepped
    exact ⟨_, _, rfl⟩
  · exact fun next left stepped => (phase_of_run_stepInPlace stands stepped).2
  · intro finished
    have agrees := course.underway.agrees_of_finished
      (Stage.phase_eq_finished_iff.mp (stands.phase.symm.trans finished))
    rw [← left] at agrees
    exact ⟨agrees.size, agrees.sectorSize, fun position => agrees.byteAt position nofun⟩
  · intro unlimited enough
    have nearer := course.nearer unlimited
    have start : (Device.withFaults disk faults fates).fates = fates := rfl
    rw [start] at nearer
    rw [stands.phase, Stage.phase_eq_finished_iff]
    exact Stage.eq_finished (by omega)

/-- The first write is torn and reported, the second one is carried out, and the third one leaves
nothing. -/
def unluckyFates : List Fate := [.torn [0xFF, 0xFF] true, .stored, .torn [] true]

theorem sampleDisk_retry_completes : ∃ found whole,
    (Inspection.ofDisk sampleDisk false).outcome = .ok found ∧ found.needsMigration ∧
      (ofInspection found).run.Succeeds (Device.ofDisk sampleDisk) () whole ∧
      let bench := attempts
        (Bench.start found (Device.withFaults sampleDisk FaultPlan.none unluckyFates)) 6
      bench.ongoing.phase = .finished ∧
        ∀ position, bench.device.disk.byteAt position = whole.disk.byteAt position := by
  obtain ⟨found, nonActive, active, inspected, needed, _, nonActiveMade, activeMade⟩ :=
    sampleDisk_migrates
  have planning : (ofInspection found).step.Succeeds (Device.ofDisk sampleDisk)
      { ofInspection found with stage := .writingNonActive nonActive active }
      (Device.ofDisk sampleDisk) :=
    (succeeds_step_planning rfl).mpr ⟨nonActive, active, nonActiveMade, activeMade, rfl, rfl⟩
  have stands : (Bench.start found (Device.ofDisk sampleDisk)).ongoing.StandsAt
      (ofInspection found) := Ongoing.standsAt_start found
  obtain ⟨left, planned⟩ := exists_run_stepInPlace stands planning
  obtain ⟨whole, succeeded, retried⟩ := retry_completes inspected needed planned
  obtain ⟨_, _, agrees, finished⟩ := retried FaultPlan.none unluckyFates (by decide) 6
  have done := finished rfl (Nat.le_refl _)
  exact ⟨found, whole, inspected, needed, succeeded, done, (agrees done).2.2⟩

end Migration

end TrustBoundary
