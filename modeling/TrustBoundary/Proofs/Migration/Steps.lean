import TrustBoundary.Migration.Steps
import TrustBoundary.Proofs.Device.Runs

/-!
# The steps of a migration

A migration that runs to its end rebuilds both copies, makes the writes of the
copy that the table was not read from, and then those of the other one
(`succeeds_run`).  All of this depends on the size of the disk and on its sector
size, and not on what the disk holds in the meantime (`copyWrites_congr`).
-/

set_option autoImplicit false

namespace TrustBoundary.Migration

open Work

variable {migration planned : Migration} {device final : Device}

theorem plan_eq_ok_iff {disk : Disk} {nonActive active : Gpt} :
    (migration.plan disk).outcome = .ok (nonActive, active) ↔
      (rebuild migration.old migration.active.other (geometryOf disk)).outcome = .ok nonActive ∧
        (rebuild migration.old migration.active (geometryOf disk)).outcome = .ok active := by
  simp only [plan, Logged.outcome_bind_eq_ok, Logged.outcome_pure_eq_ok, Prod.mk.injEq]
  constructor
  · rintro ⟨_, first, _, second, rfl, rfl⟩
    exact ⟨first, second⟩
  · rintro ⟨first, second⟩
    exact ⟨_, first, _, second, rfl, rfl⟩

/-- The writes of a copy are the same on disks of the same size and sector size. -/
theorem copyWrites_congr {disk other : Disk} (size : other.size = disk.size)
    (sectorSize : other.sectorSize = disk.sectorSize) (gpt : Gpt) (old : SectorSize)
    (mbr : ProtectiveMbr) : copyWrites other gpt old mbr = copyWrites disk gpt old mbr := by
  unfold copyWrites blankingWrites Disk.sectors
  rw [size, sectorSize]

theorem succeeds_installCopy {gpt : Gpt} {old : SectorSize} {mbr : ProtectiveMbr} {result : Unit} :
    (installCopy gpt old mbr).Succeeds device result final ↔
      ∃ writes, (copyWrites device.disk gpt old mbr).outcome = .ok writes ∧
        (writeAll writes).Succeeds device () final := by
  simp only [installCopy, succeeds_bind, succeeds_disk, succeeds_lift]
  constructor
  · rintro ⟨_, _, ⟨rfl, rfl⟩, writes, _, ⟨computed, rfl⟩, written⟩
    exact ⟨writes, computed, written⟩
  · rintro ⟨writes, computed, written⟩
    exact ⟨_, _, ⟨rfl, rfl⟩, writes, _, ⟨computed, rfl⟩, written⟩

theorem succeeds_writeCopy {location : Gpt.Location} {gpt : Gpt} {result : Unit} :
    (migration.writeCopy location gpt).Succeeds device result final ↔
      ∃ writes, (copyWrites device.disk gpt migration.old.sectorSize migration.mbr).outcome =
        .ok writes ∧
        (writeAll writes).Succeeds device () final := by
  simp only [writeCopy, succeeds_bind, succeeds_say, succeeds_installCopy, exists_const,
    exists_eq_left']

/-! ## One step at a time -/

theorem succeeds_step_planning (stage : migration.stage = .planning) :
    migration.step.Succeeds device planned final ↔ ∃ nonActive active,
      (rebuild migration.old migration.active.other (geometryOf device.disk)).outcome =
        .ok nonActive ∧
        (rebuild migration.old migration.active (geometryOf device.disk)).outcome = .ok active ∧
        { migration with stage := .writingNonActive nonActive active } = planned ∧
        device = final := by
  simp only [step, stage, succeeds_bind, succeeds_disk, succeeds_lift, succeeds_pure]
  constructor
  · rintro ⟨_, _, ⟨rfl, rfl⟩, ⟨nonActive, active⟩, _, ⟨computed, rfl⟩, rfl, rfl⟩
    obtain ⟨first, second⟩ := plan_eq_ok_iff.mp computed
    exact ⟨nonActive, active, first, second, rfl, rfl⟩
  · rintro ⟨nonActive, active, first, second, rfl, rfl⟩
    exact ⟨_, _, ⟨rfl, rfl⟩, (nonActive, active), _, ⟨plan_eq_ok_iff.mpr ⟨first, second⟩, rfl⟩,
      rfl, rfl⟩

theorem succeeds_step_writingNonActive {nonActive active : Gpt}
    (stage : migration.stage = .writingNonActive nonActive active) :
    migration.step.Succeeds device planned final ↔ ∃ writes,
      (copyWrites device.disk nonActive migration.old.sectorSize migration.mbr).outcome =
        .ok writes ∧
        (writeAll writes).Succeeds device () final ∧
        { migration with stage := .writingActive nonActive active } = planned := by
  simp only [step, stage, succeeds_bind, succeeds_writeCopy, succeeds_pure]
  constructor
  · rintro ⟨_, _, ⟨writes, computed, written⟩, rfl, rfl⟩
    exact ⟨writes, computed, written, rfl⟩
  · rintro ⟨writes, computed, written, rfl⟩
    exact ⟨(), _, ⟨writes, computed, written⟩, rfl, rfl⟩

theorem succeeds_step_writingActive {nonActive active : Gpt}
    (stage : migration.stage = .writingActive nonActive active) :
    migration.step.Succeeds device planned final ↔ ∃ writes,
      (copyWrites device.disk active migration.old.sectorSize migration.mbr).outcome = .ok writes ∧
        (writeAll writes).Succeeds device () final ∧
        { migration with stage := .finished } = planned := by
  simp only [step, stage, succeeds_bind, succeeds_writeCopy, succeeds_pure]
  constructor
  · rintro ⟨_, _, ⟨writes, computed, written⟩, rfl, rfl⟩
    exact ⟨writes, computed, written, rfl⟩
  · rintro ⟨writes, computed, written, rfl⟩
    exact ⟨(), _, ⟨writes, computed, written⟩, rfl, rfl⟩

/-- **A migration succeeds exactly if both copies can be rebuilt and written,** the
one that the table was not read from first. -/
theorem succeeds_run {found : Inspection} {result : Unit} :
    (ofInspection found).run.Succeeds device result final ↔
      ∃ nonActive active first second middle,
        (rebuild found.gpt found.location.other (geometryOf device.disk)).outcome = .ok nonActive ∧
          (rebuild found.gpt found.location (geometryOf device.disk)).outcome = .ok active ∧
          (copyWrites device.disk nonActive found.gpt.sectorSize found.mbr).outcome = .ok first ∧
          (writeAll first).Succeeds device () middle ∧
          (copyWrites middle.disk active found.gpt.sectorSize found.mbr).outcome = .ok second ∧
          (writeAll second).Succeeds middle () final := by
  unfold run
  rw [succeeds_bind]
  constructor
  · rintro ⟨_, _, planned, succeeded⟩
    obtain ⟨nonActive, active, rebuilt, rebuiltActive, rfl, rfl⟩ :=
      (succeeds_step_planning rfl).mp planned
    obtain ⟨_, middle, halfway, last⟩ := succeeds_bind.mp succeeded
    obtain ⟨first, computed, written, rfl⟩ := (succeeds_step_writingNonActive rfl).mp halfway
    obtain ⟨_, finished⟩ := succeeds_discard.mp last
    obtain ⟨second, computedActive, writtenActive, _⟩ :=
      (succeeds_step_writingActive rfl).mp finished
    exact ⟨nonActive, active, first, second, middle, rebuilt, rebuiltActive, computed, written,
      computedActive, writtenActive⟩
  · rintro ⟨nonActive, active, first, second, middle, rebuilt, rebuiltActive, computed, written,
      computedActive, writtenActive⟩
    have planned : (ofInspection found).step.Succeeds device
        { ofInspection found with stage := .writingNonActive nonActive active } device :=
      (succeeds_step_planning rfl).mpr ⟨nonActive, active, rebuilt, rebuiltActive, rfl, rfl⟩
    have halfway :
        (step { ofInspection found with stage := .writingNonActive nonActive active }).Succeeds
        device { ofInspection found with stage := .writingActive nonActive active } middle :=
      (succeeds_step_writingNonActive rfl).mpr ⟨first, computed, written, rfl⟩
    have finished :
        (step { ofInspection found with stage := .writingActive nonActive active }).Succeeds
        middle { ofInspection found with stage := .finished } final :=
      (succeeds_step_writingActive rfl).mpr ⟨second, computedActive, writtenActive, rfl⟩
    exact ⟨_, _, planned, succeeds_bind.mpr ⟨_, _, halfway, succeeds_discard.mpr ⟨_, finished⟩⟩⟩

end TrustBoundary.Migration
