import TrustBoundary.Device
import TrustBoundary.Inspection
import TrustBoundary.Migration.CopyWrites
import TrustBoundary.Migration.Rebuild

/-!
# Migrating step by step

A migration moves a table that was found at the old sector size to the disk's
current one.  It rebuilds both copies, then writes the copy that the table was
not read from, and only then the one that it was read from, so that at every
point at least one valid table is on the disk.

A migration is a value that says what is still to be done.  A step that fails
leaves the caller with the migration as it was, so the step can be tried again.
-/

set_option autoImplicit false

namespace TrustBoundary

open Gpt (Location)

namespace Migration

/-- What is still to be done, with what has been computed for it. -/
inductive Stage where
  /-- Both copies have to be rebuilt. -/
  | planning
  /-- Both rebuilt copies have to be written. -/
  | writingNonActive (nonActive active : Gpt)
  /-- The rebuilt copy has to be written where the table was read from. -/
  | writingActive (nonActive active : Gpt)
  /-- Nothing is left to do. -/
  | finished
deriving DecidableEq, Repr

end Migration

/-- A migration of a table to the sector size of the disk that it lies on. -/
structure Migration where
  /-- The table at the old sector size. -/
  old : Gpt
  /-- The copy that the table was read from. -/
  active : Location
  /-- Sector 0 at the new sector size, checked. -/
  mbr : ProtectiveMbr
  stage : Migration.Stage
deriving DecidableEq, Repr

namespace Migration

/-- The migration of what an inspection found, before its first step. -/
def ofInspection (found : Inspection) : Migration :=
  ⟨found.gpt, found.location, found.mbr, .planning⟩

/-- The geometry that a disk has now. -/
def geometryOf (disk : Disk) : Geometry := ⟨disk.sectorSize, disk.sectors⟩

/-- Rebuilds both copies: the one that the table was not read from, and the one
that it was. -/
def plan (migration : Migration) (disk : Disk) : Logged DiskError (Gpt × Gpt) := do
  let nonActive ← rebuild migration.old migration.active.other (geometryOf disk)
  let active ← rebuild migration.old migration.active (geometryOf disk)
  return (nonActive, active)

/-- Makes the writes that install a rebuilt copy. -/
def installCopy (gpt : Gpt) (oldSectorSize : SectorSize) (mbr : ProtectiveMbr) : Work Unit := do
  let disk ← Work.disk
  let writes ← copyWrites disk gpt oldSectorSize mbr
  Work.writeAll writes

/-- Writes one rebuilt copy. -/
def writeCopy (migration : Migration) (location : Location) (gpt : Gpt) : Work Unit := do
  Work.say .info s!"writing {location.name} GPT for {gpt.sectorSize}-byte sectors"
  installCopy gpt migration.old.sectorSize migration.mbr

/-- Does what the current stage calls for, and gives the migration at the next stage. -/
def step (migration : Migration) : Work Migration := do
  match migration.stage with
  | .planning =>
    let disk ← Work.disk
    let (nonActive, active) ← migration.plan disk
    return { migration with stage := .writingNonActive nonActive active }
  | .writingNonActive nonActive active =>
    migration.writeCopy migration.active.other nonActive
    return { migration with stage := .writingActive nonActive active }
  | .writingActive _ active =>
    migration.writeCopy migration.active active
    return { migration with stage := .finished }
  | .finished => return migration

/-- Takes all steps.  Three of them lead from the first stage to the last one,
and at the last stage a step does nothing. -/
def run (migration : Migration) : Work Unit := do
  let planned ← migration.step
  let halfway ← planned.step
  discard halfway.step

end Migration

/-! ## Checking and repairing -/

/-- Checks that a disk has a partition table for its current sector size. -/
def checkDisk (disk : Disk) (skipParameterBlock : Bool) : Logged DiskError Unit := do
  let found ← Inspection.ofDisk disk skipParameterBlock
  if found.needsMigration then
    Logged.refuse .needsFix
  else
    found.gpt.dump

/-- Migrates a partition table that was found at the other sector size. -/
def migrateFound (found : Inspection) : Work Unit := do
  Work.prepare
  Work.say .warn "Found GPT with different sector size, altering"
  (Migration.ofInspection found).run
  Work.reload

/-- Lays out a partition table that was found at the other sector size for the
current one. -/
def repairDisk (skipParameterBlock : Bool) : Work Unit := do
  let disk ← Work.disk
  let found ← Inspection.ofDisk disk skipParameterBlock
  if found.needsMigration then
    migrateFound found
  else
    Work.say .info "GPT matches the current sector size, nothing to do"

end TrustBoundary
