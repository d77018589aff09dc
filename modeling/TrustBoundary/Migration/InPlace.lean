import TrustBoundary.Migration.Steps

/-!
# Migrating in place

A caller holds a migration and has it take one step after the other.  A step may
end at each of its writes, and what it changed in the migration before it ends
stays changed, like what it wrote to the disk.  So whether a step that failed can
be taken once more depends on the order of these changes: the rebuilt copies are
kept only when there are both of them, and the phase moves on behind the last
write of a step.
-/

set_option autoImplicit false

namespace TrustBoundary.Migration

open Gpt (Location)

/-- What is to be done next. -/
inductive Phase where
  /-- Both copies have to be rebuilt. -/
  | planning
  /-- The rebuilt copy has to be written where the table was not read from. -/
  | writingNonActive
  /-- The rebuilt copy has to be written where the table was read from. -/
  | writingActive
  /-- Nothing is left to do. -/
  | finished
deriving DecidableEq, Repr

/-- A migration as its caller holds it. -/
structure Ongoing where
  /-- The table at the old sector size. -/
  old : Gpt
  /-- The copy that the table was read from. -/
  active : Location
  /-- Sector 0 at the new sector size, checked. -/
  mbr : ProtectiveMbr
  phase : Phase
  /-- The rebuilt copies, once there are any: the one for the place that the table was not read
  from, and the one for the other place. -/
  copies : Option (Gpt × Gpt)
deriving DecidableEq, Repr

namespace Ongoing

/-- The migration of what an inspection found, before its first step. -/
def start (found : Inspection) : Ongoing :=
  ⟨found.gpt, found.location, found.mbr, .planning, none⟩

/-- Writes one rebuilt copy. -/
def writeCopy (ongoing : Ongoing) (location : Location) (gpt : Gpt) : Work Unit := do
  Work.say .info s!"writing {location.name} GPT for {gpt.sectorSize}-byte sectors"
  installCopy gpt ongoing.old.sectorSize ongoing.mbr

end Ongoing

/-- A migration that is worked on, the device that it writes to, and what was reported meanwhile,
oldest first. -/
structure Bench where
  ongoing : Ongoing
  device : Device
  lines : List LogLine

/-- The migration of what an inspection found, with a device to write to. -/
def Bench.start (found : Inspection) (device : Device) : Bench := ⟨.start found, device, []⟩

/-- Work on a migration where it is.  It ends with a value or without one, and in either case with
the migration and the device as they were left. -/
abbrev InPlace (α : Type) : Type := EStateM (Halt DiskError) Bench α

namespace InPlace

/-- Work on the device that does not touch the migration. -/
instance : MonadLift Work InPlace where
  monadLift work bench :=
    let (report, device) := work.run bench.device
    let reached := { bench with device, lines := bench.lines ++ report.lines }
    match report.outcome with
    | .ok value => .ok value reached
    | .error halt => .error halt reached

/-- The migration as it is now. -/
def current : InPlace Ongoing := return (← get).ongoing

/-- The rebuilt copies, of which there must be some by now. -/
def rebuilt : InPlace (Gpt × Gpt) := fun bench =>
  match bench.ongoing.copies with
  | some copies => .ok copies bench
  | none => .error .fault bench

/-- Keeps the rebuilt copies. -/
def keep (copies : Gpt × Gpt) : InPlace Unit :=
  modify fun bench => { bench with ongoing.copies := some copies }

/-- Moves on to a phase. -/
def enter (phase : Phase) : InPlace Unit :=
  modify fun bench => { bench with ongoing.phase := phase }

end InPlace

/-- Does what the current phase calls for and moves on to the next phase, which is the answer. -/
def stepInPlace : InPlace Phase := do
  let ongoing ← InPlace.current
  let next ←
    match ongoing.phase with
    | .planning => do
      let disk ← Work.disk
      let nonActive ← rebuild ongoing.old ongoing.active.other (geometryOf disk)
      let active ← rebuild ongoing.old ongoing.active (geometryOf disk)
      InPlace.keep (nonActive, active)
      pure Phase.writingNonActive
    | .writingNonActive => do
      let (nonActive, _) ← InPlace.rebuilt
      ongoing.writeCopy ongoing.active.other nonActive
      pure .writingActive
    | .writingActive => do
      let (_, active) ← InPlace.rebuilt
      ongoing.writeCopy ongoing.active active
      pure .finished
    | .finished => pure .finished
  InPlace.enter next
  return next

end TrustBoundary.Migration
