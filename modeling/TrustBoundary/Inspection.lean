import TrustBoundary.Gpt.Read
import TrustBoundary.Mbr

/-!
# What is on a disk

Inspecting a disk checks its protective master boot record and looks for a
partition table, first at the disk's own sector size and then at the other one,
and at either size first for the primary and then for the backup copy.  A copy
that is merely defective sends the search on.  A table that was found at the
other sector size has to be migrated.

Inspection takes the disk as a value: it reads and reports, and cannot write.
-/

set_option autoImplicit false

namespace TrustBoundary

open Gpt (Location)

/-- What was found on a disk. -/
structure Inspection where
  /-- Sector 0, with its size corrected. -/
  mbr : ProtectiveMbr
  sectors : Nat
  gpt : Gpt
  /-- The copy that the table was read from. -/
  location : Location
  /-- Whether the table was found at the other sector size. -/
  needsMigration : Bool
deriving DecidableEq, Repr

namespace Inspection

/-- What an attempt to read a copy means for the search: a table, or nothing
here, or an end. -/
def verdict (location : Location) (sectorSize : SectorSize)
    (attempt : Except (Halt DiskError) Gpt) : Logged DiskError (Option Gpt) :=
  match attempt with
  | .ok gpt => do
    Logged.debug s!"found valid {location.name} GPT for {sectorSize}-byte sectors"
    return some gpt
  | .error .fault => Logged.fault
  | .error (.refused (.rejected .badSignature)) => do
    Logged.debug s!"no {location.name} GPT for {sectorSize}-byte sectors"
    return none
  | .error (.refused (.rejected defect)) => do
    Logged.warn s!"{location.name} GPT for {sectorSize}-byte sectors: {defect.message}"
    return none
  | .error (.refused reason) => Logged.refuse reason

/-- Tries to read one copy. -/
def tryCopy (disk : Disk) (location : Location) (sectorSize : SectorSize) (sectors : Nat) :
    Logged DiskError (Option Gpt) := do
  let lba ← location.lba sectors
  let attempt := Gpt.read disk lba sectorSize sectors
  Logged.after attempt.lines (verdict location sectorSize attempt.outcome)

/-- Tries the primary copy and then the backup copy. -/
def findCopy (disk : Disk) (sectorSize : SectorSize) (sectors : Nat) :
    Logged DiskError (Option (Gpt × Location)) := do
  match ← tryCopy disk .primary sectorSize sectors with
  | some gpt => return some (gpt, .primary)
  | none =>
    match ← tryCopy disk .backup sectorSize sectors with
    | some gpt => return some (gpt, .backup)
    | none => return none

/-- The number of sectors of the other size, if the disk may hold a table of
that size. -/
def otherSectors (disk : Disk) : Logged DiskError Nat := do
  Logged.refuseIf (disk.size % SectorSize.large.bytes ≠ 0) (.sizeNotMultipleOf4096 disk.size)
  let sectorSize := disk.sectorSize.other
  let sectors := disk.size / sectorSize.bytes
  if sectors < Disk.minimumSectors then
    Logged.debug s!"too small for a GPT with {sectorSize}-byte sectors"
    Logged.refuse .noValidGpt
  else
    return sectors

/-- Checks sector 0 and returns it with its size corrected. -/
def checkMbr (disk : Disk) (sectors : Nat) (skipParameterBlock : Bool) :
    Logged DiskError ProtectiveMbr := do
  let found ← ProtectiveMbr.read disk
  let mbr ← found.check sectors skipParameterBlock
  Logged.debug (s!"sector size is {disk.sectorSize}, " ++
    s!"device size is {Numeral.hex disk.size}, {Numeral.hex sectors} sectors")
  return mbr

/-- Inspects a disk. -/
def ofDisk (disk : Disk) (skipParameterBlock : Bool) : Logged DiskError Inspection := do
  let sectors ← disk.checkedSectors
  let mbr ← checkMbr disk sectors skipParameterBlock
  match ← findCopy disk disk.sectorSize sectors with
  | some (gpt, location) => return { mbr, sectors, gpt, location, needsMigration := false }
  | none =>
    let oldSectors ← otherSectors disk
    match ← findCopy disk disk.sectorSize.other oldSectors with
    | some (gpt, location) => return { mbr, sectors, gpt, location, needsMigration := true }
    | none => Logged.refuse .noValidGpt

end Inspection

end TrustBoundary
