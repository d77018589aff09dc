import TrustBoundary.Mbr

/-!
# Checking a boot record where it is

A caller that holds sector 0 in a buffer has the boot record checked and corrected
in that buffer.  Such work may end at each of its steps, and what it changed before
it ends stays changed.  So it is not enough that a refused record has no corrected
one: the buffer itself has to be as it was, and that depends on the order of the
steps.
-/

set_option autoImplicit false

namespace TrustBoundary.ProtectiveMbr

/-- A boot record that is worked on, and what was reported meanwhile, oldest first. -/
structure Buffer where
  mbr : ProtectiveMbr
  lines : List LogLine
deriving DecidableEq, Repr

/-- Work on a boot record in its buffer.  It ends with a value or without one, and in either
case with the buffer as it was left. -/
abbrev InPlace (α : Type) : Type := EStateM (Halt DiskError) Buffer α

namespace InPlace

/-- A computation that does not touch the record. -/
instance : MonadLift (Logged DiskError) InPlace where
  monadLift report buffer :=
    let reported := { buffer with lines := buffer.lines ++ report.lines }
    match report.outcome with
    | .ok value => .ok value reported
    | .error halt => .error halt reported

/-- The record as it is now. -/
def current : InPlace ProtectiveMbr := return (← get).mbr

/-- Reports one line. -/
def say (level : Level) (text : String) : InPlace Unit :=
  (Logged.say level text : Logged DiskError Unit)

/-- Stores a partition record. -/
def setRecord (index : Nat) (record : MbrRecord) : InPlace Unit := fun buffer =>
  match buffer.mbr.setRecord? index record with
  | some mbr => .ok () { buffer with mbr }
  | none => .error .fault buffer

end InPlace

/-- Gives the first record the size that covers the disk. -/
def coverInPlace (sectors : Nat) : InPlace Unit := do
  let first := (← InPlace.current).record 0
  let expected ← MbrRecord.coveringSize sectors
  if first.sizeInLba = expected then
    return ()
  else
    InPlace.say .debug ("protective MBR does not cover whole disk: " ++
      s!"size in LBA is {first.sizeInLba}, expected {expected}")
    InPlace.setRecord 0 { first with sizeInLba := expected }

/-- Checks that the buffer holds a genuine protective master boot record for a disk of so many
sectors, and corrects a stale size. -/
def checkInPlace (sectors : Nat) (skipParameterBlock : Bool) : InPlace Unit := do
  let mbr ← InPlace.current
  Logged.refuseIf (mbr.signature ≠ magic)
    (DiskError.badMbrSignature (mbr.signature.byteAt 0).toNat (mbr.signature.byteAt 1).toNat)
  let first := mbr.record 0
  Logged.refuseIf (first.osType ≠ MbrRecord.protectiveType)
    (DiskError.mbrNotProtective first.osType.toNat)
  mbr.checkOtherRecords
  Logged.refuseIf (first.startingLba ≠ 1) (DiskError.mbrBadStartingLba first.startingLba.toNat)
  if skipParameterBlock then
    InPlace.say .warn "not checking for a BIOS Parameter Block"
  else
    Logged.refuseIf mbr.hasParameterBlock DiskError.bpbPresent
  coverInPlace sectors

end TrustBoundary.ProtectiveMbr
