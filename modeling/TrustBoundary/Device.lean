import TrustBoundary.Disk
import TrustBoundary.Logging

/-!
# Devices that are written to

A device is a disk together with a plan of faults and a record of what was
asked of it besides reading.  The plan says how many more writes succeed, and
whether preparing and reloading fail, so that the behaviour of a repair under
failing hardware can be stated and tested like any other.  Hardware may also
break off in the middle of a write: the fate of a write says what it left in
its range and whether anybody was told.  A device remembers what its disk held
before each write, so that a statement can speak of every moment of a run.

`Work α` is a computation that may write to a device.  It ends as a `Logged`
computation does, with the device that results in every case: what was written
before a refusal or a fault stays written.
-/

set_option autoImplicit false

namespace TrustBoundary

/-- Which requests to a device will fail. -/
structure FaultPlan where
  /-- How many more writes succeed, if not all of them. -/
  writesLeft : Option Nat
  /-- Whether preparing for writing fails. -/
  prepareFails : Bool
  /-- Whether reloading the partition table fails. -/
  reloadFails : Bool
deriving DecidableEq, Repr

/-- The plan in which nothing fails. -/
def FaultPlan.none : FaultPlan := ⟨Option.none, false, false⟩

/-- A request to a device other than reading. -/
inductive Request where
  | prepare
  | reload
  /-- A write, and whether it was carried out. -/
  | write (write : Write) (stored : Bool)
deriving DecidableEq, Repr

/-- What becomes of a write that lies inside the disk. -/
inductive Fate where
  /-- The write is carried out. -/
  | stored
  /-- The range begins with these bytes instead, as far as it has room for them,
  and goes on as it was before.  The failure is reported or goes unnoticed. -/
  | torn (garbage : Bytes) (reported : Bool)
deriving DecidableEq, Repr

namespace Fate

/-- What really arrives on the disk. -/
def landing (fate : Fate) (write : Write) : Write :=
  match fate with
  | stored => write
  | torn garbage _ => { write with data := garbage.take write.data.length }

/-- Whether the write is carried out. -/
def isStored : Fate → Bool
  | stored => true
  | torn _ _ => false

/-- Whether a failure is reported. -/
def isReported : Fate → Bool
  | stored => false
  | torn _ reported => reported

end Fate

/-- A disk that can be written to. -/
structure Device where
  disk : Disk
  faults : FaultPlan
  /-- What becomes of the next writes.  Those past the end of the list are carried out. -/
  fates : List Fate
  /-- The requests so far, newest first. -/
  requests : List Request
  /-- What the disk held before each write so far, newest first. -/
  past : List Disk

namespace Device

/-- A device that was not used yet, with all that will go wrong on it. -/
def withFaults (disk : Disk) (faults : FaultPlan) (fates : List Fate) : Device :=
  ⟨disk, faults, fates, [], []⟩

/-- A device that was not used yet and on which nothing fails. -/
def ofDisk (disk : Disk) : Device := withFaults disk FaultPlan.none []

/-- What the disk holds and has held. -/
def moments (device : Device) : List Disk := device.disk :: device.past

end Device

/-- A computation that may write to a device. -/
def Work (α : Type) : Type := Device → Logged DiskError α × Device

namespace Work

variable {α β : Type}

/-- The outcome of a computation on a device, and the device that results. -/
def run (work : Work α) (device : Device) : Logged DiskError α × Device := work device

instance : Monad Work where
  pure value device := (pure value, device)
  bind first next device :=
    let (report, reached) := first device
    match report.outcome with
    | .error halt => (⟨report.lines, .error halt⟩, reached)
    | .ok value =>
      let (rest, final) := next value reached
      (Logged.after report.lines rest, final)

/-- A computation that does not touch the device. -/
instance : MonadLift (Logged DiskError) Work where
  monadLift report device := (report, device)

/-- The disk as it is now. -/
def disk : Work Disk := fun device => (pure device.disk, device)

/-- Reports one line. -/
def say (level : Level) (text : String) : Work Unit := fun device => (Logged.say level text, device)

/-- Asks the device to get ready for writing. -/
def prepare : Work Unit := fun device =>
  let asked := { device with requests := .prepare :: device.requests }
  (if device.faults.prepareFails then Logged.refuse .readOnly else pure (), asked)

/-- Asks for the new partition table to be picked up.  A disk image has
nobody who would. -/
def reload : Work Unit := fun device =>
  let asked := { device with requests := .reload :: device.requests }
  (if device.faults.reloadFails then
    Logged.refuse (.reloadPartitionTable .busy)
  else
    Logged.debug "disk image has no kernel partition table to reload", asked)

/-- Writes bytes at a position. -/
def write (write : Write) : Work Unit := fun device =>
  let failed := { device with requests := .write write false :: device.requests }
  match device.faults.writesLeft with
  | some 0 => (Logged.refuse (.shortWrite write.offset write.data.length 0), failed)
  | writesLeft =>
    let faults := { device.faults with writesLeft := writesLeft.map (· - 1) }
    match device.disk.write write with
    | .error reason => (Logged.refuse reason, { failed with faults })
    | .ok _ =>
      let fate := device.fates.headD .stored
      (if fate.isReported then
        Logged.refuse (.shortWrite write.offset write.data.length 0)
      else
        pure (),
        { disk := device.disk.store (fate.landing write)
          faults
          fates := device.fates.tail
          requests := .write write fate.isStored :: device.requests
          past := device.disk :: device.past })

/-- Writes one after the other, up to the first that fails. -/
def writeAll : List Write → Work Unit
  | [] => pure ()
  | first :: others => do
    write first
    writeAll others

end Work

end TrustBoundary
