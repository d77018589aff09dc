import TrustBoundary.Disk
import TrustBoundary.Migration.Extent

/-!
# Rebuilding a table for another sector size

A partition table is rebuilt so that every partition keeps its bytes while its
sectors are counted anew.  The space in front of the first partition and behind
the last one bounds how many slots the new table may have.  It keeps all slots
if they fit, and otherwise drops unused ones from the end (`newEntryCount`).
The usable range is kept where possible and shrunk where the new table needs
the room (`newHeader`).

A table that cannot be rebuilt is refused for a reason that names the partition
in the way.
-/

set_option autoImplicit false

namespace TrustBoundary.Migration

open Logged (refuseIf require)

/-- The disk that a table is rebuilt for. -/
structure Geometry where
  sectorSize : SectorSize
  sectors : Nat
deriving DecidableEq, Repr

/-- The bytes in front of and behind the partitions. -/
structure Bounds where
  /-- The first partition, with the least start. -/
  first : Extent
  /-- The last partition, with the greatest end. -/
  last : Extent
deriving DecidableEq, Repr

/-- The bounds of the partitions of a table, each of which must fit the new
sector size and lie on the disk. -/
def measureBounds (gpt : Gpt) (newBytes size : Nat) : Logged DiskError Bounds := do
  let extents ← Extent.measure gpt.sectorSize.bytes newBytes gpt.used
  let first ← Extent.first? extents
  let last ← Extent.last? extents
  require (first.start < last.stop)
  require (last.stop ≤ size)
  return { first, last }

/-- Checks that a table with just the used slots fits behind the last partition
and in front of the first one. -/
def checkRoom (bounds : Bounds) (usedTableBytes sectorBytes size : Nat) :
    Logged DiskError Unit := do
  let backupRequired := usedTableBytes + sectorBytes
  let primaryRequired := usedTableBytes + 2 * sectorBytes
  let remaining := size - bounds.last.stop
  refuseIf (remaining < backupRequired)
    (.noRoomForBackup (bounds.last.index + 1) bounds.last.stop remaining backupRequired)
  refuseIf (primaryRequired > bounds.first.start)
    (.noRoomForPrimary (bounds.first.index + 1) bounds.first.start primaryRequired)

/-- The number of slots that fit between the primary header and the first partition and
between the last partition and the backup header, whichever is less. -/
def fittingEntryCount (bounds : Bounds) (sectorBytes size : Nat) : Nat :=
  let behind := size - sectorBytes - bounds.last.stop
  let inFront := bounds.first.start - 2 * sectorBytes
  min behind inFront / Gpt.Entry.width

/-- The number of slots of the new table: the old number, or what fits if that is less. -/
def newEntryCount (gpt : Gpt) (bounds : Bounds) (sectorBytes size : Nat) : Nat :=
  min (fittingEntryCount bounds sectorBytes size) gpt.header.entryCount.toNat

/-- An entry with its sectors counted anew, for the same bytes. -/
def recount (oldBytes newBytes : Nat) (entry : Gpt.Entry) : Gpt.Entry :=
  { entry with
    startingLba := UInt64.ofNat (entry.startingLba.toNat * oldBytes / newBytes)
    endingLba := UInt64.ofNat ((entry.endingLba.toNat + 1) * oldBytes / newBytes - 1) }

/-- The slot of the new table for a slot of the old one.  The sectors of a used
entry are counted anew, and an unused slot is kept as it is. -/
def newSlot (oldBytes newBytes : Nat) (slot : Bytes) : Bytes :=
  if Gpt.Entry.slotIsUnused slot then slot
  else (recount oldBytes newBytes (Gpt.Entry.decode slot)).encode

/-- The new entry array, in whole sectors. -/
def newTable (gpt : Gpt) (entryCount tableBytes newBytes : Nat) : Bytes :=
  let filled :=
    (gpt.allSlots.take entryCount).flatMap (newSlot gpt.sectorSize.bytes newBytes)
  filled ++ Bytes.zeroes (tableBytes - filled.length)

/-- The header of the new copy, with checksums of zero, when its entry array
takes `tableBytes` bytes. -/
def newHeader (gpt : Gpt) (location : Gpt.Location) (geometry : Geometry)
    (entryCount tableBytes : Nat) : Option Gpt.Header := do
  let old := gpt.header
  let oldBytes := gpt.sectorSize.bytes
  let newBytes := geometry.sectorSize.bytes
  let firstOldByte ← Word.mul old.firstUsableLba.toNat oldBytes
  let afterLastUsable ← Word.add old.lastUsableLba.toNat 1
  let firstUnusableOldByte ← Word.mul afterLastUsable oldBytes
  let backupStart ← Word.sub (newBytes * geometry.sectors) (tableBytes + newBytes)
  let firstUsableByte ← geometry.sectorSize.roundUp (max firstOldByte (tableBytes + 2 * newBytes))
  let lastUsableLba ← Word.sub (min firstUnusableOldByte backupStart / newBytes) 1
  let myLba ← location.lba geometry.sectors
  let alternateLba ← location.other.lba geometry.sectors
  let tableLba ←
    match location with
    | .primary => some 2
    | .backup => Word.sub geometry.sectors (1 + tableBytes / newBytes)
  return {
    signature := Gpt.Header.magic
    revision := old.revision
    headerSize := old.headerSize
    headerCrc := 0
    reserved := 0
    myLba := UInt64.ofNat myLba
    alternateLba := UInt64.ofNat alternateLba
    firstUsableLba := UInt64.ofNat (firstUsableByte / newBytes)
    lastUsableLba := UInt64.ofNat lastUsableLba
    diskGuid := old.diskGuid
    tableLba := UInt64.ofNat tableLba
    entryCount := UInt32.ofNat entryCount
    entrySize := old.entrySize
    tableCrc := 0 }

/-- Builds one copy of a table for a disk of another sector size, with every
partition at the same bytes. -/
def rebuild (gpt : Gpt) (location : Gpt.Location) (geometry : Geometry) :
    Logged DiskError Gpt := do
  require (Disk.minimumSectors ≤ geometry.sectors)
  let newBytes := geometry.sectorSize.bytes
  let size ← Word.mul newBytes geometry.sectors
  refuseIf (gpt.header.headerSize.toNat > newBytes)
    (.headerSizeTooLarge gpt.header.headerSize.toNat newBytes)
  let bounds ← measureBounds gpt newBytes size
  let usedTableBytes ← geometry.sectorSize.roundUp (Gpt.Entry.width * gpt.usedEntries)
  checkRoom bounds usedTableBytes newBytes size
  require (gpt.usedEntries ≤ fittingEntryCount bounds newBytes size)
  let entryCount := newEntryCount gpt bounds newBytes size
  let tableBytes ← geometry.sectorSize.roundUp (Gpt.Entry.width * entryCount)
  let header ← newHeader gpt location geometry entryCount tableBytes
  Logged.debug (s!"LBA is {Numeral.hex header.myLba.toNat}, " ++
    s!"alternate LBA is {Numeral.hex header.alternateLba.toNat}, " ++
    s!"allocating {Numeral.hex tableBytes} bytes")
  let table := newTable gpt entryCount tableBytes newBytes
  let rebuilt : Gpt :=
    { header, table, sectorSize := geometry.sectorSize, usedEntries := gpt.usedEntries }
  rebuilt.seal?

end TrustBoundary.Migration
