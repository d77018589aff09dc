import TrustBoundary.DiskError
import TrustBoundary.Disk
import TrustBoundary.Gpt.Basic

/-!
# Validating a header

A header is accepted only if it can be used safely on the disk that it was
found on.  The rules fall into five groups, tried in this order: it is a header
at all and its checksum is right (`checkIdentity`); its entries have the one
supported size (`checkEntrySize`); there are usable sectors (`checkUsable`);
headers, table and usable sectors lie in the order that this copy calls for
(`roomForTable`); and the table fits into the room left for it (`checkTable`).

A header that does not name the sector it was found in is reported and still
accepted, as is a backup copy with a gap between its table and its header.
-/

set_option autoImplicit false

namespace TrustBoundary.Gpt

open Logged (refuseIf)

/-- The greatest number of bytes of an entry array. -/
def greatestTableBytes : Nat := 0x100000

/-- Ends with a refusal of this copy. -/
def reject {α : Type} (defect : Defect) : Logged DiskError α := Logged.refuse (.rejected defect)

/-- Ends with a refusal of this copy if a condition holds. -/
def rejectIf (condition : Prop) [Decidable condition] (defect : Defect) : Logged DiskError Unit :=
  if condition then reject defect else pure ()

/-- Checks that `sector` begins with a header and that its checksum is right. -/
def checkIdentity (header : Header) (sector : Bytes) (sectorSize : SectorSize) :
    Logged DiskError Unit := do
  let headerSize := header.headerSize.toNat
  rejectIf (header.signature ≠ Header.magic) .badSignature
  rejectIf (header.revision ≠ Header.supportedRevision) (.badRevision header.revision.toNat)
  rejectIf (headerSize < Header.width) (.headerTooSmall headerSize)
  rejectIf (headerSize > sectorSize.bytes ∨ headerSize > sector.length)
    (.headerTooLarge headerSize sectorSize.bytes)
  let computed ← Header.checksum sector headerSize
  rejectIf (header.headerCrc ≠ computed) (.badHeaderCrc header.myLba.toNat)

/-- Checks that the entries have the supported size. -/
def checkEntrySize (header : Header) (sectorSize : SectorSize) : Logged DiskError Unit := do
  let entrySize := header.entrySize.toNat
  rejectIf (entrySize < Entry.width) (.entryTooSmall entrySize)
  rejectIf (entrySize > sectorSize.bytes) (.entryTooLarge entrySize sectorSize.bytes)
  refuseIf (entrySize > Entry.width) (.entrySizeUnsupported entrySize)

/-- Checks that there are usable sectors, behind the least place for a table. -/
def checkUsable (header : Header) : Logged DiskError Unit := do
  let first := header.firstUsableLba.toNat
  let last := header.lastUsableLba.toNat
  rejectIf (first < 3) (.firstUsableTooLow first)
  rejectIf (last < first) (.noUsableSpace first last)

/-- The number of sectors that a primary copy has for its table.  It starts at
sector 2 and ends where the usable sectors begin, and the backup header lies
behind the usable sectors and on the disk. -/
def roomForPrimaryTable (header : Header) (sectors : Nat) : Logged DiskError Nat := do
  let tableLba := header.tableLba.toNat
  let lastUsable := header.lastUsableLba.toNat
  let alternate := header.alternateLba.toNat
  rejectIf (tableLba ≠ 2) (.primaryTableMisplaced tableLba)
  rejectIf (lastUsable ≥ alternate) (.alternateOverlapsUsable alternate lastUsable)
  refuseIf (alternate ≥ sectors) (.truncated alternate sectors)
  return header.firstUsableLba.toNat - tableLba

/-- The number of sectors that a backup copy has for its table.  It starts
behind the usable sectors and ends where the copy's own header lies. -/
def roomForBackupTable (header : Header) : Logged DiskError Nat := do
  let tableLba := header.tableLba.toNat
  let lastUsable := header.lastUsableLba.toNat
  let myLba := header.myLba.toNat
  rejectIf (header.alternateLba ≠ 1) (.backupAlternateNotPrimary header.alternateLba.toNat)
  rejectIf (lastUsable ≥ tableLba) (.usableOverlapsBackupTable lastUsable tableLba)
  rejectIf (tableLba ≥ myLba) (.backupTableAfterHeader tableLba myLba)
  return myLba - tableLba

/-- The number of sectors that the copy whose header is at sector `offset` has
for its table.  A copy at sector 1 is the primary one. -/
def roomForTable (header : Header) (offset sectors : Nat) : Logged DiskError Nat :=
  if offset = 1 then roomForPrimaryTable header sectors else roomForBackupTable header

/-- Checks that the entry array is not empty, fits into so many bytes, and is
not absurdly long. -/
def checkTable (header : Header) (availableBytes sectorBytes : Nat) : Logged DiskError Unit := do
  let tableBytes := header.tableBytes
  rejectIf (header.entryCount = 0) .noPartitionEntries
  rejectIf (availableBytes < tableBytes) (.tableDoesNotFit tableBytes availableBytes)
  if header.myLba ≠ 1 ∧ availableBytes - tableBytes ≥ sectorBytes then
    Logged.warn ("backup partition table has too much padding: " ++
      s!"{Numeral.hex (availableBytes - tableBytes)} bytes padding, " ++
      s!"sector size {Numeral.hex sectorBytes}")
  refuseIf (tableBytes > greatestTableBytes) (.tableTooLarge tableBytes)

/-- Validates the header in `sector`, which is sector `offset` of a disk of
`sectors` sectors.  The answer is the number of bytes of its entry array. -/
def checkHeader (sector : Bytes) (offset : Nat) (sectorSize : SectorSize) (sectors : Nat) :
    Logged DiskError Nat := do
  Logged.require (Disk.minimumSectors ≤ sectors)
  Logged.require (offset < sectors)
  let header ← Header.ofSector? sector
  checkIdentity header sector sectorSize
  if header.myLba.toNat ≠ offset then
    Logged.warn s!"header at wrong offset: {header.myLba} != {offset}"
  checkEntrySize header sectorSize
  checkUsable header
  let room ← roomForTable header offset sectors
  checkTable header (min (room * sectorSize.bytes) Word.greatest) sectorSize.bytes
  Logged.debug s!"partition table is {header.tableBytes} bytes long"
  return header.tableBytes

end TrustBoundary.Gpt
