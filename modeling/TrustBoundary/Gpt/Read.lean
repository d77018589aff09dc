import TrustBoundary.Gpt.Validate

/-!
# Reading a partition table

A copy of a partition table is read from the sector that its header should lie
in, under a sector size that need not be the disk's own.  Nothing is taken on
trust: the header is validated, the entry array is held against its checksum,
and every used entry must lie inside the usable sectors.  A copy without any
used entry is of no use for a repair and is refused.

Reading takes a disk as a value, so it cannot change one.
-/

set_option autoImplicit false

namespace TrustBoundary.Gpt

/-- Checks that a used entry lies inside the usable sectors.  Its start and its
end being in order, the bound on the end bounds the start too. -/
def checkEntry (header : Header) (index : Nat) (entry : Entry) : Logged DiskError Unit := do
  let starting := entry.startingLba.toNat
  let ending := entry.endingLba.toNat
  let firstUsable := header.firstUsableLba.toNat
  let lastUsable := header.lastUsableLba.toNat
  rejectIf (starting > ending) (.entryEndsBeforeStart index starting ending)
  rejectIf (starting < firstUsable) (.entryBeforeFirstUsable index starting firstUsable)
  rejectIf (ending > lastUsable) (.entryAfterLastUsable index ending lastUsable)

/-- Checks used entries in order. -/
def checkEntries (header : Header) : List (Nat × Entry) → Logged DiskError Unit
  | [] => pure ()
  | (index, entry) :: others => do
    checkEntry header index entry
    checkEntries header others

/-- Checks that a header may be looked for at a sector.  Sectors 2 to 4 cannot
hold one, since a boot record, a primary copy, a usable sector and a backup
table lie in front of every backup header. -/
def checkOffset (offset sectors : Nat) : Logged DiskError Unit := do
  rejectIf (offset ≥ sectors) (.offsetPastEnd offset sectors)
  rejectIf (offset ≠ 1 ∧ offset < 5) (.invalidOffset offset)

/-- Reads the entry array that a header describes, in whole sectors. -/
def readTable (disk : Disk) (header : Header) (tableBytes : Nat) (sectorSize : SectorSize) :
    Logged DiskError Bytes := do
  let wholeSectors ← sectorSize.roundUp tableBytes
  let start ← Word.mul header.tableLba.toNat sectorSize.bytes
  let table ← disk.load start wholeSectors
  rejectIf (header.tableCrc ≠ crc32 (table.take tableBytes)) (.badEntryCrc header.tableLba.toNat)
  return table

/-- Reads the copy whose header is at sector `offset`, with the disk taken as
`sectors` sectors of the given size. -/
def read (disk : Disk) (offset : Nat) (sectorSize : SectorSize) (sectors : Nat) :
    Logged DiskError Gpt := do
  checkOffset offset sectors
  let start ← Word.mul offset sectorSize.bytes
  let sector ← disk.load start sectorSize.bytes
  let tableBytes ← checkHeader sector offset sectorSize sectors
  let header ← Header.ofSector? sector
  let table ← readTable disk header tableBytes sectorSize
  let used := usedFrom 0 (slots header.entryCount.toNat table)
  checkEntries header used
  match used.getLast? with
  | none => Logged.refuse .noUsedPartitions
  | some (index, _) => return { header, table, sectorSize, usedEntries := index + 1 }

end TrustBoundary.Gpt
