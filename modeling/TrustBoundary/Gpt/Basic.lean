import TrustBoundary.Gpt.Entry
import TrustBoundary.Gpt.Header
import TrustBoundary.Logging

/-!
# One copy of a partition table

A copy of a GUID partition table is a header with the entry array that it
describes, at a given sector size.  The array is kept as it lies on the disk:
in whole sectors, with whatever fills the last one.

`Gpt.seal?` computes both checksums anew, the one of the entry array first,
since the header stores it.  `Gpt.fresh` makes a well-formed copy from
scratch.
-/

set_option autoImplicit false

namespace TrustBoundary

/-- A header and its entry array, at a sector size. -/
structure Gpt where
  header : Gpt.Header
  /-- The entry array, in whole sectors. -/
  table : Bytes
  sectorSize : SectorSize
  /-- The index of the last used entry plus one. -/
  usedEntries : Nat
deriving DecidableEq, Repr

namespace Gpt

/-- The slots of the entry array. -/
def allSlots (gpt : Gpt) : List Bytes := slots gpt.header.entryCount.toNat gpt.table

/-- The entry with an index. -/
def entry? (gpt : Gpt) (index : Nat) : Option Entry := gpt.allSlots[index]?.map Entry.decode

/-- The used entries among `slots`, the first of which has the index `index`. -/
def usedFrom : (index : Nat) → (slots : List Bytes) → List (Nat × Entry)
  | _, [] => []
  | index, slot :: others =>
    if Entry.slotIsUnused slot then usedFrom (index + 1) others
    else (index, Entry.decode slot) :: usedFrom (index + 1) others

/-- The used entries with their indices, in order. -/
def used (gpt : Gpt) : List (Nat × Entry) := usedFrom 0 (slots gpt.usedEntries gpt.table)

/-- The header with zeroes behind it, as one sector. -/
def headerSector (gpt : Gpt) : Bytes :=
  gpt.header.encode ++ Bytes.zeroes (gpt.sectorSize.bytes - Header.width)

/-- The checksum of the entry array. -/
def computeTableCrc (gpt : Gpt) : UInt32 := crc32 (gpt.table.take gpt.header.tableBytes)

/-- The checksum of the header. -/
def computeHeaderCrc (gpt : Gpt) : Option UInt32 :=
  Header.checksum gpt.headerSector gpt.header.headerSize.toNat

/-- The same copy with both checksums computed anew. -/
def seal? (gpt : Gpt) : Option Gpt := do
  let counted := { gpt with header.tableCrc := gpt.computeTableCrc }
  let headerCrc ← counted.computeHeaderCrc
  return { counted with header.headerCrc := headerCrc }

/-! ## Fresh copies -/

/-- The index of the last used entry plus one, or zero when none is used. -/
def usedExtent (entries : List Entry) : Nat :=
  (entries.reverse.dropWhile Entry.isUnused).length

/-- The header of a well-formed copy with standard sizes, with checksums of zero. -/
def freshHeader (location : Location) (sectorSize : SectorSize) (sectors : Nat)
    (entryCount : UInt32) (diskGuid : Guid) : Option Header := do
  let tableBytes ← sectorSize.roundUp (entryCount.toNat * Entry.width)
  let tableSectors := tableBytes / sectorSize.bytes
  let myLba ← location.lba sectors
  let alternateLba ← location.other.lba sectors
  let aboveUsable ← Word.sub sectors 2
  let lastUsableLba ← Word.sub aboveUsable tableSectors
  let tableLba ←
    match location with
    | .primary => some 2
    | .backup => Word.sub myLba tableSectors
  return {
    signature := Header.magic
    revision := Header.supportedRevision
    headerSize := UInt32.ofNat Header.width
    headerCrc := 0
    reserved := 0
    myLba := UInt64.ofNat myLba
    alternateLba := UInt64.ofNat alternateLba
    firstUsableLba := UInt64.ofNat (2 + tableSectors)
    lastUsableLba := UInt64.ofNat lastUsableLba
    diskGuid
    tableLba := UInt64.ofNat tableLba
    entryCount
    entrySize := UInt32.ofNat Entry.width
    tableCrc := 0 }

/-- A copy that holds the given entries in its first slots, with its checksums. -/
def fresh (location : Location) (sectorSize : SectorSize) (sectors : Nat) (entryCount : UInt32)
    (diskGuid : Guid) (entries : List Entry) : Option Gpt := do
  guard (entries.length ≤ entryCount.toNat)
  let header ← freshHeader location sectorSize sectors entryCount diskGuid
  let tableBytes ← sectorSize.roundUp header.tableBytes
  let filled := entries.flatMap Entry.encode
  let table := filled ++ Bytes.zeroes (tableBytes - filled.length)
  Gpt.seal? { header, table, sectorSize, usedEntries := usedExtent entries }

/-! ## Reporting

The lines that describe a copy to a reader of the log: the header first, then every used entry
under the number that partitioning tools give it, which is its index plus one. -/

section Report

open Numeral

/-- The lines about a header. -/
def headerLines (header : Header) : List String := [
  "GPT Partition Table Header:",
  s!"  Revision:                 {hexWide 10 header.revision.toNat}",
  s!"  HeaderSize:               {header.headerSize}",
  s!"  HeaderCRC32:              {hexWide 10 header.headerCrc.toNat}",
  s!"  Reserved:                 {header.reserved}",
  s!"  MyLBA:                    {header.myLba}",
  s!"  AlternateLBA:             {header.alternateLba}",
  s!"  FirstUsableLBA:           {header.firstUsableLba}",
  s!"  LastUsableLBA:            {header.lastUsableLba}",
  s!"  DiskGUID:                 {Guid.text header.diskGuid}",
  s!"  PartitionEntryLBA:        {header.tableLba}",
  s!"  NumberOfPartitionEntries: {header.entryCount}",
  s!"  SizeOfPartitionEntry:     {header.entrySize}",
  s!"  PartitionEntryArrayCRC32: {hexWide 10 header.tableCrc.toNat}"]

/-- The lines about a used entry. -/
def entryLines (index : Nat) (entry : Entry) : List String := [
  s!"GPT Partition Table Entry {index + 1}:",
  s!"  PartitionTypeGUID:        {Guid.text entry.typeGuid}",
  s!"  UniquePartitionGUID:      {Guid.text entry.uniqueGuid}",
  s!"  StartingLBA:              {hex entry.startingLba.toNat}",
  s!"  EndingLBA:                {hex entry.endingLba.toNat}",
  s!"  Attributes:               {hexWide 18 entry.attributes.toNat}"]

/-- Reports a copy of a partition table. -/
def dump {ε : Type} (gpt : Gpt) : Logged ε Unit :=
  let texts := headerLines gpt.header ++
    gpt.used.flatMap fun (index, entry) => entryLines index entry
  ⟨texts.map fun text => ⟨.debug, text⟩, .ok ()⟩

end Report

end Gpt

end TrustBoundary
