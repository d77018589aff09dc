import TrustBoundary.Gpt.Entry
import TrustBoundary.SectorSize

/-!
# Partition table headers

Each copy of a GUID partition table has a header that says where both headers
and the entry array lie, which sectors partitions may use, and what the
checksums of the header and of the entry array are.  The header takes the first
92 bytes of its sector, and its checksum covers as many bytes of that sector as
the header says, with the checksum's own four bytes counted as zero.
-/

set_option autoImplicit false

namespace TrustBoundary.Gpt

/-- Which of the two copies of a partition table a copy is. -/
inductive Location where
  | primary
  | backup
deriving DecidableEq, Repr

namespace Location

/-- The sector of the header of this copy on a disk of so many sectors. -/
def lba (location : Location) (sectors : Nat) : Option Nat :=
  match location with
  | primary => some 1
  | backup => Word.sub sectors 1

/-- The other copy. -/
def other : Location → Location
  | primary => backup
  | backup => primary

/-- The name of a copy. -/
def name : Location → String
  | primary => "Primary"
  | backup => "Backup"

/-- The primary header lies at sector 1 and the backup header at the last one. -/
theorem lba_eq_some {location : Location} {sectors lba : Nat}
    (here : location.lba sectors = some lba) :
    lba = 1 ∧ location = primary ∨ lba + 1 = sectors ∧ location = backup := by
  cases location with
  | primary => exact .inl ⟨(Option.some_inj.mp here).symm, rfl⟩
  | backup =>
      obtain ⟨enough, same⟩ := Word.sub_eq_some_iff.mp here
      exact .inr ⟨by omega, rfl⟩

/-- Either copy has a place where there is a sector at all. -/
theorem exists_lba (location : Location) {sectors : Nat} (least : 1 ≤ sectors) :
    ∃ lba, location.lba sectors = some lba := by
  cases location with
  | primary => exact ⟨1, rfl⟩
  | backup => exact ⟨sectors - 1, Word.sub_eq_some_iff.mpr ⟨least, rfl⟩⟩

theorem lba_backup {sectors lba : Nat} (here : backup.lba sectors = some lba) : lba = sectors - 1 :=
  (Word.sub_eq_some_iff.mp here).2.symm

end Location

/-- The fields of a header, in the order they are stored. -/
structure Header where
  signature : Vector UInt8 8
  revision : UInt32
  headerSize : UInt32
  headerCrc : UInt32
  reserved : UInt32
  myLba : UInt64
  alternateLba : UInt64
  firstUsableLba : UInt64
  lastUsableLba : UInt64
  diskGuid : Guid
  tableLba : UInt64
  entryCount : UInt32
  entrySize : UInt32
  tableCrc : UInt32
deriving DecidableEq, Repr

namespace Header

/-- The number of bytes of a header. -/
def width : Nat := 92

/-- Where the header's own checksum is stored. -/
def crcOffset : Nat := 16

/-- The signature of every header: the ASCII text EFI PART. -/
def magic : Vector UInt8 8 := #v[0x45, 0x46, 0x49, 0x20, 0x50, 0x41, 0x52, 0x54]

/-- The revision that is supported. -/
def supportedRevision : UInt32 := 0x00010000

/-- The header whose fields are all zero. -/
def zero : Header :=
  ⟨Vector.replicate 8 0, 0, 0, 0, 0, 0, 0, 0, 0, Vector.replicate 16 0, 0, 0, 0, 0⟩

/-- The header that bytes hold. -/
def decode (bytes : Bytes) : Header where
  signature := bytes.blockAt 0 8
  revision := bytes.word32At 8
  headerSize := bytes.word32At 12
  headerCrc := bytes.word32At 16
  reserved := bytes.word32At 20
  myLba := bytes.word64At 24
  alternateLba := bytes.word64At 32
  firstUsableLba := bytes.word64At 40
  lastUsableLba := bytes.word64At 48
  diskGuid := bytes.blockAt 56 16
  tableLba := bytes.word64At 72
  entryCount := bytes.word32At 80
  entrySize := bytes.word32At 84
  tableCrc := bytes.word32At 88

/-- The bytes of a header, each field from its offset on. -/
def fields (header : Header) : List (Nat × Bytes) := [
  (0, header.signature.toList),
  (8, Bytes.littleEndian 4 header.revision.toNat),
  (12, Bytes.littleEndian 4 header.headerSize.toNat),
  (16, Bytes.littleEndian 4 header.headerCrc.toNat),
  (20, Bytes.littleEndian 4 header.reserved.toNat),
  (24, Bytes.littleEndian 8 header.myLba.toNat),
  (32, Bytes.littleEndian 8 header.alternateLba.toNat),
  (40, Bytes.littleEndian 8 header.firstUsableLba.toNat),
  (48, Bytes.littleEndian 8 header.lastUsableLba.toNat),
  (56, header.diskGuid.toList),
  (72, Bytes.littleEndian 8 header.tableLba.toNat),
  (80, Bytes.littleEndian 4 header.entryCount.toNat),
  (84, Bytes.littleEndian 4 header.entrySize.toNat),
  (88, Bytes.littleEndian 4 header.tableCrc.toNat)]

/-- The 92 bytes of a header. -/
def encode (header : Header) : Bytes := (Bytes.zeroes width).overwriteAll header.fields

/-- The header at the start of a sector, if the sector is long enough for one. -/
def ofSector? (sector : Bytes) : Option Header :=
  if sector.length < width then none else some (decode sector)

/-- The number of bytes of the entry array. -/
def tableBytes (header : Header) : Nat := header.entryCount.toNat * header.entrySize.toNat

/-- The checksum over the first `covered` bytes of a header sector, if there are
so many and the stored checksum is among them. -/
def checksum (sector : Bytes) (covered : Nat) : Option UInt32 :=
  if crcOffset + 4 ≤ covered ∧ covered ≤ sector.length then
    some (crc32 (Bytes.overwrite (sector.take covered) crcOffset (Bytes.zeroes 4)))
  else
    none

end Header

end TrustBoundary.Gpt
