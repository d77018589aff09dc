import TrustBoundary.Disk
import TrustBoundary.Logging

/-!
# The protective master boot record

Sector 0 of a disk with a GUID partition table holds a master boot record whose
first partition record covers the whole disk, so that tools which know nothing
else leave the disk alone.  Only its first 512 bytes mean anything.  A larger
sector is kept with zeroes behind them, so writing it back blanks whatever was
there.

`ProtectiveMbr.check` accepts exactly the genuine ones.  The size that the
first record gives may be stale, and the checked record comes back with the
size that it ought to have.  A disk whose boot record describes a FAT or NTFS
volume is refused unless the caller insists.
-/

set_option autoImplicit false

namespace TrustBoundary

/-! ## Partition records -/

/-- A partition record of a master boot record. -/
structure MbrRecord where
  bootIndicator : UInt8
  startingChs : Vector UInt8 3
  osType : UInt8
  endingChs : Vector UInt8 3
  startingLba : UInt32
  sizeInLba : UInt32
deriving DecidableEq, Repr

namespace MbrRecord

/-- The number of bytes of a partition record. -/
def width : Nat := 16

/-- The partition record that bytes hold. -/
def decode (bytes : Bytes) : MbrRecord where
  bootIndicator := bytes.byteAt 0
  startingChs := bytes.blockAt 1 3
  osType := bytes.byteAt 4
  endingChs := bytes.blockAt 5 3
  startingLba := bytes.word32At 8
  sizeInLba := bytes.word32At 12

/-- The bytes of a partition record, each field from its offset on. -/
def fields (record : MbrRecord) : List (Nat × Bytes) := [
  (0, [record.bootIndicator]),
  (1, record.startingChs.toList),
  (4, [record.osType]),
  (5, record.endingChs.toList),
  (8, Bytes.littleEndian 4 record.startingLba.toNat),
  (12, Bytes.littleEndian 4 record.sizeInLba.toNat)]

/-- The 16 bytes of a partition record. -/
def encode (record : MbrRecord) : Bytes := (Bytes.zeroes width).overwriteAll record.fields

/-- The record of a partition that does not exist. -/
def zero : MbrRecord := ⟨0, #v[0, 0, 0], 0, #v[0, 0, 0], 0, 0⟩

/-- Whether every field is zero. -/
def isZero (record : MbrRecord) : Bool := record = zero

/-- The type of the record that covers a disk with a GUID partition table. -/
def protectiveType : UInt8 := 0xEE

/-- The size that makes a record cover a disk from sector 1 on: as many sectors
as there are, or as many as 32 bits can count. -/
def coveringSize (sectors : Nat) : Option UInt32 :=
  (Word.sub sectors 1).map fun covered => UInt32.ofNat (min covered 0xFFFFFFFF)

end MbrRecord

/-! ## The sector -/

/-- The content of sector 0. -/
structure ProtectiveMbr where
  /-- The bytes of one whole sector. -/
  sector : Bytes
deriving DecidableEq, Repr

namespace ProtectiveMbr

/-- The number of bytes that mean anything. -/
def width : Nat := 512

/-- Where the partition records begin. -/
def recordsOffset : Nat := 446

/-- Where the signature begins. -/
def signatureOffset : Nat := 510

/-- The two bytes at the end of every master boot record. -/
def magic : Bytes := [0x55, 0xAA]

/-- Where FAT and NTFS volumes describe themselves. -/
def parameterBlockOffset : Nat := 3

/-- How many bytes FAT and NTFS volumes take for that. -/
def parameterBlockWidth : Nat := 11

/-- The content of a sector of at least 512 bytes, with zeroes behind those. -/
def ofSector? (sector : Bytes) : Option ProtectiveMbr :=
  if sector.length < width then none
  else some ⟨sector.take width ++ Bytes.zeroes (sector.length - width)⟩

/-- The two bytes of the signature. -/
def signature (mbr : ProtectiveMbr) : Bytes := mbr.sector.slice signatureOffset 2

/-- Where a partition record begins. -/
def recordOffset (index : Nat) : Nat := recordsOffset + index * MbrRecord.width

/-- The partition record with an index. -/
def record (mbr : ProtectiveMbr) (index : Nat) : MbrRecord :=
  MbrRecord.decode (mbr.sector.drop (recordOffset index))

/-- The same sector with another partition record, if it has room for that index. -/
def setRecord? (mbr : ProtectiveMbr) (index : Nat) (record : MbrRecord) : Option ProtectiveMbr :=
  if recordOffset index + MbrRecord.width ≤ mbr.sector.length then
    some ⟨mbr.sector.overwrite (recordOffset index) record.encode⟩
  else
    none

/-- The record that covers a whole disk. -/
def coveringRecord (sizeInLba : UInt32) : MbrRecord where
  bootIndicator := 0
  startingChs := #v[0x00, 0x02, 0x00]
  osType := MbrRecord.protectiveType
  endingChs := #v[0xFF, 0xFF, 0xFF]
  startingLba := 1
  sizeInLba := sizeInLba

/-- A fresh protective master boot record for a disk of so many sectors. -/
def fresh (sectorSize : SectorSize) (sectors : Nat) : Option ProtectiveMbr := do
  let sizeInLba ← MbrRecord.coveringSize sectors
  let records := (coveringRecord sizeInLba).encode ++ Bytes.zeroes (3 * MbrRecord.width)
  return ⟨Bytes.zeroes recordsOffset ++ records ++ magic ++ Bytes.zeroes (sectorSize.bytes - width)⟩

/-- Reads sector 0 of a disk. -/
def read (disk : Disk) : Logged DiskError ProtectiveMbr := do
  let sector ← disk.load 0 disk.sectorSize.bytes
  ofSector? sector

/-- Whether the bytes of a FAT or NTFS volume's own description are in use. -/
def hasParameterBlock (mbr : ProtectiveMbr) : Bool :=
  !(mbr.sector.slice parameterBlockOffset parameterBlockWidth).allZero

/-- Refuses the first of the records 1 to 3 that is not zero. -/
def checkOtherRecords (mbr : ProtectiveMbr) : Logged DiskError Unit := do
  Logged.refuseIf (¬(mbr.record 1).isZero) (.mbrRecordNotZero 2)
  Logged.refuseIf (¬(mbr.record 2).isZero) (.mbrRecordNotZero 3)
  Logged.refuseIf (¬(mbr.record 3).isZero) (.mbrRecordNotZero 4)

/-- Gives the first record the size that covers the disk. -/
def coverDisk (mbr : ProtectiveMbr) (sectors : Nat) : Logged DiskError ProtectiveMbr := do
  let first := mbr.record 0
  let expected ← MbrRecord.coveringSize sectors
  if first.sizeInLba = expected then
    return mbr
  else
    Logged.debug ("protective MBR does not cover whole disk: " ++
      s!"size in LBA is {first.sizeInLba}, expected {expected}")
    mbr.setRecord? 0 { first with sizeInLba := expected }

/-- Checks that this is a genuine protective master boot record for a disk of so
many sectors, and corrects a stale size. -/
def check (mbr : ProtectiveMbr) (sectors : Nat) (skipParameterBlock : Bool) :
    Logged DiskError ProtectiveMbr := do
  Logged.refuseIf (mbr.signature ≠ magic)
    (.badMbrSignature (mbr.signature.byteAt 0).toNat (mbr.signature.byteAt 1).toNat)
  let first := mbr.record 0
  Logged.refuseIf (first.osType ≠ MbrRecord.protectiveType)
    (.mbrNotProtective first.osType.toNat)
  mbr.checkOtherRecords
  Logged.refuseIf (first.startingLba ≠ 1) (.mbrBadStartingLba first.startingLba.toNat)
  if skipParameterBlock then
    Logged.warn "not checking for a BIOS Parameter Block"
  else
    Logged.refuseIf mbr.hasParameterBlock .bpbPresent
  mbr.coverDisk sectors

end ProtectiveMbr

end TrustBoundary
