import TrustBoundary.Gpt.Validate
import TrustBoundary.Mbr

/-!
# What has to be written for one copy

Installing a rebuilt copy takes a short list of writes of whole sectors, fixed
before the first of them is made.  First come writes that blank headers of the
old sector size which could otherwise still be found (`blankingWrites`).  One of
these is the old header of the very copy that is installed, so from the first
write on this copy is neither the old one nor a new one.  The entry array comes
next and the header last, so that a new header is found only where the whole
new copy is.  In the meantime it is the other copy that can be read.

Next to the backup header the last 4096 bytes are blanked.  At the front, the
boot record's own sector covers the old header when sectors are large.  When
they are small the boot record is followed by a blank sector, and the 4096
bytes of the old header's large sector are blanked too.
-/

set_option autoImplicit false

namespace TrustBoundary.Migration

open Logged (require)

/-- The number of bytes blanked where a header of large sectors may lie. -/
def staleHeaderBytes : Nat := 4096

/-- The writes in front of those for the entry array and the header of a copy
whose header lies at sector `myLba`. -/
def blankingWrites (disk : Disk) (myLba : Nat) (oldSectorSize : SectorSize)
    (mbr : ProtectiveMbr) : Option (List Write) :=
  if myLba = disk.sectors - 1 then do
    let offset ← Word.sub disk.size staleHeaderBytes
    return [⟨offset, Bytes.zeroes staleHeaderBytes⟩]
  else if myLba = 1 then
    match disk.sectorSize, oldSectorSize with
    | .large, .small => some [⟨0, mbr.sector⟩]
    | .small, .large =>
      some [⟨0, mbr.sector.take SectorSize.small.bytes⟩,
        ⟨SectorSize.small.bytes, Bytes.zeroes SectorSize.small.bytes⟩,
        ⟨staleHeaderBytes, Bytes.zeroes staleHeaderBytes⟩]
    | _, _ => none
  else
    none

/-- The writes that install a rebuilt copy on a disk.  The copy must be valid
for that disk. -/
def copyWrites (disk : Disk) (gpt : Gpt) (oldSectorSize : SectorSize) (mbr : ProtectiveMbr) :
    Logged DiskError (List Write) := do
  let sectorBytes := disk.sectorSize.bytes
  let myLba := gpt.header.myLba.toNat
  require (gpt.sectorSize = disk.sectorSize)
  let verdict := Gpt.checkHeader gpt.headerSector myLba disk.sectorSize disk.sectors
  Logged.after verdict.lines (require verdict.outcome.isOk)
  gpt.dump
  let blanking ← blankingWrites disk myLba oldSectorSize mbr
  let tableOffset ← Word.mul gpt.header.tableLba.toNat sectorBytes
  let headerOffset ← Word.mul myLba sectorBytes
  return blanking ++ [⟨tableOffset, gpt.table⟩, ⟨headerOffset, gpt.headerSector⟩]

end TrustBoundary.Migration
