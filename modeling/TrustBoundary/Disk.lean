import TrustBoundary.Bytes
import TrustBoundary.DiskError
import TrustBoundary.Logging
import TrustBoundary.SectorSize

/-!
# Disks

A disk is a range of bytes with a size and a logical sector size.  Its content
is kept as the patches that were written to it, newest first, over a background
of zeroes, so a disk of any size takes only the room of what was written.

`Disk.byteAt` is the content as a function of the position, and it is the view
that everything else is said in: writing changes exactly the bytes of the
written range (`byteAt_store`), and reading gives the bytes of the range that
is read (`bytesAt_eq`).  A read or write that leaves the disk fails as a whole.
-/

set_option autoImplicit false

namespace TrustBoundary

/-- Bytes to be stored at a position. -/
structure Write where
  offset : Nat
  data : Bytes
deriving DecidableEq, Repr

/-- Bytes that were stored at a position. -/
structure Patch where
  offset : Nat
  data : ByteArray

namespace Patch

/-- The byte that a patch puts at a position, if it reaches there. -/
def byte? (patch : Patch) (position : Nat) : Option UInt8 :=
  if patch.offset ≤ position then
    let index := position - patch.offset
    if inside : index < patch.data.size then some patch.data[index] else none
  else
    none

/-- Whether a patch shares a byte with a range. -/
def overlaps (patch : Patch) (offset count : Nat) : Bool :=
  patch.offset < offset + count && offset < patch.offset + patch.data.size

end Patch

/-- The byte at a position under patches, newest first, over zeroes. -/
def overlay (patches : List Patch) (position : Nat) : UInt8 :=
  match patches with
  | [] => 0
  | patch :: older =>
    match patch.byte? position with
    | some byte => byte
    | none => overlay older position

/-- A range of bytes with a logical sector size. -/
structure Disk where
  sectorSize : SectorSize
  size : Nat
  patches : List Patch

namespace Disk

/-- The least number of sectors that can hold a protective master boot record,
two headers, two tables and one usable sector. -/
def minimumSectors : Nat := 6

/-- A disk of zeroes. -/
def blank (sectorSize : SectorSize) (size : Nat) : Disk := ⟨sectorSize, size, []⟩

/-- The byte at a position. -/
def byteAt (disk : Disk) (position : Nat) : UInt8 := overlay disk.patches position

/-- The number of whole sectors. -/
def sectors (disk : Disk) : Nat := disk.size / disk.sectorSize.bytes

/-- Whether a range lies inside the disk. -/
def holds (disk : Disk) (offset count : Nat) : Bool := offset + count ≤ disk.size

/-- The bytes of a range, whether or not it lies inside the disk.  Only the
patches that reach into the range are consulted. -/
def bytesAt (disk : Disk) (offset count : Nat) : Bytes :=
  let relevant := disk.patches.filter fun patch => patch.overlaps offset count
  (List.range' offset count).map (overlay relevant)

/-- Reads a range. -/
def read (disk : Disk) (offset count : Nat) : Except DiskError Bytes :=
  if disk.holds offset count then
    .ok (disk.bytesAt offset count)
  else
    .error (.shortRead offset count (min (disk.size - offset) count))

/-- The greatest size of a buffer. -/
def greatestBuffer : Nat := Word.signedLimit - 1

/-- Reads a range into a buffer.  Asking for a larger one than there can be is a fault. -/
def load (disk : Disk) (offset count : Nat) : Logged DiskError Bytes := do
  Logged.require (count ≤ greatestBuffer)
  disk.read offset count

/-- The disk after bytes were stored, whether or not they lie inside it. -/
def store (disk : Disk) (write : Write) : Disk :=
  { disk with patches := ⟨write.offset, write.data.toByteArray⟩ :: disk.patches }

/-- Stores bytes at a position. -/
def write (disk : Disk) (write : Write) : Except DiskError Disk :=
  if disk.holds write.offset write.data.length then
    .ok (disk.store write)
  else
    .error (.shortWrite write.offset write.data.length 0)

/-- The number of sectors, if the disk can hold a partition table at all. -/
def checkedSectors (disk : Disk) : Except DiskError Nat :=
  if disk.size ≥ Word.signedLimit then .error (.sizeOverflow disk.size)
  else if disk.size % disk.sectorSize.bytes ≠ 0 then
    .error (.sizeNotSectorMultiple disk.size disk.sectorSize.bytes)
  else if disk.sectors < minimumSectors then .error (.tooFewSectors disk.sectors)
  else .ok disk.sectors

/-! ## Content after a write -/

/-- A patch puts its own bytes at the positions from its offset on. -/
theorem byte?_eq (patch : Patch) (position : Nat) :
    patch.byte? position =
      if patch.offset ≤ position then patch.data.data[position - patch.offset]? else none := by
  unfold Patch.byte?
  split
  · by_cases inside : position - patch.offset < patch.data.size
    · simp only [dif_pos inside]
      rw [ByteArray.getElem_eq_getElem_data, Array.getElem?_eq_getElem]
    · simp only [dif_neg inside]
      rw [eq_comm, Array.getElem?_eq_none_iff]
      exact Nat.le_of_not_lt inside
  · rfl

/-- Storing bytes changes the bytes of the stored range and no others. -/
theorem byteAt_store (disk : Disk) (write : Write) (position : Nat) :
    (disk.store write).byteAt position =
      if write.offset ≤ position then
        (write.data[position - write.offset]?).getD (disk.byteAt position)
      else
        disk.byteAt position := by
  simp only [byteAt, store, overlay, byte?_eq, List.data_toByteArray, List.getElem?_toArray]
  by_cases reached : write.offset ≤ position
  · simp only [if_pos reached]
    cases write.data[position - write.offset]? <;> rfl
  · simp only [if_neg reached]

/-- Reading inside the disk gives the bytes of the range. -/
theorem bytesAt_eq (disk : Disk) (offset count : Nat) :
    disk.bytesAt offset count = (List.range' offset count).map disk.byteAt := by
  unfold bytesAt
  apply List.map_congr_left
  intro position member
  rw [List.mem_range'_1] at member
  show overlay (disk.patches.filter fun patch => patch.overlaps offset count) position =
    overlay disk.patches position
  induction disk.patches with
  | nil => rfl
  | cons patch older ih =>
    rw [List.filter_cons]
    split
    · rw [overlay, overlay, ih]
    · rename_i apart
      have missing : patch.byte? position = none := by
        rw [byte?_eq]
        split
        · rename_i reached
          rw [Array.getElem?_eq_none_iff]
          have sized : patch.data.size = patch.data.data.size := rfl
          simp only [Patch.overlaps, Bool.and_eq_true, decide_eq_true_eq] at apart
          omega
        · rfl
      rw [overlay, missing, ih]

end Disk

end TrustBoundary
