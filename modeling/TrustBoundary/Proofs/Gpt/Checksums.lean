import TrustBoundary.Proofs.Checksum.Linear
import TrustBoundary.Proofs.Gpt.Sealed

/-!
# Computing the checksums of a copy anew

A copy that was read holds the fields of its header and the whole sectors of its
entry array.  The checksum of the entry array, computed from them, is therefore
the one that the header states (`StoredAt.computeTableCrc_eq`).

The checksum of a header covers as many bytes of its sector as the header says,
and these may be more than the fields take.  Reading accepts whatever lies there,
but the copy does not keep it: computing the checksum anew takes zeroes in its
place.  The result is the checksum that the header states exactly if those bytes
make no difference to it, which is a matter of those bytes alone
(`StoredAt.computeHeaderCrc_eq_iff`).
-/

set_option autoImplicit false

namespace TrustBoundary

namespace Gpt

/-- Writing the header of a sector gives the front of the sector. -/
theorem Header.encode_decode {sector : Bytes} (long : Header.width ≤ sector.length) :
    Header.encode (Header.decode sector) = sector.take Header.width :=
  Header.exact_layout.encode_decode sector long

/-- The checksum of a sector is that of its covered bytes, with the stated checksum blanked. -/
theorem Header.checksum_eq {sector front back : Bytes} {covered : Nat}
    (inside : covered ≤ sector.length) (parts : sector.take covered = front ++ back)
    (wide : Header.crcOffset + 4 ≤ front.length) :
    Header.checksum sector covered =
      some (crc32 (Bytes.overwrite front Header.crcOffset (Bytes.zeroes 4) ++ back)) := by
  have long : front.length ≤ covered := by
    have length := congrArg List.length parts
    rw [List.length_take, List.length_append] at length
    omega
  rw [Header.checksum, if_pos ⟨Nat.le_trans wide long, inside⟩, parts,
    Bytes.overwrite_append back (by rw [Bytes.length_zeroes]; exact wide)]

/-- Blanking the stated checksum of a header forgets it. -/
theorem Header.overwrite_encode_headerCrc (header : Header) (crc : UInt32) :
    Bytes.overwrite (Header.encode { header with headerCrc := crc }) Header.crcOffset
        (Bytes.zeroes 4) =
      Bytes.overwrite header.encode Header.crcOffset (Bytes.zeroes 4) := by
  obtain ⟨front, back, atOffset, encoded⟩ := header.encode_headerCrc
  have blanked : ∀ stated : UInt32,
      Bytes.overwrite (Header.encode { header with headerCrc := stated }) Header.crcOffset
        (Bytes.zeroes 4) = front ++ Bytes.zeroes 4 ++ back := by
    intro stated
    rw [encoded, ← atOffset]
    exact Bytes.overwrite_middle _ (Bytes.length_littleEndian 4 stated.toNat)
  exact (blanked crc).trans (blanked header.headerCrc).symm

/-! ## Stored copies -/

variable {gpt : Gpt} {disk : Disk} {offset sectors : Nat}

/-- The bytes behind the fields of a header that its checksum covers. -/
def coveredTail (gpt : Gpt) (disk : Disk) (offset : Nat) : Bytes :=
  disk.bytesAt (offset * gpt.sectorSize.bytes + Header.width)
    (gpt.header.headerSize.toNat - Header.width)

@[simp] theorem length_coveredTail (gpt : Gpt) (disk : Disk) (offset : Nat) :
    (gpt.coveredTail disk offset).length = gpt.header.headerSize.toNat - Header.width :=
  Disk.length_bytesAt _ _ _

/-- The entry array of a stored copy has the checksum that its header states. -/
theorem StoredAt.computeTableCrc_eq (stored : gpt.StoredAt disk offset sectors) :
    gpt.computeTableCrc = gpt.header.tableCrc :=
  stored.tableCrc.symm

/-- What the checksum of a stored header covers is its fields and the tail. -/
theorem StoredAt.covered_eq (stored : gpt.StoredAt disk offset sectors) :
    (disk.bytesAt (offset * gpt.sectorSize.bytes) gpt.sectorSize.bytes).take
        gpt.header.headerSize.toNat =
      gpt.header.encode ++ gpt.coveredTail disk offset := by
  have wide := stored.accepted.width_le
  have inside := stored.accepted.headerSize_le
  have long : Header.width ≤
      (disk.bytesAt (offset * gpt.sectorSize.bytes) gpt.sectorSize.bytes).length := by
    rw [Disk.length_bytesAt]
    exact Nat.le_trans wide inside
  have fields := Header.encode_decode long
  rw [stored.header_eq] at fields
  have split : Header.width + (gpt.header.headerSize.toNat - Header.width) =
      gpt.header.headerSize.toNat := by omega
  have tail : (disk.bytesAt (offset * gpt.sectorSize.bytes) gpt.sectorSize.bytes).slice Header.width
      (gpt.header.headerSize.toNat - Header.width) = gpt.coveredTail disk offset :=
    Disk.slice_bytesAt disk (Nat.le_trans (Nat.le_of_eq split) inside)
  rw [← split, List.take_add, ← fields]
  exact congrArg (gpt.header.encode ++ ·) tail

/-- What computing the checksum anew covers is the fields and zeroes. -/
theorem take_headerSector (gpt : Gpt) {covered : Nat} (wide : Header.width ≤ covered)
    (inside : covered ≤ gpt.sectorSize.bytes) :
    gpt.headerSector.take covered = gpt.header.encode ++ Bytes.zeroes (covered - Header.width) := by
  rw [headerSector, List.take_append, Header.length_encode,
    List.take_of_length_le (by rw [Header.length_encode]; exact wide)]
  simp only [Bytes.zeroes, List.take_replicate]
  rw [Nat.min_eq_left (by omega)]

/-- **The stated checksum of a header is computed anew** exactly if the bytes that it
covers behind the fields leave an empty checksum register empty. -/
theorem StoredAt.computeHeaderCrc_eq_iff (stored : gpt.StoredAt disk offset sectors) :
    gpt.computeHeaderCrc = some gpt.header.headerCrc ↔
      Checksum.absorb 0 (gpt.coveredTail disk offset) = 0 := by
  have accepted := stored.accepted
  have wide : Header.crcOffset + 4 ≤ gpt.header.encode.length := by
    rw [Header.length_encode]
    decide
  have stated := accepted.checksum
  rw [Header.checksum_eq accepted.headerSize_le_length stored.covered_eq wide] at stated
  have computed := Header.checksum_eq
    (by rw [length_headerSector]; exact accepted.headerSize_le)
    (gpt.take_headerSector accepted.width_le accepted.headerSize_le) wide
  rw [computeHeaderCrc, computed, ← stated, Option.some_inj, ← length_coveredTail gpt disk offset]
  exact crc32_append_eq_iff

/-! ## A header with more behind its fields -/

/-- A partition of two small sectors. -/
def tailedPartition : Entry where
  typeGuid := Vector.replicate 16 0x11
  uniqueGuid := Vector.replicate 16 0xEE
  startingLba := 3
  endingLba := 4
  attributes := 0
  name := Vector.replicate 72 0

/-- One sector of slots, the first of which holds that partition. -/
def tailedTable : Bytes := tailedPartition.encode ++ Bytes.zeroes 384

/-- The header of a primary copy on a disk of eight small sectors, without its
checksum, which covers four bytes more than the fields. -/
def tailedFields : Header where
  signature := Header.magic
  revision := Header.supportedRevision
  headerSize := 96
  headerCrc := 0
  reserved := 0
  myLba := 1
  alternateLba := 7
  firstUsableLba := 3
  lastUsableLba := 5
  diskGuid := Vector.replicate 16 0x5A
  tableLba := 2
  entryCount := 4
  entrySize := 128
  tableCrc := crc32 tailedTable

/-- Those four bytes. -/
def strayBytes : Bytes := [1, 0, 0, 0]

/-- The checksum of the fields and these bytes. -/
def tailedCrc : UInt32 :=
  crc32 (Bytes.overwrite tailedFields.encode Header.crcOffset (Bytes.zeroes 4) ++ strayBytes)

/-- The header with this checksum. -/
def tailedHeader : Header := { tailedFields with headerCrc := tailedCrc }

/-- The sector of that header. -/
def tailedSector : Bytes := tailedHeader.encode ++ strayBytes ++ Bytes.zeroes 416

/-- The copy that this header and these slots make. -/
def tailedGpt : Gpt := ⟨tailedHeader, tailedTable, .small, 1⟩

/-- A disk of eight small sectors with that copy. -/
def tailedDisk : Disk :=
  (Disk.blank .small 4096).storeAll [⟨512, tailedSector⟩, ⟨1024, tailedTable⟩]

theorem tailedDisk_size : tailedDisk.size = 4096 := Disk.size_storeAll _ _

theorem tailedDisk_bytesAt :
    tailedDisk.bytesAt 512 512 = tailedSector ∧ tailedDisk.bytesAt 1024 512 = tailedTable := by
  have sectorLength : tailedSector.length = 512 := by
    rw [tailedSector, List.length_append, List.length_append, Header.length_encode,
      Bytes.length_zeroes]
    rfl
  have tableLength : tailedTable.length = 512 := by
    rw [tailedTable, List.length_append, Entry.length_encode, Bytes.length_zeroes]
    rfl
  have pairwise : [⟨512, tailedSector⟩, ⟨1024, tailedTable⟩].Pairwise
      fun earlier later : Write => later.Apart earlier.offset earlier.data.length := by
    simp [Write.Apart, sectorLength]
  have written := Disk.bytesAt_storeAll_of_pairwise (Disk.blank .small 4096) pairwise
  simp only [List.forall_mem_cons, sectorLength, tableLength] at written
  exact ⟨written.1, written.2.1⟩

theorem tailedSector_checksum : Header.checksum tailedSector 96 = some tailedCrc := by
  have encoded : (tailedHeader.encode ++ strayBytes).length = 96 := by
    rw [List.length_append, Header.length_encode]
    rfl
  have parts : tailedSector.take 96 = tailedHeader.encode ++ strayBytes := List.take_left' encoded
  have inside : 96 ≤ tailedSector.length := by
    rw [tailedSector, List.length_append, encoded]
    exact Nat.le_add_right _ _
  rw [Header.checksum_eq inside parts (by rw [Header.length_encode]; decide), tailedHeader,
    tailedFields.overwrite_encode_headerCrc, tailedCrc]

theorem decode_tailedSector : Header.decode tailedSector = tailedHeader := by
  rw [tailedSector, List.append_assoc]
  exact Header.lossless_layout.decode_encode tailedHeader _

theorem tailedGpt_storedAt : tailedGpt.StoredAt tailedDisk 1 8 := by
  obtain ⟨sector, table⟩ := tailedDisk_bytesAt
  have used : usedFrom 0 tailedGpt.allSlots = [(0, tailedPartition)] := by decide +kernel
  have coherent : tailedGpt.header.Coherent 1 .small 8 :=
    ⟨by decide, by decide, rfl, rfl, by decide, by decide, by decide, by decide, by decide,
      (⟨rfl, by decide, by decide⟩ : Header.PlacedAsPrimary _ _), by decide, by decide, by decide⟩
  have start : 1 * tailedGpt.sectorSize.bytes = 512 := rfl
  have whole : tailedGpt.table.take tailedGpt.header.tableBytes = tailedTable :=
    List.take_of_length_le (by decide +kernel)
  exact {
    possible := .inl rfl
    start_lt := by decide
    header_inside := by rw [tailedDisk_size]; decide
    header_eq := by
      rw [start]
      exact (congrArg Header.decode sector).trans decode_tailedSector
    accepted := by
      refine ⟨coherent, ?_, ?_⟩
      · rw [Disk.length_bytesAt]
        decide
      · rw [start]
        exact (congrArg (Header.checksum · 96) sector).trans tailedSector_checksum
    tableStart_lt := by decide
    table_inside := by rw [tailedDisk_size]; decide
    table_eq := table
    tableCrc := by
      rw [whole]
      rfl
    entries := by
      rw [used]
      intro item member
      rw [List.mem_singleton.mp member]
      decide
    usedEntries := ⟨(0, tailedPartition), by rw [used]; rfl, rfl⟩ }

/-- The copy is found on the disk. -/
theorem read_tailedDisk : (Gpt.read tailedDisk 1 .small 8).outcome = .ok tailedGpt :=
  read_eq_ok_iff.mpr ⟨rfl, tailedGpt_storedAt⟩

theorem tailedGpt_coveredTail : tailedGpt.coveredTail tailedDisk 1 = strayBytes := by
  have sliced : (tailedDisk.bytesAt 512 512).slice Header.width strayBytes.length =
      tailedGpt.coveredTail tailedDisk 1 :=
    Disk.slice_bytesAt tailedDisk (by decide)
  rw [tailedDisk_bytesAt.1, tailedSector, List.append_assoc, Bytes.slice,
    List.drop_left' (Header.length_encode _), List.take_left] at sliced
  exact sliced.symm

/-! ## Copies that were read -/

/-- **The checksums of a copy that was read, computed anew.**  The one of the entry array
is always the stated one, and the one of the header is exactly if the bytes that it
covers behind the fields leave an empty checksum register empty. -/
theorem read_checksums {sectorSize : SectorSize}
    (found : (Gpt.read disk offset sectorSize sectors).outcome = .ok gpt) :
    gpt.computeTableCrc = gpt.header.tableCrc ∧
      (gpt.computeHeaderCrc = some gpt.header.headerCrc ↔
        Checksum.absorb 0 (gpt.coveredTail disk offset) = 0) := by
  obtain ⟨_, stored⟩ := read_eq_ok_iff.mp found
  exact ⟨stored.computeTableCrc_eq, stored.computeHeaderCrc_eq_iff⟩

/-- The checksums of the copy with a tail, computed anew. -/
theorem tailedGpt_checksums :
    (Gpt.read tailedDisk 1 .small 8).outcome = .ok tailedGpt ∧
      tailedGpt.computeTableCrc = tailedGpt.header.tableCrc ∧
      (tailedGpt.computeHeaderCrc = some tailedGpt.header.headerCrc ↔
        Checksum.absorb 0 (tailedGpt.coveredTail tailedDisk 1) = 0) :=
  ⟨read_tailedDisk, read_checksums read_tailedDisk⟩

/-- A copy that is read although its header has another checksum than it states. -/
theorem exists_read_with_other_checksum : ∃ disk offset sectorSize sectors gpt,
    (Gpt.read disk offset sectorSize sectors).outcome = .ok gpt ∧
      gpt.computeHeaderCrc ≠ some gpt.header.headerCrc := by
  refine ⟨tailedDisk, 1, .small, 8, tailedGpt, read_tailedDisk, fun same => ?_⟩
  have vanishes := tailedGpt_storedAt.computeHeaderCrc_eq_iff.mp same
  rw [tailedGpt_coveredTail] at vanishes
  exact absurd vanishes (by decide +kernel)

end Gpt

end TrustBoundary
