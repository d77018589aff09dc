import TrustBoundary.Proofs.Bytes.Lossless
import TrustBoundary.Proofs.Gpt.Stored

/-!
# Sealed copies

A header sector holds a header and reads back as it.  The checksum of a header
does not depend on the checksum that the header states, since its four bytes are
counted as zero (`checksum_headerCrc`).  So the checksum that sealing computes
before it stores it is still right afterwards (`seal?_eq_some`).

Hence a copy that is in order but for its checksums is found where it is written,
once it was sealed (`storedAt_of_seal?`), and it can be written wherever its header and its
entry array lie apart on the disk (`exists_read_of_write`).
-/

set_option autoImplicit false

namespace TrustBoundary

namespace Gpt

/-! ## Header sectors -/

/-- A header sector is one sector long. -/
@[simp] theorem length_headerSector (gpt : Gpt) :
    gpt.headerSector.length = gpt.sectorSize.bytes := by
  have width : Header.width = 92 := rfl
  rw [headerSector, List.length_append, Header.length_encode, Bytes.length_zeroes]
  rcases gpt.sectorSize.bytes_cases with bytes | bytes <;> omega

/-- A header sector reads back as the header. -/
theorem decode_headerSector (gpt : Gpt) : Header.decode gpt.headerSector = gpt.header :=
  Header.lossless_layout.decode_encode gpt.header _

/-- The stated checksum takes four bytes in the middle of a header. -/
theorem Header.encode_headerCrc (header : Header) : ∃ front back : Bytes,
    front.length = Header.crcOffset ∧ ∀ crc : UInt32,
      Header.encode { header with headerCrc := crc } =
        front ++ Bytes.littleEndian 4 crc.toNat ++ back := by
  refine ⟨Bytes.contents (header.fields.take 3), Bytes.contents (header.fields.drop 4), ?_,
    fun crc => ?_⟩
  · simp [Header.fields, Bytes.contents, crcOffset]
  · calc Header.encode { header with headerCrc := crc }
      _ = Bytes.contents (header.fields.take 3 ++ [(16, Bytes.littleEndian 4 crc.toNat)] ++
          header.fields.drop 4) := Header.encode_eq _
      _ = _ := by simp only [Bytes.contents, List.flatMap_append, List.flatMap_singleton]

/-- The checksum of a header sector does not depend on the checksum that it states. -/
theorem checksum_headerCrc (gpt : Gpt) (crc : UInt32) {covered : Nat}
    (enough : Header.crcOffset + 4 ≤ covered) :
    Header.checksum (headerSector { gpt with header.headerCrc := crc }) covered =
      Header.checksum gpt.headerSector covered := by
  obtain ⟨front, back, atOffset, encoded⟩ := gpt.header.encode_headerCrc
  have blanked : ∀ stated : UInt32, Bytes.overwrite
      ((headerSector { gpt with header.headerCrc := stated }).take covered) Header.crcOffset
        (Bytes.zeroes 4) =
      front ++ Bytes.zeroes 4 ++
        (back ++ Bytes.zeroes (gpt.sectorSize.bytes - Header.width)).take
          (covered - (front.length + (Bytes.zeroes 4).length)) := by
    intro stated
    rw [← atOffset, ← Bytes.overwrite_take_middle _ (Bytes.length_littleEndian 4 stated.toNat)
      (by rw [atOffset]; exact enough)]
    simp only [headerSector, encoded, List.append_assoc]
  unfold Header.checksum
  rw [length_headerSector, length_headerSector, blanked crc]
  rw [← blanked gpt.header.headerCrc]

/-! ## Sealing -/

/-- A copy whose header has a sensible size can be sealed. -/
theorem exists_seal? (gpt : Gpt) (enough : Header.crcOffset + 4 ≤ gpt.header.headerSize.toNat)
    (fits : gpt.header.headerSize.toNat ≤ gpt.sectorSize.bytes) :
    ∃ sealed, gpt.seal? = some sealed := by
  refine ⟨_, Option.bind_eq_some_iff.mpr ⟨_, if_pos ⟨enough, ?_⟩, rfl⟩⟩
  rw [length_headerSector]
  exact fits

/-- **A sealed copy has the right checksums,** and is otherwise the same. -/
theorem seal?_eq_some {gpt sealed : Gpt} (made : gpt.seal? = some sealed) :
    ∃ headerCrc, sealed = { gpt with
        header.tableCrc := gpt.computeTableCrc, header.headerCrc := headerCrc } ∧
      Header.checksum sealed.headerSector sealed.header.headerSize.toNat = some headerCrc := by
  simp only [seal?, Option.bind_eq_bind, Option.bind_eq_some_iff] at made
  obtain ⟨crc, computed, made⟩ := made
  cases made
  refine ⟨crc, rfl, ?_⟩
  have enough : Header.crcOffset + 4 ≤ gpt.header.headerSize.toNat := by
    unfold computeHeaderCrc Header.checksum at computed
    split at computed
    · rename_i fits
      exact fits.1
    · exact nomatch computed
  exact (checksum_headerCrc { gpt with header.tableCrc := gpt.computeTableCrc } crc enough).trans
    computed

/-! ## Writing a sealed copy -/

/-- A copy that is in order, its checksums aside, for sector `offset` of a disk. -/
structure InOrder (gpt : Gpt) (offset sectors : Nat) : Prop where
  possible : offset = 1 ∨ 5 ≤ offset
  coherent : gpt.header.Coherent offset gpt.sectorSize sectors
  entries : EntriesUsable gpt.header (usedFrom 0 gpt.allSlots)
  usedEntries : ∃ last, (usedFrom 0 gpt.allSlots).getLast? = some last ∧
    last.1 + 1 = gpt.usedEntries

variable {gpt sealed : Gpt} {disk : Disk} {offset sectors : Nat}

/-- Sealing makes a coherent header one that is accepted. -/
theorem accepted_of_seal? (made : gpt.seal? = some sealed)
    (coherent : gpt.header.Coherent offset gpt.sectorSize sectors) :
    sealed.header.Accepted sealed.headerSector offset sealed.sectorSize sectors := by
  obtain ⟨headerCrc, rfl, checksum⟩ := seal?_eq_some made
  refine ⟨⟨coherent.minimumSectors_le, coherent.offset_lt, coherent.signature, coherent.revision,
    coherent.width_le, coherent.headerSize_le, coherent.entrySize, coherent.firstUsable_ge,
    coherent.firstUsable_le, ?_, coherent.entryCount_ne, coherent.tableBytes_le_room,
    coherent.tableBytes_le⟩, ?_, checksum⟩
  · have placed := coherent.placed
    unfold Header.Placed at placed ⊢
    split at placed <;> rename_i first
    · rw [if_pos first]
      exact ⟨placed.tableLba, placed.alternate_gt, placed.alternate_lt⟩
    · rw [if_neg first]
      exact ⟨placed.alternate, placed.tableLba_gt, placed.tableLba_lt⟩
  · rw [length_headerSector]
    exact coherent.headerSize_le

/-- **A sealed copy is found where it is written.** -/
theorem storedAt_of_seal? (made : gpt.seal? = some sealed) (inOrder : gpt.InOrder offset sectors)
    (whole : sectors * gpt.sectorSize.bytes ≤ disk.size) (small : disk.size < Word.limit)
    (inside : gpt.tableStart + gpt.tableRoom ≤ disk.size)
    (header : disk.bytesAt (offset * gpt.sectorSize.bytes) gpt.sectorSize.bytes =
      sealed.headerSector)
    (table : disk.bytesAt gpt.tableStart gpt.tableRoom = gpt.table) :
    sealed.StoredAt disk offset sectors := by
  have accepted := accepted_of_seal? made inOrder.coherent
  have sectorEnd : offset * gpt.sectorSize.bytes + gpt.sectorSize.bytes ≤ disk.size := by
    rw [← Nat.succ_mul]
    exact Nat.le_trans (Nat.mul_le_mul_right _ inOrder.coherent.offset_lt) whole
  have decoded := decode_headerSector sealed
  obtain ⟨headerCrc, rfl, _⟩ := seal?_eq_some made
  exact {
    possible := inOrder.possible
    start_lt := Nat.lt_of_le_of_lt (Nat.le_trans (Nat.le_add_right _ _) sectorEnd) small
    header_inside := sectorEnd
    header_eq := header ▸ decoded
    accepted := header ▸ accepted
    tableStart_lt := Nat.lt_of_le_of_lt (Nat.le_trans (Nat.le_add_right _ _) inside) small
    table_inside := inside
    table_eq := table
    tableCrc := rfl
    entries := inOrder.entries
    usedEntries := inOrder.usedEntries }

/-- Sealing changes nothing but checksums. -/
theorem eq_of_seal? (made : gpt.seal? = some sealed) :
    sealed.table = gpt.table ∧ sealed.sectorSize = gpt.sectorSize ∧
      sealed.header.tableLba = gpt.header.tableLba ∧ sealed.header.myLba = gpt.header.myLba := by
  obtain ⟨_, rfl, _⟩ := seal?_eq_some made
  exact ⟨rfl, rfl, rfl, rfl⟩

theorem used_of_seal? (made : gpt.seal? = some sealed) : sealed.used = gpt.used := by
  obtain ⟨_, rfl, _⟩ := seal?_eq_some made
  rfl

/-- **A sealed copy can be written and is read back**, if its header and its entry array lie
apart on the disk. -/
theorem exists_read_of_write (made : gpt.seal? = some sealed) (inOrder : gpt.InOrder offset sectors)
    (size : disk.size = sectors * gpt.sectorSize.bytes) (small : disk.size < Word.limit)
    (tableLength : gpt.table.length = gpt.tableRoom)
    (inside : gpt.tableStart + gpt.tableRoom ≤ disk.size)
    (apart : offset * gpt.sectorSize.bytes + gpt.sectorSize.bytes ≤ gpt.tableStart ∨
      gpt.tableStart + gpt.tableRoom ≤ offset * gpt.sectorSize.bytes) :
    ∃ written final,
      disk.write ⟨gpt.tableStart, sealed.table⟩ = .ok written ∧
      written.write ⟨offset * gpt.sectorSize.bytes, sealed.headerSector⟩ = .ok final ∧
      (Gpt.read final offset gpt.sectorSize sectors).outcome = .ok sealed := by
  obtain ⟨sameTable, sameSize, _, _⟩ := eq_of_seal? made
  have headerLength : sealed.headerSector.length = gpt.sectorSize.bytes := by
    rw [length_headerSector, sameSize]
  have headerInside : offset * gpt.sectorSize.bytes + gpt.sectorSize.bytes ≤ disk.size := by
    rw [← Nat.succ_mul, size]
    exact Nat.mul_le_mul_right _ inOrder.coherent.offset_lt
  let tableWrite : Write := ⟨gpt.tableStart, gpt.table⟩
  let headerWrite : Write := ⟨offset * gpt.sectorSize.bytes, sealed.headerSector⟩
  have headerRead : ((disk.store tableWrite).store headerWrite).bytesAt headerWrite.offset
      gpt.sectorSize.bytes = sealed.headerSector := by
    rw [← headerLength]
    exact (disk.store tableWrite).bytesAt_store_self headerWrite
  have tableRead : ((disk.store tableWrite).store headerWrite).bytesAt gpt.tableStart
      gpt.tableRoom = gpt.table := by
    -- the header was written behind the table, and apart from it
    have separate : headerWrite.Apart tableWrite.offset tableWrite.data.length := by
      rwa [Write.Apart, headerLength, tableLength]
    rw [← tableLength]
    exact disk.bytesAt_storeAll_of_mem [] tableWrite (List.forall_mem_singleton.mpr separate)
  have stored : sealed.StoredAt ((disk.store tableWrite).store headerWrite) offset sectors :=
    storedAt_of_seal? made inOrder (Nat.le_of_eq size.symm) small inside headerRead tableRead
  refine ⟨disk.store tableWrite, _, ?_, ?_, read_eq_ok_iff.mpr ⟨sameSize, stored⟩⟩
  · rw [sameTable]
    exact if_pos (decide_eq_true (tableLength ▸ inside))
  · have headerFits : headerWrite.offset + headerWrite.data.length ≤ disk.size :=
      Nat.le_trans (Nat.le_of_eq (congrArg _ headerLength)) headerInside
    exact if_pos (decide_eq_true headerFits)

end Gpt

end TrustBoundary
