import TrustBoundary.Proofs.Bytes.Lossless
import TrustBoundary.Proofs.Checksum.Detection
import TrustBoundary.Proofs.Gpt.Refusal

/-!
# A copy with one wrong byte

The checksums of a copy guard the bytes of its header that the header counts and the bytes of
its entries (`Gpt.Guarded`).  The one field that is left out is the size of the header: with
another size, the checksum is one over other bytes.

A wrong byte in a header is either in the stated checksum, and then it is not the one of the
bytes, which count the checksum as zero; or it is not, and then the bytes have another checksum
than the stated one.  A signature or a revision is refused even before that.  In any case the
sector is no longer recognised (`not_recognised_of_differAt`), and not to be recognised is to
be rejected for a defect.  A wrong byte in the entries gives them another checksum than the
stated one.  So a copy that was found is rejected once one of its guarded bytes is wrong
(`StoredAt.read_rejects_damage`).
-/

set_option autoImplicit false

namespace TrustBoundary

/-! ## Disks that differ in one byte -/

/-- Disks of one shape that differ in exactly one byte. -/
structure Disk.DifferAt (disk damaged : Disk) (position : Nat) : Prop where
  size : damaged.size = disk.size
  sectorSize : damaged.sectorSize = disk.sectorSize
  byteAt_ne : damaged.byteAt position ≠ disk.byteAt position
  byteAt_eq : ∀ other, other ≠ position → damaged.byteAt other = disk.byteAt other

namespace Disk.DifferAt

variable {disk damaged : Disk} {position offset count : Nat}

/-- Storing another byte at a position makes a difference there. -/
theorem store {byte : UInt8} (changed : byte ≠ disk.byteAt position) :
    disk.DifferAt (disk.store ⟨position, [byte]⟩) position where
  size := rfl
  sectorSize := rfl
  byteAt_ne := by
    rw [byteAt_store, if_pos (Nat.le_refl _), Nat.sub_self]
    exact changed
  byteAt_eq other elsewhere := by
    have apart : Write.Apart ⟨position, [byte]⟩ other 1 := by
      change position + 1 ≤ other ∨ other + 1 ≤ position
      omega
    exact byteAt_store_of_apart apart (Nat.le_refl _) (Nat.lt_succ_self _)

/-- A range with the position differs there. -/
theorem bytesAt (differ : disk.DifferAt damaged position) (above : offset ≤ position)
    (below : position < offset + count) :
    Bytes.DifferAt (disk.bytesAt offset count) (damaged.bytesAt offset count)
      (position - offset) where
  length := by rw [length_bytesAt, length_bytesAt]
  byteAt_ne := by
    have within : position - offset < count := by omega
    rw [byteAt_bytesAt, byteAt_bytesAt, if_pos within, if_pos within, Nat.add_sub_cancel' above]
    exact differ.byteAt_ne.symm
  byteAt_eq other elsewhere := by
    rw [byteAt_bytesAt, byteAt_bytesAt, differ.byteAt_eq (offset + other) (by omega)]

/-- A range without the position is the same. -/
theorem bytesAt_eq (differ : disk.DifferAt damaged position)
    (outside : position < offset ∨ offset + count ≤ position) :
    damaged.bytesAt offset count = disk.bytesAt offset count :=
  bytesAt_congr fun other reached inside => differ.byteAt_eq other (by omega)

end Disk.DifferAt

namespace Gpt

/-! ## Headers -/

namespace Header

variable {first second : Bytes} {index covered : Nat}

/-- The bytes that a checksum covers include the stated one. -/
theorem stated_inside {sector : Bytes} (inside : covered ≤ sector.length)
    (wide : crcOffset + 4 ≤ covered) :
    crcOffset + (Bytes.zeroes 4).length ≤ (sector.take covered).length := by
  rw [List.length_take, Nat.min_eq_left inside]
  exact wide

/-- Sectors that differ in the stated checksum only have one checksum. -/
theorem checksum_eq_of_differAt (differ : first.DifferAt second index) (stated : crcOffset ≤ index)
    (inStated : index < crcOffset + 4) (inside : covered ≤ first.length)
    (wide : crcOffset + 4 ≤ covered) : checksum first covered = checksum second covered := by
  have taken := differ.take (by omega : index < covered)
  rw [checksum, checksum, if_pos ⟨wide, inside⟩, if_pos ⟨wide, differ.length ▸ inside⟩,
    taken.overwrite_eq (stated_inside inside wide) stated inStated]

/-- Sectors that differ in another byte have different checksums over it. -/
theorem checksum_ne_of_differAt (differ : first.DifferAt second index)
    (unstated : index < crcOffset ∨ crcOffset + 4 ≤ index) (below : index < covered)
    (inside : covered ≤ first.length) (wide : crcOffset + 4 ≤ covered) :
    checksum first covered ≠ checksum second covered := by
  rw [checksum, checksum, if_pos ⟨wide, inside⟩, if_pos ⟨wide, differ.length ▸ inside⟩]
  intro same
  exact crc32_ne_of_differAt ((differ.take below).overwrite (stated_inside inside wide) unstated)
    (Option.some_inj.mp same)

end Header

/-- **A header with a wrong byte is not recognised**, if the byte is covered by the checksum and
does not belong to the size. -/
theorem not_recognised_of_differAt {first second : Bytes} {index : Nat} {sectorSize : SectorSize}
    (recognised : (checkIdentity (Header.decode first) first sectorSize).outcome = .ok ())
    (differ : first.DifferAt second index)
    (covered : index < (Header.decode first).headerSize.toNat)
    (unsized : index < 12 ∨ 16 ≤ index) :
    (checkIdentity (Header.decode second) second sectorSize).outcome ≠ .ok () := by
  intro recognisedToo
  obtain ⟨_, _, wide, _, inside, stated⟩ := checkIdentity_eq_ok_iff.mp recognised
  obtain ⟨_, _, _, _, _, otherStated⟩ := checkIdentity_eq_ok_iff.mp recognisedToo
  have sameSize : (Header.decode second).headerSize = (Header.decode first).headerSize :=
    (differ.word32At_eq (by omega)).symm
  have wide : Header.crcOffset + 4 ≤ (Header.decode first).headerSize.toNat :=
    Nat.le_trans (by decide) wide
  rw [sameSize] at otherStated
  -- the bytes do not count the stated checksum, so either it changed or theirs did
  by_cases inStated : Header.crcOffset ≤ index ∧ index < Header.crcOffset + 4
  · have same := Header.checksum_eq_of_differAt differ inStated.1 inStated.2 inside wide
    have sameCrc : first.word32At Header.crcOffset = second.word32At Header.crcOffset :=
      Option.some_inj.mp (stated.symm.trans (same.trans otherStated))
    rw [Bytes.word32At_eq_iff (by omega),
      Bytes.littleEndian_word32At (by rw [← differ.length]; omega)] at sameCrc
    exact (differ.slice inStated.1 inStated.2).ne sameCrc
  · have different := Header.checksum_ne_of_differAt differ (by omega) covered inside wide
    have sameCrc : first.word32At Header.crcOffset = second.word32At Header.crcOffset :=
      differ.word32At_eq (by omega)
    rw [stated, otherStated] at different
    exact different (congrArg some sameCrc)

/-! ## Copies -/

/-- The positions whose bytes the checksums of a copy with its header at sector `offset` guard. -/
inductive Guarded (gpt : Gpt) (offset : Nat) : (position : Nat) → Prop where
  /-- A byte of the header, but not of its size. -/
  | header {index : Nat} (covered : index < gpt.header.headerSize.toNat)
      (unsized : index < 12 ∨ 16 ≤ index) :
      Guarded gpt offset (offset * gpt.sectorSize.bytes + index)
  /-- A byte of the entries. -/
  | table {index : Nat} (covered : index < gpt.header.tableBytes) :
      Guarded gpt offset (gpt.tableStart + index)

/-- A verdict that the copy at hand is of no use, after which others may be looked for. -/
def Rejects (halt : Halt DiskError) : Prop := ∃ defect, halt = .refused (.rejected defect)

/-- A sector that is not recognised as a header is rejected. -/
theorem checkIdentity_rejects {header : Header} {sector : Bytes} {sectorSize : SectorSize}
    (refused : (checkIdentity header sector sectorSize).outcome ≠ .ok ()) :
    (checkIdentity header sector sectorSize).Fails Rejects := by
  cases outcome : (checkIdentity header sector sectorSize).outcome with
  | ok _ => exact absurd outcome refused
  | error halt =>
      obtain ⟨defect, rejected⟩ := exists_defect_of_checkIdentity (Logged.fails_eq_iff.mpr outcome)
      exact ⟨halt, outcome, defect, rejected.symm⟩

variable {gpt : Gpt} {disk damaged : Disk} {offset sectors index position : Nat}

/-- A copy with a wrong byte in its header is rejected. -/
theorem StoredAt.rejects_header (stored : gpt.StoredAt disk offset sectors)
    (whole : sectors * gpt.sectorSize.bytes ≤ disk.size) (small : disk.size < Word.limit)
    (differ : disk.DifferAt damaged (offset * gpt.sectorSize.bytes + index))
    (covered : index < gpt.header.headerSize.toNat) (unsized : index < 12 ∨ 16 ≤ index) :
    (Gpt.read damaged offset gpt.sectorSize sectors).Fails Rejects := by
  have accepted := stored.accepted
  have inside : index < gpt.sectorSize.bytes := Nat.lt_of_lt_of_le covered accepted.headerSize_le
  have sectorsDiffer := differ.bytesAt (Nat.le_add_right (offset * gpt.sectorSize.bytes) index)
    (Nat.add_lt_add_left inside _)
  rw [Nat.add_sub_cancel_left] at sectorsDiffer
  have recognised : (checkIdentity gpt.header
      (disk.bytesAt (offset * gpt.sectorSize.bytes) gpt.sectorSize.bytes) gpt.sectorSize).outcome =
      .ok () :=
    checkIdentity_eq_ok_iff.mpr ⟨accepted.signature, accepted.revision, accepted.width_le,
      accepted.headerSize_le, accepted.headerSize_le_length, accepted.checksum⟩
  rw [← stored.header_eq] at recognised covered
  have refused := not_recognised_of_differAt recognised sectorsDiffer covered unsized
  have long := Header.width_le_sector damaged (offset * gpt.sectorSize.bytes) gpt.sectorSize
  refine (fails_read accepted.offset_lt stored.possible (differ.size ▸ whole)
    (differ.size ▸ small)).mpr (.inl ?_)
  exact checkHeader_of_checkIdentity accepted.minimumSectors_le accepted.offset_lt long
    (checkIdentity_rejects refused)

/-- A copy with a wrong byte in its entries is rejected, if its header is as it was. -/
theorem StoredAt.rejects_table (stored : gpt.StoredAt disk offset sectors)
    (whole : sectors * gpt.sectorSize.bytes ≤ disk.size) (small : disk.size < Word.limit)
    (differ : disk.DifferAt damaged (gpt.tableStart + index))
    (apart : offset * gpt.sectorSize.bytes + gpt.sectorSize.bytes ≤ gpt.tableStart)
    (covered : index < gpt.header.tableBytes) :
    (Gpt.read damaged offset gpt.sectorSize sectors).Fails Rejects := by
  have accepted := stored.accepted
  have sameSector : damaged.bytesAt (offset * gpt.sectorSize.bytes) gpt.sectorSize.bytes =
      disk.bytesAt (offset * gpt.sectorSize.bytes) gpt.sectorSize.bytes :=
    differ.bytesAt_eq (.inr (Nat.le_trans apart (Nat.le_add_right _ _)))
  have isHeader : Header.ofSector?
      (damaged.bytesAt (offset * gpt.sectorSize.bytes) gpt.sectorSize.bytes) = some gpt.header :=
    Header.ofSector?_eq_some_iff.mpr
      ⟨Header.width_le_sector _ _ _, by rw [sameSector, stored.header_eq]⟩
  have room : gpt.header.tableBytes ≤ gpt.tableRoom := gpt.sectorSize.le_wholeBytes _
  have tablesDiffer := differ.bytesAt (Nat.le_add_right gpt.tableStart index)
    (Nat.add_lt_add_left (Nat.lt_of_lt_of_le covered room) _)
  rw [Nat.add_sub_cancel_left, stored.table_eq] at tablesDiffer
  refine (fails_read accepted.offset_lt stored.possible (differ.size ▸ whole)
    (differ.size ▸ small)).mpr (.inr ⟨gpt.header, isHeader, sameSector ▸ accepted, .inl ?_⟩)
  refine readTable_of_other_checksum accepted.tableBytes_le stored.tableStart_lt
    (differ.size ▸ stored.table_inside) ?_ ⟨_, rfl⟩
  rw [stored.tableCrc]
  exact crc32_ne_of_differAt (tablesDiffer.take covered)

/-! ## Primary copies -/

/-- The entry array of a primary copy lies behind its header. -/
theorem StoredAt.tableStart_of_primary (stored : gpt.StoredAt disk 1 sectors) :
    gpt.tableStart = 2 * gpt.sectorSize.bytes := by
  have placed := stored.accepted.placed
  rw [Header.Placed, if_pos rfl] at placed
  rw [tableStart, placed.tableLba]

/-- No guarded byte of a primary copy lies in the boot record. -/
theorem StoredAt.bytes_le_of_guarded (stored : gpt.StoredAt disk 1 sectors)
    (guarded : gpt.Guarded 1 position) : gpt.sectorSize.bytes ≤ position := by
  cases guarded with
  | header covered unsized => omega
  | table covered =>
      rw [stored.tableStart_of_primary]
      omega

/-- **A primary copy with one wrong byte is rejected.** -/
theorem StoredAt.read_rejects_damage (stored : gpt.StoredAt disk 1 sectors)
    (whole : sectors * gpt.sectorSize.bytes ≤ disk.size) (small : disk.size < Word.limit)
    (differ : disk.DifferAt damaged position) (guarded : gpt.Guarded 1 position) :
    ∃ defect, (Gpt.read damaged 1 gpt.sectorSize sectors).outcome =
      .error (.refused (.rejected defect)) := by
  have fails : (Gpt.read damaged 1 gpt.sectorSize sectors).Fails Rejects := by
    cases guarded with
    | header covered unsized => exact stored.rejects_header whole small differ covered unsized
    | table covered =>
        refine stored.rejects_table whole small differ ?_ covered
        rw [stored.tableStart_of_primary]
        omega
  obtain ⟨_, outcome, defect, rfl⟩ := fails
  exact ⟨defect, outcome⟩

end Gpt

end TrustBoundary
