import TrustBoundary.Gpt.Read
import TrustBoundary.Proofs.Disk.Content
import TrustBoundary.Proofs.Gpt.Acceptance

/-!
# Which copies are found on a disk

`Gpt.StoredAt` says that a disk holds a copy of a partition table whose header
is at a given sector: the header and the entry array are the bytes of their
ranges, the header is accepted there, and the used entries lie inside the usable
sectors.  Reading gives a copy exactly if it is stored (`read_eq_ok_iff`).

Everything that this depends on is the size of the disk and the bytes of two
ranges, so a copy stays stored for as long as nobody writes to these two
(`StoredAt.of_same_bytes`).
-/

set_option autoImplicit false

namespace TrustBoundary

/-- A sector fits into a buffer. -/
theorem SectorSize.bytes_le_greatestBuffer (sectorSize : SectorSize) :
    sectorSize.bytes ≤ Disk.greatestBuffer := by
  rcases sectorSize.bytes_cases with bytes | bytes <;> rw [bytes] <;> decide

/-- Loading gives the bytes of a range inside the disk. -/
theorem Disk.load_eq_ok_iff {disk : Disk} {offset count : Nat} {bytes : Bytes} :
    (disk.load offset count).outcome = .ok bytes ↔
      count ≤ Disk.greatestBuffer ∧ offset + count ≤ disk.size ∧
        disk.bytesAt offset count = bytes := by
  simp only [Disk.load, Logged.outcome_bind_eq_ok, Logged.outcome_require_eq_ok, exists_const,
    Logged.outcome_liftExcept_eq_ok, Disk.read, Disk.holds, decide_eq_true_eq]
  by_cases inside : offset + count ≤ disk.size <;> simp [inside]

namespace Gpt

/-- A header fits into a sector. -/
theorem Header.width_le_sector (disk : Disk) (offset : Nat) (sectorSize : SectorSize) :
    Header.width ≤ (disk.bytesAt offset sectorSize.bytes).length := by
  rw [Disk.length_bytesAt]
  rcases sectorSize.bytes_cases with bytes | bytes <;> rw [bytes] <;> decide

/-! ## The ranges of a copy -/

/-- Where the entry array begins. -/
def tableStart (gpt : Gpt) : Nat := gpt.header.tableLba.toNat * gpt.sectorSize.bytes

/-- The number of bytes that the entry array takes, in whole sectors. -/
def tableRoom (gpt : Gpt) : Nat := gpt.sectorSize.wholeBytes gpt.header.tableBytes

/-- Every entry lies inside the usable sectors. -/
def EntriesUsable (header : Header) (used : List (Nat × Entry)) : Prop :=
  ∀ item ∈ used, header.firstUsableLba.toNat ≤ item.2.startingLba.toNat ∧
    item.2.startingLba.toNat ≤ item.2.endingLba.toNat ∧
    item.2.endingLba.toNat ≤ header.lastUsableLba.toNat

/-- A disk, taken as `sectors` sectors, holds this copy with its header at
sector `offset`. -/
structure StoredAt (gpt : Gpt) (disk : Disk) (offset sectors : Nat) : Prop where
  possible : offset = 1 ∨ 5 ≤ offset
  start_lt : offset * gpt.sectorSize.bytes < Word.limit
  header_inside : offset * gpt.sectorSize.bytes + gpt.sectorSize.bytes ≤ disk.size
  header_eq : Header.decode
    (disk.bytesAt (offset * gpt.sectorSize.bytes) gpt.sectorSize.bytes) = gpt.header
  accepted : gpt.header.Accepted
    (disk.bytesAt (offset * gpt.sectorSize.bytes) gpt.sectorSize.bytes) offset gpt.sectorSize
    sectors
  tableStart_lt : gpt.tableStart < Word.limit
  table_inside : gpt.tableStart + gpt.tableRoom ≤ disk.size
  table_eq : disk.bytesAt gpt.tableStart gpt.tableRoom = gpt.table
  tableCrc : gpt.header.tableCrc = crc32 (gpt.table.take gpt.header.tableBytes)
  entries : EntriesUsable gpt.header (usedFrom 0 gpt.allSlots)
  usedEntries : ∃ last, (usedFrom 0 gpt.allSlots).getLast? = some last ∧
    last.1 + 1 = gpt.usedEntries

/-! ## The stages of reading -/

theorem checkEntry_eq_ok_iff {header : Header} {index : Nat} {entry : Entry} {result : Unit} :
    (checkEntry header index entry).outcome = .ok result ↔
      header.firstUsableLba.toNat ≤ entry.startingLba.toNat ∧
        entry.startingLba.toNat ≤ entry.endingLba.toNat ∧
        entry.endingLba.toNat ≤ header.lastUsableLba.toNat := by
  simp only [checkEntry, Logged.outcome_bind_eq_ok, outcome_rejectIf_eq_ok, exists_const,
    gt_iff_lt, Nat.not_lt]
  exact and_left_comm

theorem checkEntries_eq_ok_iff {header : Header} {used : List (Nat × Entry)} {result : Unit} :
    (checkEntries header used).outcome = .ok result ↔ EntriesUsable header used := by
  induction used with
  | nil => exact ⟨fun _ _ impossible => absurd impossible List.not_mem_nil, fun _ => rfl⟩
  | cons item others ih =>
      simp only [checkEntries, Logged.outcome_bind_eq_ok, checkEntry_eq_ok_iff, exists_const, ih,
        EntriesUsable, List.forall_mem_cons]

theorem checkOffset_eq_ok_iff {offset sectors : Nat} {result : Unit} :
    (checkOffset offset sectors).outcome = .ok result ↔
      offset < sectors ∧ (offset = 1 ∨ 5 ≤ offset) := by
  simp only [checkOffset, Logged.outcome_bind_eq_ok, outcome_rejectIf_eq_ok, exists_const]
  omega

/-- Whole sectors for a table of at most the greatest size fit into a buffer. -/
theorem wholeBytes_le_greatestBuffer (sectorSize : SectorSize) {tableBytes : Nat}
    (bounded : tableBytes ≤ greatestTableBytes) :
    sectorSize.wholeBytes tableBytes ≤ Disk.greatestBuffer := by
  have above := sectorSize.wholeBytes_lt tableBytes
  have buffer : Disk.greatestBuffer = 2 ^ 63 - 1 := rfl
  have greatest : greatestTableBytes = 2 ^ 20 := rfl
  rcases sectorSize.bytes_cases with bytes | bytes <;> omega

theorem roundUp_tableBytes (sectorSize : SectorSize) {tableBytes : Nat}
    (bounded : tableBytes ≤ greatestTableBytes) :
    sectorSize.roundUp tableBytes = some (sectorSize.wholeBytes tableBytes) := by
  have greatest : greatestTableBytes = 2 ^ 20 := rfl
  have limit : Word.limit = 2 ^ 64 := rfl
  refine SectorSize.roundUp_eq_some_iff.mpr ⟨?_, rfl⟩
  rcases sectorSize.bytes_cases with bytes | bytes <;> omega

theorem readTable_eq_ok_iff {disk : Disk} {header : Header} {sectorSize : SectorSize}
    {table : Bytes} (bounded : header.tableBytes ≤ greatestTableBytes) :
    (readTable disk header header.tableBytes sectorSize).outcome = .ok table ↔
      header.tableLba.toNat * sectorSize.bytes < Word.limit ∧
        header.tableLba.toNat * sectorSize.bytes + sectorSize.wholeBytes header.tableBytes ≤
          disk.size ∧
        disk.bytesAt (header.tableLba.toNat * sectorSize.bytes)
          (sectorSize.wholeBytes header.tableBytes) = table ∧
        header.tableCrc = crc32 (table.take header.tableBytes) := by
  have buffer := wholeBytes_le_greatestBuffer sectorSize bounded
  simp only [readTable, Logged.outcome_bind_eq_ok, Logged.outcome_liftOption_eq_ok,
    roundUp_tableBytes sectorSize bounded, Option.some_inj, exists_eq_left', Word.mul_eq_some_iff,
    Disk.load_eq_ok_iff, outcome_rejectIf_eq_ok, Logged.outcome_pure_eq_ok, exists_const, ne_eq,
    Decidable.not_not]
  constructor
  · rintro ⟨_, ⟨start, rfl⟩, _, ⟨_, inside, rfl⟩, crc, rfl⟩
    exact ⟨start, inside, rfl, crc⟩
  · rintro ⟨start, inside, rfl, crc⟩
    exact ⟨_, ⟨start, rfl⟩, _, ⟨buffer, inside, rfl⟩, crc, rfl⟩

/-! ## Reading -/

variable {disk : Disk} {offset sectors : Nat} {sectorSize : SectorSize} {gpt : Gpt}

/-- **Reading finds exactly the copies that are stored.** -/
theorem read_eq_ok_iff : (Gpt.read disk offset sectorSize sectors).outcome = .ok gpt ↔
    gpt.sectorSize = sectorSize ∧ gpt.StoredAt disk offset sectors := by
  have sectorFits := sectorSize.bytes_le_greatestBuffer
  simp only [Gpt.read, Logged.outcome_bind_eq_ok, checkOffset_eq_ok_iff, exists_const,
    Logged.outcome_liftOption_eq_ok, Word.mul_eq_some_iff, Disk.load_eq_ok_iff,
    checkHeader_eq_ok_iff]
  constructor
  · rintro ⟨⟨below, possible⟩, _, ⟨start, rfl⟩, _, ⟨_, inside, rfl⟩, _,
      ⟨header, found, accepted, rfl⟩, same, again, table, readTable, _, usable, rest⟩
    obtain rfl : header = same := Option.some_inj.mp (found.symm.trans again)
    obtain ⟨tableStart, tableInside, tableEq, crc⟩ :=
      (readTable_eq_ok_iff accepted.tableBytes_le).mp readTable
    have headerEq := (Header.ofSector?_eq_some_iff.mp found).2
    split at rest
    · exact absurd rest Logged.outcome_refuse_ne_ok
    · rename_i index entry last
      cases Logged.outcome_pure_eq_ok.mp rest
      exact ⟨rfl, possible, start, inside, headerEq, accepted, tableStart, tableInside, tableEq,
        crc, checkEntries_eq_ok_iff.mp usable, (index, entry), last, rfl⟩
  · rintro ⟨rfl, stored⟩
    have accepted := stored.accepted
    have bytes : Header.width ≤ gpt.sectorSize.bytes :=
      Nat.le_trans accepted.width_le accepted.headerSize_le
    have found : Header.ofSector? (disk.bytesAt (offset * gpt.sectorSize.bytes)
        gpt.sectorSize.bytes) = some gpt.header :=
      Header.ofSector?_eq_some_iff.mpr ⟨by rw [Disk.length_bytesAt]; exact bytes, stored.header_eq⟩
    obtain ⟨last, isLast, counted⟩ := stored.usedEntries
    refine ⟨⟨accepted.offset_lt, stored.possible⟩, _, ⟨stored.start_lt, rfl⟩, _,
      ⟨sectorFits, stored.header_inside, rfl⟩, _, ⟨_, found, accepted, rfl⟩, _, found, gpt.table,
      (readTable_eq_ok_iff accepted.tableBytes_le).mpr
        ⟨stored.tableStart_lt, stored.table_inside, stored.table_eq, stored.tableCrc⟩,
      (), checkEntries_eq_ok_iff.mpr stored.entries, ?_⟩
    have isLast : (usedFrom 0 (slots gpt.header.entryCount.toNat gpt.table)).getLast? = some last :=
      isLast
    rw [isLast]
    exact Logged.outcome_pure_eq_ok.mpr (by rw [counted])

/-- Reading a copy is a matter of the size of the disk and of the bytes of its two ranges. -/
theorem StoredAt.of_same_bytes {other : Disk} (stored : gpt.StoredAt disk offset sectors)
    (size : other.size = disk.size)
    (header : other.bytesAt (offset * gpt.sectorSize.bytes) gpt.sectorSize.bytes =
      disk.bytesAt (offset * gpt.sectorSize.bytes) gpt.sectorSize.bytes)
    (table : other.bytesAt gpt.tableStart gpt.tableRoom =
      disk.bytesAt gpt.tableStart gpt.tableRoom) :
    gpt.StoredAt other offset sectors where
  possible := stored.possible
  start_lt := stored.start_lt
  header_inside := size ▸ stored.header_inside
  header_eq := header ▸ stored.header_eq
  accepted := header ▸ stored.accepted
  tableStart_lt := stored.tableStart_lt
  table_inside := size ▸ stored.table_inside
  table_eq := table ▸ stored.table_eq
  tableCrc := stored.tableCrc
  entries := stored.entries
  usedEntries := stored.usedEntries

end Gpt

end TrustBoundary
