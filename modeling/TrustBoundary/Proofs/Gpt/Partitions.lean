import TrustBoundary.Proofs.Gpt.Slots
import TrustBoundary.Proofs.Gpt.Stored

/-!
# Where the partitions lie

The partitions of a table take the bytes from the least start of a used entry up
to the greatest end of one.  What lies in front of that range is left to the
primary copy, and what lies behind it to the backup copy (`Location.Owns`).  A
copy that is found on a disk keeps to its own side: its header and its entry
array do (`StoredAt.owns_header`, `StoredAt.owns_table`).

For a backup copy this does not come from the header alone, which may claim to
lie anywhere.  That its entry array could be read bounds the place of the array,
and with it the usable sectors.
-/

set_option autoImplicit false

namespace TrustBoundary.Gpt

/-! ## The range of the partitions -/

/-- The first byte of a partition. -/
def Entry.startByte (entry : Entry) (sectorSize : SectorSize) : Nat :=
  entry.startingLba.toNat * sectorSize.bytes

/-- The first byte behind a partition. -/
def Entry.stopByte (entry : Entry) (sectorSize : SectorSize) : Nat :=
  (entry.endingLba.toNat + 1) * sectorSize.bytes

/-- The first byte of all partitions. -/
def firstStart? (gpt : Gpt) : Option Nat :=
  (gpt.used.map fun item => item.2.startByte gpt.sectorSize).min?

/-- The first byte behind all partitions. -/
def lastStop? (gpt : Gpt) : Option Nat :=
  (gpt.used.map fun item => item.2.stopByte gpt.sectorSize).max?

/-- The first byte of the usable sectors. -/
def usableStart (gpt : Gpt) : Nat := gpt.header.firstUsableLba.toNat * gpt.sectorSize.bytes

/-- The first byte behind the usable sectors. -/
def usableStop (gpt : Gpt) : Nat := (gpt.header.lastUsableLba.toNat + 1) * gpt.sectorSize.bytes

variable {gpt : Gpt} {first last : Nat}

theorem firstStart?_eq_some_iff : gpt.firstStart? = some first ↔
    (∃ item ∈ gpt.used, item.2.startByte gpt.sectorSize = first) ∧
      ∀ item ∈ gpt.used, first ≤ item.2.startByte gpt.sectorSize := by
  rw [firstStart?, List.min?_eq_some_iff, List.mem_map, List.forall_mem_map]

theorem lastStop?_eq_some_iff : gpt.lastStop? = some last ↔
    (∃ item ∈ gpt.used, item.2.stopByte gpt.sectorSize = last) ∧
      ∀ item ∈ gpt.used, item.2.stopByte gpt.sectorSize ≤ last := by
  rw [lastStop?, List.max?_eq_some_iff, List.mem_map, List.forall_mem_map]

/-! ## Two sides -/

namespace Location

/-- A range lies on the side of the partitions that is left to this copy. -/
def Owns (location : Location) (first last offset count : Nat) : Prop :=
  match location with
  | primary => offset + count ≤ first
  | backup => last ≤ offset

variable {location : Location} {offset count outerFirst outerLast : Nat}

/-- With more room between the two sides there is less on either of them. -/
theorem Owns.mono (owns : location.Owns first last offset count) (below : first ≤ outerFirst)
    (above : outerLast ≤ last) : location.Owns outerFirst outerLast offset count := by
  cases location with
  | primary => exact Nat.le_trans owns below
  | backup => exact Nat.le_trans above owns

/-- A part of a range lies where the range does. -/
theorem Owns.part {start size : Nat} (owns : location.Owns first last offset count)
    (inside : start + size ≤ count) : location.Owns first last (offset + start) size := by
  cases location with
  | primary =>
      have owns : offset + count ≤ first := owns
      change offset + start + size ≤ first
      omega
  | backup => exact Nat.le_trans owns (Nat.le_add_right _ _)

/-- A part of a write lies where the write does. -/
theorem Owns.within {part whole : Write}
    (owns : location.Owns first last whole.offset whole.data.length) (within : part.Within whole) :
    location.Owns first last part.offset part.data.length := by
  obtain ⟨same, shorter⟩ := within
  rw [same]
  cases location with
  | primary => exact Nat.le_trans (Nat.add_le_add_left shorter _) owns
  | backup => exact owns

/-- A write on the side of one copy changes nothing on the side of the other one. -/
theorem Owns.apart {other : Location} {write : Write}
    (mine : other.Owns first last write.offset write.data.length) (different : other ≠ location)
    (theirs : location.Owns first last offset count) (ordered : first ≤ last) :
    write.Apart offset count := by
  cases other <;> cases location
  · exact absurd rfl different
  · exact .inl (Nat.le_trans mine (Nat.le_trans ordered theirs))
  · exact .inr (Nat.le_trans theirs (Nat.le_trans ordered mine))
  · exact absurd rfl different

/-- A write on either side changes no partition. -/
theorem Owns.apart_partitions {write : Write}
    (mine : location.Owns first last write.offset write.data.length) (ordered : first ≤ last) :
    write.Apart first (last - first) := by
  cases location with
  | primary => exact .inl mine
  | backup =>
      have mine : last ≤ write.offset := mine
      exact .inr (by omega)

end Location

/-! ## Stored copies keep to their side -/

variable {disk : Disk} {offset sectors : Nat}

/-- The entry array takes at least one sector. -/
theorem StoredAt.bytes_le_tableRoom (stored : gpt.StoredAt disk offset sectors) :
    gpt.sectorSize.bytes ≤ gpt.tableRoom := by
  have counted : gpt.header.entryCount.toNat ≠ 0 := by
    intro none
    exact stored.accepted.entryCount_ne (UInt32.toNat_inj.mp none)
  refine SectorSize.bytes_le_wholeBytes (Nat.mul_pos (Nat.pos_of_ne_zero counted) ?_)
  rw [stored.accepted.entrySize]
  decide

/-- The entry array does not take more sectors than there are for it. -/
theorem StoredAt.tableRoom_le (stored : gpt.StoredAt disk offset sectors) :
    gpt.tableRoom ≤ gpt.header.room offset * gpt.sectorSize.bytes :=
  SectorSize.wholeBytes_le stored.accepted.tableBytes_le_room (Nat.mul_mod_left _ _)

/-- Behind the usable sectors there is at least one more. -/
theorem StoredAt.lastUsable_lt (stored : gpt.StoredAt disk offset sectors)
    (whole : disk.size = sectors * gpt.sectorSize.bytes) :
    gpt.header.lastUsableLba.toNat + 2 ≤ sectors := by
  have placed := stored.accepted.placed
  unfold Header.Placed at placed
  split at placed
  · have above := placed.alternate_gt
    have below := placed.alternate_lt
    omega
  · -- the entry array was read, so it ends on the disk
    have inside := stored.table_inside
    have filled := stored.bytes_le_tableRoom
    have above := placed.tableLba_gt
    unfold tableStart at inside
    rcases gpt.sectorSize.bytes_cases with bytes | bytes <;>
      rw [bytes] at inside filled whole <;> omega

variable {location : Gpt.Location}

theorem StoredAt.owns_header (stored : gpt.StoredAt disk offset sectors)
    (here : location.lba sectors = some offset)
    (whole : disk.size = sectors * gpt.sectorSize.bytes) :
    location.Owns gpt.usableStart gpt.usableStop (offset * gpt.sectorSize.bytes)
      gpt.sectorSize.bytes := by
  have low := stored.accepted.firstUsable_ge
  have high := stored.lastUsable_lt whole
  obtain ⟨rfl, rfl⟩ | ⟨rfl, rfl⟩ := Location.lba_eq_some here
  · change 1 * gpt.sectorSize.bytes + gpt.sectorSize.bytes ≤ _ * gpt.sectorSize.bytes
    rw [← Nat.succ_mul]
    exact Nat.mul_le_mul_right _ (by omega)
  · exact Nat.mul_le_mul_right _ (by omega)

theorem StoredAt.owns_table (stored : gpt.StoredAt disk offset sectors)
    (here : location.lba sectors = some offset) :
    location.Owns gpt.usableStart gpt.usableStop gpt.tableStart gpt.tableRoom := by
  have minimum := stored.accepted.minimumSectors_le
  have least : Disk.minimumSectors = 6 := rfl
  have low := stored.accepted.firstUsable_ge
  have placed := stored.accepted.placed
  have room := stored.tableRoom_le
  obtain ⟨rfl, rfl⟩ | ⟨rfl, rfl⟩ := Location.lba_eq_some here
  · rw [Header.Placed, if_pos rfl] at placed
    rw [Header.room, if_pos rfl, placed.tableLba] at room
    change gpt.header.tableLba.toNat * gpt.sectorSize.bytes + gpt.tableRoom ≤
      gpt.header.firstUsableLba.toNat * gpt.sectorSize.bytes
    rw [placed.tableLba]
    calc 2 * gpt.sectorSize.bytes + gpt.tableRoom
        ≤ 2 * gpt.sectorSize.bytes +
            (gpt.header.firstUsableLba.toNat - 2) * gpt.sectorSize.bytes :=
              Nat.add_le_add_left room _
      _ = (2 + (gpt.header.firstUsableLba.toNat - 2)) * gpt.sectorSize.bytes :=
        (Nat.add_mul ..).symm
      _ = gpt.header.firstUsableLba.toNat * gpt.sectorSize.bytes := by
          rw [Nat.add_sub_cancel' (by omega)]
  · rw [Header.Placed, if_neg (by omega)] at placed
    exact Nat.mul_le_mul_right _ placed.tableLba_gt

/-! ## The partitions of a stored copy -/

/-- The used entries are found up to the slot that is counted as the last used one. -/
theorem used_of_last (usedEntries : ∃ last, (usedFrom 0 gpt.allSlots).getLast? = some last ∧
      last.1 + 1 = gpt.usedEntries) :
    gpt.usedEntries ≤ gpt.header.entryCount.toNat ∧ gpt.used = usedFrom 0 gpt.allSlots := by
  obtain ⟨last, isLast, counted⟩ := usedEntries
  have bound := (index_of_mem_usedFrom (List.mem_of_getLast? isLast)).2
  rw [allSlots, length_slots] at bound
  have inside : gpt.usedEntries ≤ gpt.header.entryCount.toNat := by omega
  refine ⟨inside, ?_⟩
  rw [used, ← take_slots inside]
  exact usedFrom_take isLast (by omega)

theorem StoredAt.usedEntries_le (stored : gpt.StoredAt disk offset sectors) :
    gpt.usedEntries ≤ gpt.header.entryCount.toNat := (used_of_last stored.usedEntries).1

theorem StoredAt.used_eq (stored : gpt.StoredAt disk offset sectors) :
    gpt.used = usedFrom 0 gpt.allSlots := (used_of_last stored.usedEntries).2

/-- The partitions of a stored copy lie in its usable sectors. -/
theorem StoredAt.partitions_usable (stored : gpt.StoredAt disk offset sectors)
    (isFirst : gpt.firstStart? = some first) (isLast : gpt.lastStop? = some last) :
    gpt.usableStart ≤ first ∧ first < last ∧ last ≤ gpt.usableStop := by
  have usable : EntriesUsable gpt.header gpt.used := stored.used_eq ▸ stored.entries
  obtain ⟨⟨item, member, rfl⟩, _⟩ := firstStart?_eq_some_iff.mp isFirst
  obtain ⟨⟨final, finalMember, rfl⟩, greatest⟩ := lastStop?_eq_some_iff.mp isLast
  refine ⟨Nat.mul_le_mul_right _ (usable item member).1, ?_,
    Nat.mul_le_mul_right _ (Nat.succ_le_succ (usable final finalMember).2.2)⟩
  have ordered : item.2.startByte gpt.sectorSize < item.2.stopByte gpt.sectorSize :=
    Nat.mul_lt_mul_of_pos_right (Nat.lt_succ_of_le (usable item member).2.1)
      gpt.sectorSize.bytes_pos
  exact Nat.lt_of_lt_of_le ordered (greatest item member)

end TrustBoundary.Gpt
