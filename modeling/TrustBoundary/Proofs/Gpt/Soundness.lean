import TrustBoundary.Proofs.Gpt.Checksums
import TrustBoundary.Proofs.Gpt.Partitions

/-!
# What a copy that was read promises

Everything that is done with a partition table rests on what reading it has
established.  `Gpt.Sound` collects this for a copy whose header is at a given
sector of a disk.  Each used entry is a range of sectors on the disk, and this
range keeps clear of the boot record, of the copy's header and of its entry array
(`WellPlaced`).  The slots of the entry array are the bytes of the disk at their
places.  The used entries are those of the slots that are not unused, in the order
of the slots, and the count that is kept with the copy ends with the last of them.

That the entries keep clear of the header and of the array comes from the two
sides of the partitions: both lie on the side of their copy, and the usable
sectors are what lies between the sides (`Location.Owns.clear`).
-/

set_option autoImplicit false

namespace TrustBoundary.Gpt

/-! ## Entries in their place -/

/-- The bytes from `start` up to `stop` have none in common with the `count` bytes at `offset`. -/
def Clear (start stop offset count : Nat) : Prop := stop ≤ offset ∨ offset + count ≤ start

/-- What lies on a side of the partitions keeps clear of everything between the sides. -/
theorem Location.Owns.clear {location : Location} {first last offset count start stop : Nat}
    (owns : location.Owns first last offset count) (below : first ≤ start) (above : stop ≤ last) :
    Clear start stop offset count := by
  cases location with
  | primary => exact .inr (Nat.le_trans owns below)
  | backup => exact .inl (Nat.le_trans above owns)

/-- An entry takes usable sectors of a disk, and keeps clear of the boot record and of
the copy it belongs to, whose header is at sector `offset`. -/
structure WellPlaced (gpt : Gpt) (disk : Disk) (offset sectors : Nat) (entry : Entry) : Prop where
  firstUsable_ge : 3 ≤ gpt.header.firstUsableLba.toNat
  starting_ge : gpt.header.firstUsableLba.toNat ≤ entry.startingLba.toNat
  starting_le : entry.startingLba.toNat ≤ entry.endingLba.toNat
  ending_le : entry.endingLba.toNat ≤ gpt.header.lastUsableLba.toNat
  lastUsable_lt : gpt.header.lastUsableLba.toNat < sectors - 1
  inside : entry.stopByte gpt.sectorSize ≤ disk.size
  clear_boot : Clear (entry.startByte gpt.sectorSize) (entry.stopByte gpt.sectorSize)
    0 gpt.sectorSize.bytes
  clear_header : Clear (entry.startByte gpt.sectorSize) (entry.stopByte gpt.sectorSize)
    (offset * gpt.sectorSize.bytes) gpt.sectorSize.bytes
  clear_table : Clear (entry.startByte gpt.sectorSize) (entry.stopByte gpt.sectorSize)
    gpt.tableStart gpt.tableRoom

/-! ## Sound copies -/

/-- The entries of a copy are in their place, and its slots, its used entries and
their count are those of the entry array on the disk. -/
structure Sound (gpt : Gpt) (disk : Disk) (offset sectors : Nat) : Prop where
  entries : ∀ item ∈ gpt.used, gpt.WellPlaced disk offset sectors item.2
  table_read : disk.read gpt.tableStart gpt.tableRoom = .ok gpt.table
  slot_read : ∀ index < gpt.header.entryCount.toNat, gpt.allSlots[index]? =
    some (disk.bytesAt (gpt.tableStart + index * Entry.width) Entry.width)
  mem_used : ∀ index entry, (index, entry) ∈ gpt.used ↔
    ∃ slot, gpt.allSlots[index]? = some slot ∧ ¬Entry.slotIsUnused slot ∧ Entry.decode slot = entry
  used_increasing : gpt.used.Pairwise fun earlier later => earlier.1 < later.1
  usedEntries_pos : 0 < gpt.usedEntries
  last_used : ∃ slot, gpt.allSlots[gpt.usedEntries - 1]? = some slot ∧ ¬Entry.slotIsUnused slot
  unused_behind : ∀ index slot, gpt.usedEntries ≤ index → gpt.allSlots[index]? = some slot →
    Entry.slotIsUnused slot

variable {gpt : Gpt} {disk : Disk} {offset sectors : Nat}

/-- The used entries of a stored copy have smaller indices than its count. -/
theorem StoredAt.lt_usedEntries (stored : gpt.StoredAt disk offset sectors) {item : Nat × Entry}
    (member : item ∈ usedFrom 0 gpt.allSlots) : item.1 < gpt.usedEntries := by
  rw [← stored.used_eq, used] at member
  have bound := (index_of_mem_usedFrom member).2
  rwa [length_slots, Nat.zero_add] at bound

/-- The slots of a stored copy are bytes of the disk. -/
theorem StoredAt.getElem?_allSlots (stored : gpt.StoredAt disk offset sectors) {index : Nat}
    (inside : index < gpt.header.entryCount.toNat) : gpt.allSlots[index]? =
      some (disk.bytesAt (gpt.tableStart + index * Entry.width) Entry.width) := by
  have fits : index * Entry.width + Entry.width ≤ gpt.tableRoom := by
    refine Nat.le_trans ?_ (gpt.sectorSize.le_wholeBytes gpt.header.tableBytes)
    rw [Header.tableBytes, stored.accepted.entrySize, ← Nat.succ_mul]
    exact Nat.mul_le_mul_right _ inside
  rw [allSlots, getElem?_slots inside, ← stored.table_eq]
  exact congrArg some (Disk.slice_bytesAt disk fits)

/-- The used entries of a stored copy are in their place. -/
theorem StoredAt.wellPlaced (stored : gpt.StoredAt disk offset sectors)
    (here : offset = 1 ∨ offset = sectors - 1)
    (whole : disk.size = sectors * gpt.sectorSize.bytes) {item : Nat × Entry}
    (member : item ∈ gpt.used) : gpt.WellPlaced disk offset sectors item.2 := by
  obtain ⟨location, place⟩ : ∃ location : Location, location.lba sectors = some offset := by
    rcases here with rfl | rfl
    · exact ⟨.primary, rfl⟩
    · refine ⟨.backup, Word.sub_eq_some_iff.mpr ⟨?_, rfl⟩⟩
      exact Nat.le_trans (by decide) stored.accepted.minimumSectors_le
  have low := stored.accepted.firstUsable_ge
  have high := stored.lastUsable_lt whole
  obtain ⟨starting, ordered, ending⟩ := (stored.used_eq ▸ stored.entries :
    EntriesUsable gpt.header gpt.used) item member
  have below : gpt.usableStart ≤ item.2.startByte gpt.sectorSize := Nat.mul_le_mul_right _ starting
  have above : item.2.stopByte gpt.sectorSize ≤ gpt.usableStop :=
    Nat.mul_le_mul_right _ (Nat.succ_le_succ ending)
  exact {
    firstUsable_ge := low
    starting_ge := starting
    starting_le := ordered
    ending_le := ending
    lastUsable_lt := by omega
    inside := by
      rw [whole]
      exact Nat.le_trans above (Nat.mul_le_mul_right _ (by omega))
    clear_boot := by
      refine .inr (Nat.le_trans ?_ below)
      rw [Nat.zero_add]
      exact Nat.le_mul_of_pos_left _ (by omega)
    clear_header := (stored.owns_header place whole).clear below above
    clear_table := (stored.owns_table place).clear below above }

/-- **A copy that was read is sound.** -/
theorem sound_of_read {sectorSize : SectorSize} (here : offset = 1 ∨ offset = sectors - 1)
    (whole : disk.size = sectors * sectorSize.bytes)
    (found : (Gpt.read disk offset sectorSize sectors).outcome = .ok gpt) :
    gpt.sectorSize = sectorSize ∧ gpt.Sound disk offset sectors := by
  obtain ⟨rfl, stored⟩ := read_eq_ok_iff.mp found
  obtain ⟨last, isLast, counted⟩ := stored.usedEntries
  have mem_used : ∀ index entry, (index, entry) ∈ usedFrom 0 gpt.allSlots ↔
      ∃ slot, gpt.allSlots[index]? = some slot ∧ ¬Entry.slotIsUnused slot ∧
        Entry.decode slot = entry := by
    intro index entry
    have found_iff := @mem_usedFrom_iff 0 index gpt.allSlots entry
    rwa [Nat.zero_add] at found_iff
  refine ⟨rfl, {
    entries := fun item member => stored.wellPlaced here whole member
    table_read := ?_
    slot_read := fun index inside => stored.getElem?_allSlots inside
    mem_used := stored.used_eq ▸ mem_used
    used_increasing := stored.used_eq ▸ pairwise_usedFrom 0 gpt.allSlots
    usedEntries_pos := by omega
    last_used := ?_
    unused_behind := ?_ }⟩
  · rw [Disk.read, Disk.holds, if_pos (decide_eq_true stored.table_inside), stored.table_eq]
  · obtain ⟨slot, there, isUsed, _⟩ := (mem_used last.1 last.2).mp (List.mem_of_getLast? isLast)
    rw [← counted, Nat.add_sub_cancel]
    exact ⟨slot, there, isUsed⟩
  · intro index slot behind there
    refine Decidable.byContradiction fun isUsed => ?_
    have early := stored.lt_usedEntries ((mem_used index _).mpr ⟨slot, there, isUsed, rfl⟩)
    dsimp only at early
    omega

/-- The copy with a tail is sound. -/
theorem tailedGpt_sound :
    tailedDisk.size = 8 * SectorSize.small.bytes ∧
      (Gpt.read tailedDisk 1 .small 8).outcome = .ok tailedGpt ∧
      tailedGpt.sectorSize = .small ∧ tailedGpt.Sound tailedDisk 1 8 :=
  ⟨tailedDisk_size, read_tailedDisk, sound_of_read (.inl rfl) tailedDisk_size read_tailedDisk⟩

end TrustBoundary.Gpt
