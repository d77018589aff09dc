import TrustBoundary.Proofs.Migration.Rebuilt

/-!
# The slots of a rebuilt copy

The new entry array holds the first slots of the old one with the sectors of the
used entries counted anew.  No slot becomes used or unused by that, and no used
slot is cut off, so the used entries of the new copy are those of the old one,
in the same slots and at the same bytes (`Rebuilt.usedFrom_allSlots`, `Rebuilt.used_eq`).
-/

set_option autoImplicit false

namespace TrustBoundary

namespace Migration

open Gpt (Entry Location)

/-! ## One entry -/

section Entry

variable {entry : Entry} {old new : SectorSize}

/-- An entry that is counted anew begins at the same byte. -/
theorem startByte_recount (expressible : Extent.Expressible entry old new.bytes) :
    (recount old.bytes new.bytes entry).startByte new = entry.startByte old := by
  change (UInt64.ofNat (entry.startByte old / new.bytes)).toNat * new.bytes = entry.startByte old
  rw [toNat_ofNat64 (Nat.lt_of_le_of_lt (Nat.div_le_self _ _) expressible.start_lt),
    Nat.div_mul_cancel (Nat.dvd_of_mod_eq_zero expressible.start_mod)]

/-- An entry that is counted anew ends at the same byte. -/
theorem stopByte_recount (expressible : Extent.Expressible entry old new.bytes) :
    (recount old.bytes new.bytes entry).stopByte new = entry.stopByte old := by
  have whole := Nat.div_mul_cancel (Nat.dvd_of_mod_eq_zero expressible.stop_mod)
  have some : 0 < entry.stopByte old := Nat.mul_pos (Nat.succ_pos _) old.bytes_pos
  have quotient : 0 < entry.stopByte old / new.bytes :=
    Nat.pos_of_ne_zero fun none => by rw [none, Nat.zero_mul] at whole; omega
  change ((UInt64.ofNat (entry.stopByte old / new.bytes - 1)).toNat + 1) * new.bytes =
    entry.stopByte old
  rw [toNat_ofNat64 (Nat.lt_of_le_of_lt (Nat.le_trans (Nat.sub_le _ _) (Nat.div_le_self _ _))
      expressible.stop_lt), Nat.sub_add_cancel quotient, whole]

end Entry

/-! ## One slot -/

variable {oldBytes newBytes : Nat} {slot : Bytes}

theorem length_newSlot (whole : slot.length = Entry.width) :
    (newSlot oldBytes newBytes slot).length = Entry.width := by
  unfold newSlot
  split
  · exact whole
  · exact Entry.length_encode _

theorem slotIsUnused_newSlot (whole : slot.length = Entry.width) :
    Entry.slotIsUnused (newSlot oldBytes newBytes slot) = Entry.slotIsUnused slot := by
  unfold newSlot
  split
  · rfl
  · rw [Entry.slotIsUnused_encode, Entry.slotIsUnused_eq whole]
    rfl

theorem decode_newSlot (used : ¬Entry.slotIsUnused slot) :
    Entry.decode (newSlot oldBytes newBytes slot) =
      recount oldBytes newBytes (Entry.decode slot) := by
  rw [newSlot, if_neg used, Entry.decode_encode]

/-! ## The array -/

variable {gpt new : Gpt} {location : Location} {geometry : Geometry} {first last : Nat}
  {disk : Disk} {offset sectors : Nat}

/-- The entry array that was read has all its slots. -/
theorem length_of_mem_allSlots (stored : gpt.StoredAt disk offset sectors)
    (member : slot ∈ gpt.allSlots) : slot.length = Entry.width := by
  refine Gpt.length_of_mem_slots ?_ member
  rw [← stored.table_eq, Disk.length_bytesAt, ← stored.accepted.entrySize]
  exact gpt.sectorSize.le_wholeBytes _

/-- The first slots of a table with the sectors of their entries counted anew. -/
def keptSlots (gpt : Gpt) (count newBytes : Nat) : List Bytes :=
  (gpt.allSlots.take count).map (newSlot gpt.sectorSize.bytes newBytes)

theorem newTable_eq (gpt : Gpt) (count room newBytes : Nat) :
    newTable gpt count room newBytes = (keptSlots gpt count newBytes).flatten ++
      Bytes.zeroes (room - (keptSlots gpt count newBytes).flatten.length) := by
  rw [newTable, List.flatMap_def]
  rfl

theorem length_keptSlots {count : Nat} (fewer : count ≤ gpt.header.entryCount.toNat) :
    (keptSlots gpt count newBytes).length = count := by
  rw [keptSlots, List.length_map, List.length_take, Gpt.allSlots, Gpt.length_slots,
    Nat.min_eq_left fewer]

theorem length_of_mem_keptSlots (stored : gpt.StoredAt disk offset sectors)
    (count newBytes : Nat) : ∀ slot ∈ keptSlots gpt count newBytes, slot.length = Entry.width := by
  intro slot member
  obtain ⟨old, kept, rfl⟩ := List.mem_map.mp member
  exact length_newSlot (length_of_mem_allSlots stored (List.mem_of_mem_take kept))

namespace Rebuilt

/-- The slots of the new copy are the slots that were kept. -/
theorem allSlots_eq (rebuilt : Rebuilt new gpt location geometry first last)
    (stored : gpt.StoredAt disk offset sectors) : new.allSlots =
      keptSlots gpt new.header.entryCount.toNat geometry.sectorSize.bytes := by
  have found := Gpt.slots_flatten
    (length_of_mem_keptSlots stored new.header.entryCount.toNat geometry.sectorSize.bytes)
    (Bytes.zeroes (new.tableRoom - (keptSlots gpt new.header.entryCount.toNat
      geometry.sectorSize.bytes).flatten.length))
  rw [length_keptSlots rebuilt.count_le] at found
  rw [Gpt.allSlots, rebuilt.table, newTable_eq]
  exact found

theorem entrySize (rebuilt : Rebuilt new gpt location geometry first last)
    (stored : gpt.StoredAt disk offset sectors) : new.header.entrySize.toNat = Entry.width := by
  rw [rebuilt.announces.entrySize, stored.accepted.entrySize]

/-- The new entry array takes whole sectors. -/
theorem length_table (rebuilt : Rebuilt new gpt location geometry first last)
    (stored : gpt.StoredAt disk offset sectors) : new.table.length = new.tableRoom := by
  have holds : new.header.tableBytes ≤ new.tableRoom := new.sectorSize.le_wholeBytes _
  rw [Gpt.Header.tableBytes, rebuilt.entrySize stored] at holds
  rw [rebuilt.table, newTable_eq, List.length_append,
    Gpt.length_flatten (length_of_mem_keptSlots stored _ _), length_keptSlots rebuilt.count_le,
    Bytes.length_zeroes]
  omega

/-- **No used entry is lost,** and each of them stays in its slot. -/
theorem usedFrom_allSlots (rebuilt : Rebuilt new gpt location geometry first last)
    (stored : gpt.StoredAt disk offset sectors) :
    Gpt.usedFrom 0 new.allSlots = gpt.used.map fun (index, entry) =>
      (index, recount gpt.sectorSize.bytes geometry.sectorSize.bytes entry) := by
  obtain ⟨last, isLast, counted⟩ := stored.usedEntries
  have enough := rebuilt.used_le
  rw [rebuilt.allSlots_eq stored, keptSlots, stored.used_eq,
    ← Gpt.usedFrom_take isLast (show last.1 < 0 + new.header.entryCount.toNat by omega)]
  refine Gpt.usedFrom_map 0 _ (fun slot kept => ?_) (fun slot _ used => decode_newSlot used)
  exact slotIsUnused_newSlot (length_of_mem_allSlots stored (List.mem_of_mem_take kept))

/-- The index behind the last used entry is the same. -/
theorem usedEntries_last (rebuilt : Rebuilt new gpt location geometry first last)
    (stored : gpt.StoredAt disk offset sectors) :
    ∃ last, (Gpt.usedFrom 0 new.allSlots).getLast? = some last ∧ last.1 + 1 = new.usedEntries := by
  obtain ⟨last, isLast, counted⟩ := stored.usedEntries
  rw [rebuilt.usedFrom_allSlots stored, List.getLast?_map, stored.used_eq, isLast]
  exact ⟨_, rfl, counted.trans rebuilt.usedEntries.symm⟩

/-- **Every partition is where it was.** -/
theorem used_eq (rebuilt : Rebuilt new gpt location geometry first last)
    (stored : gpt.StoredAt disk offset sectors) : new.used = gpt.used.map fun (index, entry) =>
      (index, recount gpt.sectorSize.bytes geometry.sectorSize.bytes entry) :=
  (Gpt.used_of_last (rebuilt.usedEntries_last stored)).2.trans (rebuilt.usedFrom_allSlots stored)

end Rebuilt

end Migration

end TrustBoundary
