import TrustBoundary.Proofs.Migration.Feasibility

/-!
# Going back to the old sector size

Counting the sectors of an entry anew and then back again gives the entry, since a
partition keeps its bytes (`recount_recount`).  A slot that is rewritten twice is the slot
that it was, whether or not it is used (`newSlot_newSlot`).

A table that was rebuilt for large sectors has its partitions where they were
(`Rebuilt.used_eq`), so it fits small sectors again (`Rebuilt.fits_small`).  Rebuilding a
table twice, the second time for its first sector size, gives its slots back
(`Rebuilt.slots_back`).
-/

set_option autoImplicit false

namespace TrustBoundary

/-- A slot is the encoding of the entry that is read from it. -/
theorem Gpt.Entry.encode_decode {slot : Bytes} (whole : slot.length = width) :
    (decode slot).encode = slot := by
  have written : (decode slot).encode = slot.take width :=
    exact_layout.encode_decode slot (Nat.le_of_eq whole.symm)
  rwa [List.take_of_length_le (Nat.le_of_eq whole)] at written

namespace Migration

open Gpt (Entry Location)

/-! ## One entry -/

section Entry

variable {entry : Entry} {old new : SectorSize}

/-- An entry that was counted anew can be counted back. -/
theorem Extent.Expressible.recount (expressible : Expressible entry old new.bytes) :
    Expressible (Migration.recount old.bytes new.bytes entry) new old.bytes where
  start_mod := by rw [startByte_recount expressible]; exact Nat.mul_mod_left _ _
  stop_mod := by rw [stopByte_recount expressible]; exact Nat.mul_mod_left _ _
  start_lt := by rw [startByte_recount expressible]; exact expressible.start_lt
  stop_lt := by rw [stopByte_recount expressible]; exact expressible.stop_lt

/-- Counting back gives the entry that there was. -/
theorem recount_recount (expressible : Extent.Expressible entry old new.bytes) :
    recount new.bytes old.bytes (recount old.bytes new.bytes entry) = entry := by
  have start : (recount new.bytes old.bytes (recount old.bytes new.bytes entry)).startByte old =
      entry.startByte old := by
    rw [startByte_recount expressible.recount, startByte_recount expressible]
  have stop : (recount new.bytes old.bytes (recount old.bytes new.bytes entry)).stopByte old =
      entry.stopByte old := by
    rw [stopByte_recount expressible.recount, stopByte_recount expressible]
  have starting := UInt64.toNat_inj.mp (Nat.eq_of_mul_eq_mul_right old.bytes_pos start)
  have ending := UInt64.toNat_inj.mp
    (Nat.succ.inj (Nat.eq_of_mul_eq_mul_right old.bytes_pos stop))
  -- nothing but these two numbers is changed
  change { entry with
    startingLba := (recount new.bytes old.bytes (recount old.bytes new.bytes entry)).startingLba
    endingLba := (recount new.bytes old.bytes (recount old.bytes new.bytes entry)).endingLba } =
      entry
  rw [starting, ending]

/-- A slot that is rewritten for another sector size and back again is as it was. -/
theorem newSlot_newSlot {slot : Bytes} (whole : slot.length = Entry.width)
    (expressible : ¬Entry.slotIsUnused slot →
      Extent.Expressible (Entry.decode slot) old new.bytes) :
    newSlot new.bytes old.bytes (newSlot old.bytes new.bytes slot) = slot := by
  by_cases unused : Entry.slotIsUnused slot
  · simp only [newSlot, unused, if_true]
  · have stillUsed : ¬Entry.slotIsUnused (newSlot old.bytes new.bytes slot) := by
      rwa [slotIsUnused_newSlot whole]
    rw [newSlot, if_neg stillUsed, decode_newSlot unused, recount_recount (expressible unused),
      Entry.encode_decode whole]

end Entry

/-! ## The slots in use -/

variable {gpt new : Gpt} {location : Location} {geometry : Geometry} {first last : Nat}
  {disk : Disk} {offset sectors : Nat}

namespace Rebuilt

/-- The slots up to the last used one are those of the old table, rewritten. -/
theorem slots_eq (rebuilt : Rebuilt new gpt location geometry first last)
    (stored : gpt.StoredAt disk offset sectors) :
    Gpt.slots gpt.usedEntries new.table = (Gpt.slots gpt.usedEntries gpt.table).map
      (newSlot gpt.sectorSize.bytes geometry.sectorSize.bytes) := by
  rw [← Gpt.take_slots rebuilt.used_le new.table, ← Gpt.take_slots stored.usedEntries_le gpt.table]
  change new.allSlots.take gpt.usedEntries = _
  rw [rebuilt.allSlots_eq stored, keptSlots, ← List.map_take, List.take_take,
    Nat.min_eq_left rebuilt.used_le]
  rfl

theorem firstStart?_eq (rebuilt : Rebuilt new gpt location geometry first last)
    (stored : gpt.StoredAt disk offset sectors) : new.firstStart? = some first := by
  rw [← rebuilt.isFirst, Gpt.firstStart?, Gpt.firstStart?, rebuilt.used_eq stored,
    rebuilt.sectorSize, List.map_map]
  refine congrArg List.min? (List.map_congr_left fun item member => ?_)
  exact startByte_recount (rebuilt.expressible item member)

theorem lastStop?_eq (rebuilt : Rebuilt new gpt location geometry first last)
    (stored : gpt.StoredAt disk offset sectors) : new.lastStop? = some last := by
  rw [← rebuilt.isLast, Gpt.lastStop?, Gpt.lastStop?, rebuilt.used_eq stored, rebuilt.sectorSize,
    List.map_map]
  refine congrArg List.max? (List.map_congr_left fun item member => ?_)
  exact stopByte_recount (rebuilt.expressible item member)

/-- A rebuilt table fits its first sector size again if the slots in use have the room. -/
theorem fits_back (rebuilt : Rebuilt new gpt location geometry first last)
    (stored : gpt.StoredAt disk offset sectors) {former : Geometry}
    (same : former.sectorSize = gpt.sectorSize)
    (inFront : usedRoom gpt gpt.sectorSize + 2 * gpt.sectorSize.bytes ≤ first)
    (behind : usedRoom gpt gpt.sectorSize + gpt.sectorSize.bytes ≤ former.size - last) :
    Fits new former first last := by
  have room : usedRoom new former.sectorSize = usedRoom gpt gpt.sectorSize := by
    rw [usedRoom, usedRoom, rebuilt.usedEntries, same]
  exact {
    headerSize_le := by
      rw [rebuilt.announces.headerSize, same]
      exact stored.accepted.headerSize_le
    aligned := by
      intro item member
      rw [rebuilt.used_eq stored] at member
      obtain ⟨⟨_, entry⟩, used, rfl⟩ := List.mem_map.mp member
      have back := (rebuilt.expressible _ used).recount
      rw [rebuilt.sectorSize, same]
      exact ⟨back.start_mod, back.stop_mod⟩
    inFront := by rw [room, same]; exact inFront
    behind := by rw [room, same]; exact behind }

/-- A table for large sectors that was made from one for small sectors fits those again. -/
theorem fits_small (rebuilt : Rebuilt new gpt location geometry first last)
    (stored : gpt.StoredAt disk offset sectors) (wasSmall : gpt.sectorSize = .small)
    (isLarge : geometry.sectorSize = .large) {former : Geometry}
    (small : former.sectorSize = .small)
    (size : former.size = geometry.size) : Fits new former first last := by
  have smallBytes : SectorSize.small.bytes = 512 := rfl
  have largeBytes : SectorSize.large.bytes = 4096 := rfl
  have inFront := (rebuilt.fits stored).inFront
  have behind := (rebuilt.fits stored).behind
  have fewer : usedRoom gpt .small ≤ usedRoom gpt .large := by
    have whole : usedRoom gpt .large % 4096 = 0 := SectorSize.large.wholeBytes_mod _
    refine SectorSize.wholeBytes_le (SectorSize.large.le_wholeBytes _) ?_
    change usedRoom gpt .large % 512 = 0
    omega
  rw [isLarge, largeBytes] at inFront behind
  refine rebuilt.fits_back stored (small.trans wasSmall.symm) ?_ ?_
  · rw [wasSmall, smallBytes]
    omega
  · rw [wasSmall, smallBytes, size]
    omega

/-- **A table that is rebuilt twice, the second time for its first sector size, has its
slots back.** -/
theorem slots_back {newer : Gpt} {place : Location} {former : Geometry} {other : Disk}
    {lba count first' last' : Nat} (rebuilt : Rebuilt new gpt location geometry first last)
    (stored : gpt.StoredAt disk offset sectors)
    (again : Rebuilt newer new place former first' last')
    (storedAgain : new.StoredAt other lba count) (same : former.sectorSize = gpt.sectorSize) :
    Gpt.slots gpt.usedEntries newer.table = Gpt.slots gpt.usedEntries gpt.table := by
  have slots := again.slots_eq storedAgain
  rw [rebuilt.usedEntries, rebuilt.slots_eq stored, List.map_map, rebuilt.sectorSize, same] at slots
  have back : ∀ slot ∈ Gpt.slots gpt.usedEntries gpt.table,
      newSlot geometry.sectorSize.bytes gpt.sectorSize.bytes
        (newSlot gpt.sectorSize.bytes geometry.sectorSize.bytes slot) = slot := by
    intro slot kept
    refine newSlot_newSlot ?_ ?_
    · rw [← Gpt.take_slots stored.usedEntries_le] at kept
      exact length_of_mem_allSlots stored (List.mem_of_mem_take kept)
    · intro isUsed
      obtain ⟨_, listed⟩ := Gpt.exists_mem_usedFrom kept isUsed 0
      exact rebuilt.expressible _ listed
  exact slots.trans ((List.map_congr_left back).trans (List.map_id' _))

end Rebuilt

end Migration

end TrustBoundary
