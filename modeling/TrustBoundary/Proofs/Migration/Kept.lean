import TrustBoundary.Proofs.Gpt.Fresh
import TrustBoundary.Proofs.Gpt.Soundness
import TrustBoundary.Proofs.Migration.Recounted

/-!
# What a rebuild keeps

A table that was read from a disk and rebuilt for another sector size describes the same
partitions.  They stand in the same slots, are called the same, and take the same bytes,
each table taken at its own sector size (`SamePartition`).

A rebuild rewrites the slots of used entries, copies unused slots as they are, and may
leave out slots at the end of the array.  Copying changes no byte of an unused slot
(`Rebuilt.getElem?_unused`).  Slots are left out only behind the last used one, so what
is left out was unused (`slotIsUnused_behind`).  Together this is all there is in the array
(`rebuild_keeps`).
-/

set_option autoImplicit false

namespace TrustBoundary.Migration

open Gpt (Entry Location)

/-- Entries of two tables describe one partition: they agree but for how they count sectors. -/
structure SamePartition (gpt new : Gpt) (before after : Entry) : Prop where
  typeGuid : after.typeGuid = before.typeGuid
  uniqueGuid : after.uniqueGuid = before.uniqueGuid
  attributes : after.attributes = before.attributes
  name : after.name = before.name
  startByte : after.startByte new.sectorSize = before.startByte gpt.sectorSize
  stopByte : after.stopByte new.sectorSize = before.stopByte gpt.sectorSize

/-- What a table for another sector size keeps of a table. -/
structure KeepsPartitions (gpt new : Gpt) : Prop where
  usedEntries : new.usedEntries = gpt.usedEntries
  indices : new.used.map Prod.fst = gpt.used.map Prod.fst
  partitions : ∀ index before after, (index, before) ∈ gpt.used → (index, after) ∈ new.used →
    SamePartition gpt new before after
  entryCount_le : new.header.entryCount.toNat ≤ gpt.header.entryCount.toNat
  unused : ∀ index slot, index < new.header.entryCount.toNat → gpt.allSlots[index]? = some slot →
    Entry.slotIsUnused slot → slot.length = Entry.width ∧ new.allSlots[index]? = some slot
  dropped : ∀ index slot, new.header.entryCount.toNat ≤ index → gpt.allSlots[index]? = some slot →
    Entry.slotIsUnused slot
  diskGuid : new.header.diskGuid = gpt.header.diskGuid
  revision : new.header.revision = gpt.header.revision
  headerSize : new.header.headerSize = gpt.header.headerSize

variable {gpt new : Gpt} {location : Location} {geometry : Geometry} {first last : Nat}
  {disk : Disk} {offset sectors : Nat}

/-- Behind the last used entry every slot is unused. -/
theorem slotIsUnused_behind (stored : gpt.StoredAt disk offset sectors) {index : Nat} {slot : Bytes}
    (behind : gpt.usedEntries ≤ index) (here : gpt.allSlots[index]? = some slot) :
    Entry.slotIsUnused slot := by
  apply Decidable.byContradiction
  intro used
  have listed : (0 + index, Entry.decode slot) ∈ Gpt.usedFrom 0 gpt.allSlots :=
    Gpt.mem_usedFrom_iff.mpr ⟨slot, here, used, rfl⟩
  have inside := stored.lt_usedEntries listed
  rw [Nat.zero_add] at inside
  exact absurd behind (Nat.not_le.mpr inside)

namespace Rebuilt

/-- Entries of one slot describe the same partition before and after. -/
theorem samePartition (rebuilt : Rebuilt new gpt location geometry first last)
    (stored : gpt.StoredAt disk offset sectors) {index : Nat} {before after : Entry}
    (old : (index, before) ∈ gpt.used) (kept : (index, after) ∈ new.used) :
    SamePartition gpt new before after := by
  rw [rebuilt.used_eq stored] at kept
  obtain ⟨⟨_, entry⟩, member, same⟩ := List.mem_map.mp kept
  obtain ⟨rfl, rfl⟩ := Prod.mk.inj same
  -- a slot holds one entry
  rw [stored.used_eq] at old member
  obtain rfl : before = entry := Gpt.eq_of_mem_usedFrom old member
  rw [← stored.used_eq] at member
  have expressible := rebuilt.expressible _ member
  refine ⟨rfl, rfl, rfl, rfl, ?_, ?_⟩ <;> rw [rebuilt.sectorSize]
  · exact startByte_recount expressible
  · exact stopByte_recount expressible

/-- An unused slot is copied. -/
theorem getElem?_unused (rebuilt : Rebuilt new gpt location geometry first last)
    (stored : gpt.StoredAt disk offset sectors) {index : Nat} {slot : Bytes}
    (inside : index < new.header.entryCount.toNat) (here : gpt.allSlots[index]? = some slot)
    (unused : Entry.slotIsUnused slot) : new.allSlots[index]? = some slot := by
  rw [rebuilt.allSlots_eq stored, keptSlots, List.getElem?_map,
    List.getElem?_take_of_lt inside, here, Option.map_some, newSlot, if_pos unused]

end Rebuilt

/-- **A rebuild keeps every partition where it is**, and nothing of the entry array is lost but
unused slots at its end. -/
theorem rebuild_keeps {formerSize : SectorSize}
    (found : (Gpt.read disk offset formerSize sectors).outcome = .ok gpt)
    (rebuilt : (rebuild gpt location geometry).outcome = .ok new) :
    gpt.sectorSize = formerSize ∧ new.sectorSize = geometry.sectorSize ∧
    KeepsPartitions gpt new := by
  obtain ⟨sectorSize, stored⟩ := Gpt.read_eq_ok_iff.mp found
  obtain ⟨first, last, rebuilt⟩ := rebuild_eq_ok stored rebuilt
  refine ⟨sectorSize, rebuilt.sectorSize, ?_⟩
  exact {
    usedEntries := rebuilt.usedEntries
    indices := by
      rw [rebuilt.used_eq stored, List.map_map]
      rfl
    partitions := fun index before after => rebuilt.samePartition stored
    entryCount_le := rebuilt.count_le
    unused := fun index slot inside here unused =>
      ⟨length_of_mem_allSlots stored (List.mem_of_getElem? here),
        rebuilt.getElem?_unused stored inside here unused⟩
    dropped := fun index slot behind here =>
      slotIsUnused_behind stored (Nat.le_trans rebuilt.used_le behind) here
    diskGuid := rebuilt.announces.diskGuid
    revision := rebuilt.announces.revision
    headerSize := rebuilt.announces.headerSize }

/-! ## A crowded disk -/

/-- Two partitions, and between their slots one that was deleted: nothing but its type is zero. -/
def crowdedEntries : List Entry :=
  let partition (first last : UInt64) : Entry :=
    ⟨Vector.replicate 16 0x11, Vector.replicate 16 0xEE, first, last, 0, Vector.replicate 72 0x41⟩
  [partition 24 31, { partition 12 44 with typeGuid := Vector.replicate 16 0 }, partition 32 39]

/-- The header of a table for them, with 40 slots on 56 small sectors. -/
def crowdedHeader : Gpt.Header where
  signature := Gpt.Header.magic
  revision := Gpt.Header.supportedRevision
  headerSize := 92
  headerCrc := 0
  reserved := 0
  myLba := 1
  alternateLba := 55
  firstUsableLba := 12
  lastUsableLba := 44
  diskGuid := Vector.replicate 16 0x5A
  tableLba := 2
  entryCount := 40
  entrySize := 128
  tableCrc := 0

/-- That table without its checksums. -/
def crowdedTable : Gpt := Gpt.unsealed crowdedHeader .small 40 crowdedEntries

/-- The same table with its checksums. -/
def crowdedGpt : Gpt := crowdedTable.seal?.getD crowdedTable

/-- A disk of 56 small or seven large sectors with that table. -/
def crowdedDisk : Disk :=
  (Disk.blank .large 28672).storeAll
    [⟨512, crowdedGpt.headerSector⟩, ⟨1024, crowdedTable.table⟩]

theorem crowdedEntries_buildable : Gpt.Buildable .small 56 40 crowdedEntries where
  entryCount_pos := by decide
  tableBytes_le := by decide
  sectors_ge := by decide
  size_lt := by decide
  length_le := by decide
  exists_used := by decide
  usable := by decide

theorem seal?_crowdedTable : crowdedTable.seal? = some crowdedGpt := by
  obtain ⟨sealed, made⟩ := crowdedTable.exists_seal? (by decide) (by decide)
  rw [crowdedGpt, made]
  rfl

theorem crowdedGpt_sectorSize : crowdedGpt.sectorSize = .small := by
  obtain ⟨_, sectorSize, _⟩ := Gpt.eq_of_seal? seal?_crowdedTable
  exact sectorSize

/-- The deleted entry is not among the used ones. -/
theorem crowdedGpt_slots :
    crowdedGpt.header.entryCount = 40 ∧ crowdedGpt.used.map Prod.fst = [0, 2] := by
  have used : crowdedTable.used.map Prod.fst = [0, 2] := by decide +kernel
  rw [← Gpt.used_of_seal? seal?_crowdedTable] at used
  refine ⟨?_, used⟩
  obtain ⟨_, parts, _⟩ := Gpt.seal?_eq_some seal?_crowdedTable
  rw [parts]
  rfl

theorem crowdedGpt_usable :
    crowdedGpt.usableStart = 6144 ∧ crowdedGpt.usableStop = 23040 := by
  obtain ⟨_, parts, _⟩ := Gpt.seal?_eq_some seal?_crowdedTable
  have table : crowdedTable.usableStart = 6144 ∧ crowdedTable.usableStop = 23040 := by decide
  rw [parts]
  exact table

theorem crowdedDisk_size : crowdedDisk.size = 28672 := Disk.size_storeAll _ _

theorem crowdedGpt_storedAt : crowdedGpt.StoredAt crowdedDisk 1 56 := by
  have fresh : Gpt.freshHeader .primary .small 56 40 (Vector.replicate 16 0x5A) =
      some crowdedHeader := by decide
  have inOrder : crowdedTable.InOrder 1 56 :=
    Gpt.inOrder_unsealed crowdedEntries_buildable
      (Gpt.freshHeader_eq_some crowdedEntries_buildable fresh)
  have headerLength : crowdedGpt.headerSector.length = 512 := by
    rw [Gpt.length_headerSector, crowdedGpt_sectorSize]
    rfl
  have tableLength : crowdedTable.table.length = 5120 :=
    Gpt.length_freshTable crowdedEntries_buildable.length_le
  have pairwise : [⟨512, crowdedGpt.headerSector⟩, ⟨1024, crowdedTable.table⟩].Pairwise
      fun earlier later : Write => later.Apart earlier.offset earlier.data.length := by
    simp [Write.Apart, headerLength]
  have written := Disk.bytesAt_storeAll_of_pairwise (Disk.blank .large 28672) pairwise
  simp only [List.forall_mem_cons, headerLength, tableLength] at written
  obtain ⟨header, table, _⟩ := written
  refine Gpt.storedAt_of_seal? seal?_crowdedTable inOrder ?_ ?_ ?_ header table
  all_goals
    rw [crowdedDisk_size]
    decide

/-- Both copies can be rebuilt for large sectors, with eight slots fewer and less usable space. -/
theorem rebuild_crowdedGpt (location : Location) : ∃ new,
    (rebuild crowdedGpt location ⟨.large, 7⟩).outcome = .ok new ∧ new.header.entryCount = 32 ∧
      new.usableStart = 12288 ∧ new.usableStop = 20480 := by
  have evaluated : (rebuild crowdedGpt location ⟨.large, 7⟩).outcome.toOption.map
      (fun new => (new.header.entryCount, new.usableStart, new.usableStop)) =
        some (32, 12288, 20480) := by
    cases location <;> decide +kernel
  cases outcome : (rebuild crowdedGpt location ⟨.large, 7⟩).outcome with
  | ok new =>
      simp only [outcome, Except.toOption, Option.map_some, Option.some_inj, Prod.mk.injEq]
        at evaluated
      exact ⟨new, rfl, evaluated⟩
  | error halt =>
      rw [outcome] at evaluated
      exact nomatch evaluated

/-- That table keeps both partitions, whose slots are not adjacent, on the way to large sectors,
and gives up slots behind them. -/
theorem crowdedGpt_is_kept : ∃ new,
    (Gpt.read crowdedDisk 1 .small 56).outcome = .ok crowdedGpt ∧
      (rebuild crowdedGpt .primary ⟨.large, 7⟩).outcome = .ok new ∧
      (crowdedGpt.header.entryCount = 40 ∧ crowdedGpt.used.map Prod.fst = [0, 2]) ∧
      new.header.entryCount = 32 ∧ KeepsPartitions crowdedGpt new := by
  have found := Gpt.read_eq_ok_iff.mpr ⟨crowdedGpt_sectorSize, crowdedGpt_storedAt⟩
  obtain ⟨new, rebuilt, count, _⟩ := rebuild_crowdedGpt .primary
  exact ⟨new, found, rebuilt, crowdedGpt_slots, count, (rebuild_keeps found rebuilt).2.2⟩

end TrustBoundary.Migration
