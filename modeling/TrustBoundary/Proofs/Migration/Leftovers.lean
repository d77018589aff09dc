import TrustBoundary.Proofs.Gpt.Disguise
import TrustBoundary.Proofs.Migration.Completion

/-!
# What is left for the old sector size

After a migration no table is found any more under the old sector size, at either of
the two places where its headers were (`nothing_left_of_old_size`).

A disk whose sectors are now large has blank bytes at both places: the boot record's
own sector covers the one, and the last sector, which holds the new backup header,
covers the other.  On a disk whose sectors are now small, the 4096 bytes that were
blanked at a place may have been written to once more, since a new entry array of more
than 3072 bytes reaches there.  Then it has a slot that begins exactly where the old
header did.  Its bytes may be anything that somebody put into that slot, but they are
no header (`Installed.harmless_former`).
-/

set_option autoImplicit false

namespace TrustBoundary

open Work Migration
open Gpt (Location)

/-- What lies in the padding of a byte string is blank. -/
theorem Bytes.slice_of_padding {bytes : Bytes} {front size start count : Nat}
    (padding : bytes.drop front = Bytes.zeroes size) (behind : front ≤ start)
    (inside : start + count ≤ front + size) : bytes.slice start count = Bytes.zeroes count := by
  have split : start = front + (start - front) := by omega
  rw [slice, split, ← List.drop_drop, padding, zeroes, zeroes, List.drop_replicate,
    List.take_replicate, Nat.min_eq_left (by omega)]

namespace Migration

variable {found : Inspection} {disk final : Disk} {lba oldSectors first last : Nat} {new : Gpt}
  {place : Location}

/-- The sectors that a disk had under its other sector size. -/
def formerGeometry (disk : Disk) : Geometry :=
  ⟨disk.sectorSize.other, disk.size / disk.sectorSize.other.bytes⟩

theorem formerGeometry_sectors (migratable : found.Migratable disk lba oldSectors) :
    (formerGeometry disk).sectors = oldSectors := by
  have whole := migratable.oldSize_eq
  rw [migratable.differs] at whole
  exact Nat.div_eq_of_eq_mul_left disk.sectorSize.other.bytes_pos whole

theorem formerGeometry_size (migratable : found.Migratable disk lba oldSectors) :
    (formerGeometry disk).size = disk.size := by
  rw [Geometry.size, formerGeometry_sectors migratable, migratable.oldSize_eq, migratable.differs,
    Nat.mul_comm]
  rfl

theorem minimumSectors_le_former (migratable : found.Migratable disk lba oldSectors) :
    Disk.minimumSectors ≤ (formerGeometry disk).sectors := by
  rw [formerGeometry_sectors migratable]
  exact migratable.stored.accepted.minimumSectors_le

/-- The greatest entry array for small sectors that keeps clear of the place where a header
for large ones was. -/
def clearTableBytes : Nat := 3072

namespace Installed

/-! ## Parts of what was written -/

/-- A part of a write is found if the writes behind it for the same copy leave it alone. -/
theorem bytesAt_slice (installed : Installed found disk final place new first last)
    (migratable : found.Migratable disk lba oldSectors) {before after : List Write} {write : Write}
    (split : installation disk place found.mbr new = before ++ write :: after) {position : Nat}
    (start count : Nat) (here : position = write.offset + start)
    (inside : start + count ≤ write.data.length) (apart : ∀ own ∈ after, own.Apart position count) :
    final.bytesAt position count = write.data.slice start count := by
  have ordered := Nat.le_of_lt (installed.rebuilt.first_lt_last migratable.stored)
  have member : write ∈ installation disk place found.mbr new := by
    rw [split]
    exact List.mem_append_right _ List.mem_cons_self
  have mine := (migratable.owns_installation installed.rebuilt write member).1.part inside
  obtain ⟨base, later, _, _, rfl, others⟩ := installed.written
  rw [here] at apart ⊢
  rw [split, List.append_assoc, List.cons_append]
  refine Disk.bytesAt_storeAll_slice base before write inside ?_
  intro other behind
  rcases List.mem_append.mp behind with own | foreign
  · exact apart other own
  · exact (others other foreign).apart (other_ne place) mine ordered

/-- The slots of the new entry array lie one behind the other from its start. -/
theorem bytesAt_slot (installed : Installed found disk final place new first last)
    (migratable : found.Migratable disk lba oldSectors) {index : Nat}
    (counted : index < new.header.entryCount.toNat) :
    final.bytesAt ((geometryOf disk).tableStart place new.tableRoom + index * Gpt.Entry.width)
      Gpt.Entry.width ∈ new.allSlots := by
  have stored := (installed.storedAt migratable).table_eq
  have holds : new.header.tableBytes ≤ new.tableRoom := new.sectorSize.le_wholeBytes _
  rw [Gpt.Header.tableBytes, installed.rebuilt.entrySize migratable.stored] at holds
  have inside : index * Gpt.Entry.width + Gpt.Entry.width ≤ new.tableRoom := by
    rw [← Nat.succ_mul]
    exact Nat.le_trans (Nat.mul_le_mul_right _ counted) holds
  have slot : final.bytesAt ((geometryOf disk).tableStart place new.tableRoom +
      index * Gpt.Entry.width) Gpt.Entry.width =
        new.table.slice (index * Gpt.Entry.width) Gpt.Entry.width := by
    rw [← stored, Disk.slice_bytesAt _ inside, installed.rebuilt.tableStart_eq]
  rw [slot]
  exact List.mem_of_getElem? (Gpt.getElem?_slots counted new.table)

/-- What lies in the padding of a write is blank if the writes behind it leave it alone. -/
theorem bytesAt_padding (installed : Installed found disk final place new first last)
    (migratable : found.Migratable disk lba oldSectors) {before after : List Write} {write : Write}
    (split : installation disk place found.mbr new = before ++ write :: after)
    {front size position : Nat} (padding : write.data.drop front = Bytes.zeroes size)
    (length : write.data.length = front + size) (start : Nat) {count : Nat}
    (here : position = write.offset + start) (behind : front ≤ start)
    (inside : start + count ≤ front + size) (apart : ∀ own ∈ after, own.Apart position count) :
    final.bytesAt position count = Bytes.zeroes count := by
  rw [installed.bytesAt_slice migratable split start count here (length ▸ inside) apart]
  exact Bytes.slice_of_padding padding behind inside

/-! ## Where the old headers were -/

section Blank

variable (migratable : found.Migratable disk lba oldSectors)

include migratable

/-- On a disk with large sectors the old primary header was in the boot record's own sector. -/
theorem blank_primary_of_large (installed : Installed found disk final .primary new first last)
    (large : disk.sectorSize = .large) :
    final.bytesAt ((formerGeometry disk).headerStart .primary) Gpt.Entry.width =
      Bytes.zeroes Gpt.Entry.width := by
  have bytes : (geometryOf disk).sectorSize.bytes = 4096 := by rw [geometryOf, large]; rfl
  have formerBytes :
      (formerGeometry disk).sectorSize.bytes = 512 := by rw [formerGeometry, large]; rfl
  have width : Gpt.Entry.width = 128 := rfl
  have bootWidth : ProtectiveMbr.width = 512 := rfl
  have filled := migratable.mbr
  rw [large, show SectorSize.large.bytes = 4096 from rfl] at filled
  have split : installation disk .primary found.mbr new = [] ++ ⟨0, found.mbr.sector⟩ ::
      [tableWrite disk .primary new, headerWrite disk .primary new] := by
    simp only [installation, blanking, large, List.cons_append, List.nil_append]
  have here : (formerGeometry disk).headerStart .primary = 0 + 512 := formerBytes.trans (by decide)
  refine installed.bytesAt_padding migratable split filled.padding filled.length 512 here (by omega)
    (by omega) ?_
  intro own member
  simp only [List.mem_cons, List.not_mem_nil, or_false] at member
  refine .inr ?_
  obtain rfl | rfl := member
  · change _ ≤ 2 * (geometryOf disk).sectorSize.bytes
    omega
  · change _ ≤ (geometryOf disk).sectorSize.bytes
    omega

/-- On a disk with large sectors the old backup header was in the last part of the new
one's sector. -/
theorem blank_backup_of_large (installed : Installed found disk final .backup new first last)
    (large : disk.sectorSize = .large) :
    final.bytesAt ((formerGeometry disk).headerStart .backup) Gpt.Entry.width =
      Bytes.zeroes Gpt.Entry.width := by
  have bytes : (geometryOf disk).sectorSize.bytes = 4096 := by rw [geometryOf, large]; rfl
  have formerBytes :
      (formerGeometry disk).sectorSize.bytes = 512 := by rw [formerGeometry, large]; rfl
  have width : Gpt.Entry.width = 128 := rfl
  have headerWidth : Gpt.Header.width = 92 := rfl
  have size := migratable.geometry_size
  have formerSize := formerGeometry_size migratable
  have inside := installed.rebuilt.header_inside (installed.rebuilt.first_lt_last migratable.stored)
  change (geometryOf disk).size - (geometryOf disk).sectorSize.bytes + _ ≤ _ at inside
  have padding : (headerWrite disk .backup new).data.drop Gpt.Header.width =
      Bytes.zeroes (new.sectorSize.bytes - Gpt.Header.width) :=
    List.drop_left' (Gpt.Header.length_encode new.header)
  rw [installed.rebuilt.sectorSize, bytes] at padding
  have length : (headerWrite disk .backup new).data.length = 4096 :=
    (Inspection.Migratable.length_header installed.rebuilt).trans bytes
  have split : installation disk .backup found.mbr new =
      (blanking disk .backup found.mbr ++ [tableWrite disk .backup new]) ++
        headerWrite disk .backup new :: [] := by
    simp only [installation, List.append_assoc, List.cons_append, List.nil_append]
  have here : (formerGeometry disk).headerStart .backup =
      (headerWrite disk .backup new).offset + 3584 := by
    change (formerGeometry disk).size - (formerGeometry disk).sectorSize.bytes =
      (geometryOf disk).size - (geometryOf disk).sectorSize.bytes + 3584
    omega
  exact installed.bytesAt_padding migratable split padding length 3584 here (by omega) (by omega)
    fun _ impossible => absurd impossible List.not_mem_nil

/-- On a disk with small sectors the place of the old primary header was blanked, and what
was written later lies in front of it. -/
theorem blank_primary_of_short (installed : Installed found disk final .primary new first last)
    (small : disk.sectorSize = .small) (short : new.tableRoom ≤ clearTableBytes) :
    final.bytesAt ((formerGeometry disk).headerStart .primary) Gpt.Entry.width =
      Bytes.zeroes Gpt.Entry.width := by
  have bytes : (geometryOf disk).sectorSize.bytes = 512 := by rw [geometryOf, small]; rfl
  have formerBytes :
      (formerGeometry disk).sectorSize.bytes = 4096 := by rw [formerGeometry, small]; rfl
  have clear : clearTableBytes = 3072 := rfl
  have stale : staleHeaderBytes = 4096 := rfl
  have length := migratable.length_table installed.rebuilt
  have headerLength : (headerWrite disk .primary new).data.length =
      (geometryOf disk).sectorSize.bytes := Inspection.Migratable.length_header installed.rebuilt
  have split : installation disk .primary found.mbr new =
      [⟨0, found.mbr.sector.take SectorSize.small.bytes⟩,
        ⟨SectorSize.small.bytes, Bytes.zeroes SectorSize.small.bytes⟩] ++
      ⟨staleHeaderBytes, Bytes.zeroes staleHeaderBytes⟩ ::
        [tableWrite disk .primary new, headerWrite disk .primary new] := by
    simp only [installation, blanking, small, List.cons_append, List.nil_append]
  have here : (formerGeometry disk).headerStart .primary = staleHeaderBytes + 0 := by
    change (formerGeometry disk).sectorSize.bytes = _
    omega
  refine installed.bytesAt_padding migratable split List.drop_zero
    ((Bytes.length_zeroes _).trans (Nat.zero_add _).symm) 0 here (Nat.le_refl _) (by decide) ?_
  intro own member
  simp only [List.mem_cons, List.not_mem_nil, or_false] at member
  refine .inl ?_
  obtain rfl | rfl := member
  · change 2 * (geometryOf disk).sectorSize.bytes + _ ≤ _
    omega
  · change (geometryOf disk).sectorSize.bytes + _ ≤ _
    omega

/-- On a disk with small sectors the place of the old backup header was blanked, and what
was written later lies behind it. -/
theorem blank_backup_of_short (installed : Installed found disk final .backup new first last)
    (small : disk.sectorSize = .small) (short : new.tableRoom ≤ clearTableBytes) :
    final.bytesAt ((formerGeometry disk).headerStart .backup) Gpt.Entry.width =
      Bytes.zeroes Gpt.Entry.width := by
  have bytes : (geometryOf disk).sectorSize.bytes = 512 := by rw [geometryOf, small]; rfl
  have formerBytes :
      (formerGeometry disk).sectorSize.bytes = 4096 := by rw [formerGeometry, small]; rfl
  have clear : clearTableBytes = 3072 := rfl
  have stale : staleHeaderBytes = 4096 := rfl
  have width : Gpt.Entry.width = 128 := rfl
  have size := migratable.geometry_size
  have formerSize := formerGeometry_size migratable
  have room := migratable.last_le installed.rebuilt
  have split : installation disk .backup found.mbr new =
      [] ++ ⟨disk.size - staleHeaderBytes, Bytes.zeroes staleHeaderBytes⟩ ::
        [tableWrite disk .backup new, headerWrite disk .backup new] := by
    simp only [installation, blanking, List.cons_append, List.nil_append]
  have here : (formerGeometry disk).headerStart .backup = disk.size - staleHeaderBytes + 0 := by
    change (formerGeometry disk).size - (formerGeometry disk).sectorSize.bytes = _
    omega
  refine installed.bytesAt_padding migratable split List.drop_zero
    ((Bytes.length_zeroes _).trans (Nat.zero_add _).symm) 0 here (Nat.le_refl _) (by decide) ?_
  intro own member
  simp only [List.mem_cons, List.not_mem_nil, or_false] at member
  refine .inr ?_
  obtain rfl | rfl := member
  · change _ ≤ (geometryOf disk).size - (new.tableRoom + (geometryOf disk).sectorSize.bytes)
    omega
  · change _ ≤ (geometryOf disk).size - (geometryOf disk).sectorSize.bytes
    omega

end Blank

/-- A new entry array that reaches the place of an old header has a slot that begins there. -/
theorem slot_of_long (installed : Installed found disk final place new first last)
    (migratable : found.Migratable disk lba oldSectors) (small : disk.sectorSize = .small)
    (long : clearTableBytes < new.tableRoom) :
    final.bytesAt ((formerGeometry disk).headerStart place) Gpt.Entry.width ∈ new.allSlots := by
  have bytes : (geometryOf disk).sectorSize.bytes = 512 := by rw [geometryOf, small]; rfl
  have formerBytes : (formerGeometry disk).sectorSize.bytes = 4096 := by
    rw [formerGeometry, small]; rfl
  have width : Gpt.Entry.width = 128 := rfl
  have clear : clearTableBytes = 3072 := rfl
  have whole : new.tableRoom % new.sectorSize.bytes = 0 := new.sectorSize.wholeBytes_mod _
  have above : new.tableRoom < new.header.tableBytes + new.sectorSize.bytes :=
    new.sectorSize.wholeBytes_lt _
  rw [installed.rebuilt.sectorSize, bytes] at whole above
  rw [Gpt.Header.tableBytes, installed.rebuilt.entrySize migratable.stored, width] at above
  suffices slot : ∃ index < new.header.entryCount.toNat, (formerGeometry disk).headerStart place =
      (geometryOf disk).tableStart place new.tableRoom + index * Gpt.Entry.width by
    obtain ⟨index, counted, here⟩ := slot
    rw [here]
    exact installed.bytesAt_slot migratable counted
  cases place with
  | primary =>
      refine ⟨24, by omega, ?_⟩
      change (formerGeometry disk).sectorSize.bytes =
        2 * (geometryOf disk).sectorSize.bytes + 24 * 128
      omega
  | backup =>
      have size := migratable.geometry_size
      have formerSize := formerGeometry_size migratable
      have behind := installed.rebuilt.behind
      refine ⟨(new.tableRoom - 3584) / 128, by omega, ?_⟩
      change (formerGeometry disk).size - (formerGeometry disk).sectorSize.bytes =
        (geometryOf disk).size - (new.tableRoom + (geometryOf disk).sectorSize.bytes) +
          (new.tableRoom - 3584) / 128 * 128
      omega

/-- An entry array that keeps clear of the place of an old header leaves it blank. -/
theorem blank_former (installed : Installed found disk final place new first last)
    (migratable : found.Migratable disk lba oldSectors)
    (clear : disk.sectorSize = .small → new.tableRoom ≤ clearTableBytes) :
    final.bytesAt ((formerGeometry disk).headerStart place) Gpt.Entry.width =
      Bytes.zeroes Gpt.Entry.width := by
  obtain ⟨small, _⟩ | ⟨large, _⟩ := migratable.bytes_cases <;> cases place
  · exact blank_primary_of_short migratable installed small (clear small)
  · exact blank_backup_of_short migratable installed small (clear small)
  · exact blank_primary_of_large migratable installed large
  · exact blank_backup_of_large migratable installed large

/-- **What begins where an old header was is no header.** -/
theorem harmless_former (installed : Installed found disk final place new first last)
    (migratable : found.Migratable disk lba oldSectors) :
    Gpt.Harmless (final.bytesAt ((formerGeometry disk).headerStart place) Gpt.Entry.width) := by
  by_cases clear : disk.sectorSize = .small → new.tableRoom ≤ clearTableBytes
  · rw [installed.blank_former migratable clear]
    exact Gpt.harmless_zeroes
  · obtain ⟨small, long⟩ := Classical.not_imp.mp clear
    exact (installed.storedAt migratable).harmless _
      (installed.slot_of_long migratable small (Nat.lt_of_not_le long))

end Installed

/-! ## Looking for the old tables -/

/-- No table is found where an old header was. -/
theorem Installed.read_former (installed : Installed found disk final place new first last)
    (migratable : found.Migratable disk lba oldSectors) {former : Nat}
    (here : place.lba (formerGeometry disk).sectors = some former) (gpt : Gpt) :
    (Gpt.read final former disk.sectorSize.other (formerGeometry disk).sectors).outcome ≠
      .ok gpt := by
  intro read
  obtain ⟨same, stored⟩ := Gpt.read_eq_ok_iff.mp read
  have start : former * gpt.sectorSize.bytes = (formerGeometry disk).headerStart place := by
    rw [same]
    exact Geometry.lba_mul_bytes here
  have enough : Gpt.Entry.width ≤ gpt.sectorSize.bytes := by
    rcases gpt.sectorSize.bytes_cases with bytes | bytes <;> rw [bytes] <;> decide
  have coherent := stored.accepted.toCoherent
  rw [← stored.header_eq, start] at coherent
  refine Gpt.not_coherent_of_harmless ?_ ?_ _ _ _ coherent
  · rw [Disk.length_bytesAt]
    exact enough
  · rw [Disk.take_bytesAt final _ enough]
    exact installed.harmless_former migratable

end Migration

/-- **Nothing is left of the old sector size.**  After a migration neither place of a
header at that size holds a table, whatever the entries and the rest of the disk are. -/
theorem nothing_left_of_old_size {disk : Disk} {skipParameterBlock : Bool} {found : Inspection}
    {faults : FaultPlan} {final : Device}
    (inspected : (Inspection.ofDisk disk skipParameterBlock).outcome = .ok found)
    (needed : found.needsMigration)
    (repaired :
      (repairDisk skipParameterBlock).Succeeds (Device.withFaults disk faults []) () final) :
    ∀ gpt,
      (Gpt.read final.disk 1 found.gpt.sectorSize
        (disk.size / found.gpt.sectorSize.bytes)).outcome ≠ .ok gpt ∧
      (Gpt.read final.disk (disk.size / found.gpt.sectorSize.bytes - 1) found.gpt.sectorSize
        (disk.size / found.gpt.sectorSize.bytes)).outcome ≠ .ok gpt := by
  obtain ⟨_, _, _, _, migratable, installed⟩ := installed_of_repair inspected needed repaired
  have minimum := minimumSectors_le_former migratable
  have atEnd : Location.backup.lba (formerGeometry disk).sectors =
      some ((formerGeometry disk).sectors - 1) :=
    Word.sub_eq_some_iff.mpr ⟨Nat.le_trans (by decide) minimum, rfl⟩
  obtain ⟨_, front⟩ := installed .primary
  obtain ⟨_, behind⟩ := installed .backup
  rw [migratable.differs]
  intro gpt
  exact ⟨front.read_former migratable rfl gpt, behind.read_former migratable atEnd gpt⟩

theorem sampleDisk_leaves_nothing : ∃ found final,
    (Inspection.ofDisk sampleDisk false).outcome = .ok found ∧ found.needsMigration ∧
    (repairDisk false).Succeeds (Device.ofDisk sampleDisk) () final ∧
    ∀ gpt,
      (Gpt.read final.disk 1 found.gpt.sectorSize (24576 / found.gpt.sectorSize.bytes)).outcome ≠
        .ok gpt ∧
      (Gpt.read final.disk (24576 / found.gpt.sectorSize.bytes - 1) found.gpt.sectorSize
        (24576 / found.gpt.sectorSize.bytes)).outcome ≠ .ok gpt := by
  obtain ⟨found, nonActive, active, inspected, needed, _, nonActiveRebuilt, activeRebuilt⟩ :=
    sampleDisk_migrates
  obtain ⟨final, repaired⟩ := exists_repair inspected needed nonActiveRebuilt activeRebuilt
  exact ⟨found, final, inspected, needed, repaired,
    sampleDisk_size ▸ nothing_left_of_old_size inspected needed repaired⟩

end TrustBoundary
